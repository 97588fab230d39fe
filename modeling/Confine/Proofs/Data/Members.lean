import Confine.Proofs.Data.Reading

/-!
What the members of an object give to the fields of a record: the value of the one member with the
name of a field, or the default where there is none. Other members and the order do not count.
-/

namespace Confine

namespace Data

abbrev Members := List (String × Data)

/-- No two members have this name. -/
def Once (name : String) (ms : Members) : Prop := ms.countP (fun m => m.1 = name) ≤ 1

/-- What members give to a field: what the member with its name means, or the default. -/
inductive Gives {α : Type} (Means : Data → α → Prop) (default : α) (name : String) (ms : Members) :
    α → Prop
  | given {d : Data} {a : α} (hmem : (name, d) ∈ ms) (h : Means d a) :
      Gives Means default name ms a
  | absent (h : ∀ d, (name, d) ∉ ms) : Gives Means default name ms default

/-- The members of an object, and those that the items of a list stand for. -/
inductive Holds (f : DataFormat) (names : List String) : Data → Members → Prop
  | object (ms : Members) : Holds f names (.object ms) ms
  | list {items : List Data} (h : items.length ≤ names.length ∨ f.surplusItems = true) :
      Holds f names (.list items) (names.zip items)

theorem Holds.unique {f : DataFormat} {names : List String} {d : Data} {ms ms' : Members}
    (h : Holds f names d ms) (h' : Holds f names d ms') : ms = ms' := by
  cases h <;> cases h' <;> rfl

/-- Members that differ in their order, and in members whose names are none of these. -/
def Alike (names : List String) (ms ms' : Members) : Prop :=
  (ms.filter fun m => m.1 ∈ names).Perm (ms'.filter fun m => m.1 ∈ names)

section Lookup

variable {name : String} {d : Data} {ms ms' : Members}

theorem lookup_eq_head? : ms.lookup name = (ms.filter fun m => m.1 = name).head?.map Prod.snd := by
  induction ms with
  | nil => rfl
  | cons m ms ih =>
    obtain ⟨n, d⟩ := m
    by_cases hn : n = name
    · subst hn
      simp
    · have hne : (name == n) = false := beq_eq_false_iff_ne.mpr (Ne.symm hn)
      rw [List.lookup_cons, hne, List.filter_cons_of_neg (by simpa using hn), ← ih]

theorem member?_of_once (h : Once name ms) : member? name ms = some (ms.lookup name) := by
  rw [Once, List.countP_eq_length_filter] at h
  rw [member?, lookup_eq_head?]
  generalize ms.filter (fun m => m.1 = name) = found at h
  obtain - | ⟨first, - | ⟨second, others⟩⟩ := found
  · rfl
  · rfl
  · exact absurd h (by simp)

theorem member?_of_not_once (h : ¬ Once name ms) : member? name ms = none := by
  rw [Once, List.countP_eq_length_filter] at h
  rw [member?]
  generalize ms.filter (fun m => m.1 = name) = found at h
  obtain - | ⟨first, - | ⟨second, others⟩⟩ := found
  · exact absurd (Nat.zero_le 1) h
  · exact absurd (Nat.le_refl 1) h
  · rfl

theorem lookup_eq_none : ms.lookup name = none ↔ ∀ d, (name, d) ∉ ms := by
  rw [lookup_eq_head?, Option.map_eq_none_iff, List.head?_eq_none_iff, List.filter_eq_nil_iff]
  constructor
  · intro h d hmem
    exact h _ hmem (decide_eq_true rfl)
  · intro h m hmem hname
    exact h m.2 (of_decide_eq_true hname ▸ hmem)

theorem mem_of_lookup (h : ms.lookup name = some d) : (name, d) ∈ ms := by
  rw [lookup_eq_head?, Option.map_eq_some_iff] at h
  obtain ⟨m, hm, rfl⟩ := h
  obtain ⟨hmem, hname⟩ := List.mem_filter.mp (List.mem_of_head? hm)
  exact of_decide_eq_true hname ▸ hmem

theorem lookup_eq_some (h : Once name ms) : ms.lookup name = some d ↔ (name, d) ∈ ms := by
  refine ⟨mem_of_lookup, fun hmem => ?_⟩
  rw [lookup_eq_head?]
  rw [Once, List.countP_eq_length_filter] at h
  have hfound : (name, d) ∈ ms.filter fun m => m.1 = name :=
    List.mem_filter.mpr ⟨hmem, decide_eq_true rfl⟩
  generalize ms.filter (fun m => m.1 = name) = found at h hfound
  obtain - | ⟨first, - | ⟨second, others⟩⟩ := found
  · exact absurd hfound List.not_mem_nil
  · rw [← List.mem_singleton.mp hfound]
    rfl
  · exact absurd h (by simp)

theorem mapM_member?_of_once {names : List String} (h : ∀ name ∈ names, Once name ms) :
    names.mapM (member? · ms) = some (names.map (ms.lookup ·)) := by
  induction names with
  | nil => rfl
  | cons name names ih =>
    have hrest := ih fun other hmem => h other (List.mem_cons_of_mem name hmem)
    rw [List.mapM_cons, member?_of_once (h name List.mem_cons_self), hrest]
    rfl

theorem mapM_member?_of_not_once {names : List String} (hmem : name ∈ names)
    (h : ¬ Once name ms) : names.mapM (member? · ms) = none := by
  induction names with
  | nil => exact absurd hmem List.not_mem_nil
  | cons other names ih =>
    rw [List.mapM_cons]
    obtain rfl | hmem := List.mem_cons.mp hmem
    · rw [member?_of_not_once h]
      rfl
    · rw [ih hmem]
      cases member? other ms <;> rfl

theorem once_filter (ms : Members) (keep : String → Bool) (h : keep name = true) :
    Once name (ms.filter fun m => keep m.1) ↔ Once name ms := by
  have hcount : (ms.filter fun m => keep m.1).countP (fun m => m.1 = name) =
      ms.countP fun m => m.1 = name := by
    rw [List.countP_filter]
    apply List.countP_congr
    intro m _
    rw [Bool.and_eq_true, decide_eq_true_eq]
    refine and_iff_left_of_imp fun heq => ?_
    rw [heq, h]
  rw [Once, hcount, Once]

theorem mem_filter_name (keep : String → Bool) (h : keep name = true) :
    (name, d) ∈ ms.filter (fun m => keep m.1) ↔ (name, d) ∈ ms := by
  rw [List.mem_filter]
  exact and_iff_left h

/-- The fields of a record are given by the members of its names, if none of these is repeated. -/
theorem mapM_member?_eq_some {names : List String} {given : List (Option Data)} :
    names.mapM (member? · ms) = some given ↔
      (∀ name ∈ names, Once name ms) ∧ names.map (ms.lookup ·) = given := by
  by_cases h : ∀ name ∈ names, Once name ms
  · rw [mapM_member?_of_once h, Option.some.injEq]
    exact (and_iff_right h).symm
  · obtain ⟨name, hname⟩ := Classical.not_forall.mp h
    obtain ⟨hmem, hrepeated⟩ := Classical.not_imp.mp hname
    rw [mapM_member?_of_not_once hmem hrepeated]
    exact iff_of_false (by rintro ⟨⟩) fun hgiven => h hgiven.1

/-- The items of a list stand for members with the names of the fields. -/
theorem lookup_zip {names : List String} (hnames : names.Nodup) (items : List Data) :
    names.map ((names.zip items).lookup ·) = (List.range names.length).map (items[·]?) := by
  induction names generalizing items with
  | nil => rfl
  | cons name names ih =>
    rw [List.nodup_cons] at hnames
    rw [List.length_cons, List.range_succ_eq_map, List.map_cons, List.map_cons, List.map_map]
    cases items with
    | nil =>
      simp only [List.zip_nil_right, List.lookup_nil, List.getElem?_nil, List.map_const',
        Function.comp_def, List.length_range]
    | cons d items =>
      rw [List.zip_cons_cons, List.lookup_cons_self]
      congr 1
      have hrest := ih hnames.2 items
      rw [← funext fun i => (List.getElem?_cons_succ : (d :: items)[i + 1]? = items[i]?)] at hrest
      rw [Function.comp_def, ← hrest]
      apply List.map_congr_left
      intro other hmem
      have hne : other ≠ name := fun heq => hnames.1 (heq ▸ hmem)
      rw [List.lookup_cons, beq_eq_false_iff_ne.mpr hne]

theorem once_zip {names : List String} (hnames : names.Nodup) (items : List Data) (name : String) :
    Once name (names.zip items) := by
  induction names generalizing items with
  | nil => exact Nat.zero_le 1
  | cons other names ih =>
    rw [List.nodup_cons] at hnames
    cases items with
    | nil => exact Nat.zero_le 1
    | cons d items =>
      rw [List.zip_cons_cons, Once]
      by_cases heq : other = name
      · have hno : (names.zip items).countP (fun m => m.1 = name) = 0 := by
          rw [List.countP_eq_zero]
          intro m hm hname
          exact hnames.1 (heq ▸ of_decide_eq_true hname ▸ (List.of_mem_zip hm).1)
        have hcons := List.countP_cons_of_pos (l := names.zip items) (a := (other, d))
          (p := fun m => decide (m.1 = name)) (decide_eq_true heq)
        exact Nat.le_of_eq (hcons.trans (congrArg Nat.succ hno))
      · rw [List.countP_cons_of_neg (by simpa using heq)]
        exact ih hnames.2 items

/-- The fields of a record are what its members are looked up for, none of them being repeated. -/
theorem fields_eq_some {f : DataFormat} {names : List String} (hnames : names.Nodup)
    {given : List (Option Data)} :
    d.fields f names = some given ↔
      ∃ ms, Holds f names d ms ∧ (∀ name ∈ names, Once name ms) ∧
        names.map (ms.lookup ·) = given := by
  constructor
  · intro h
    cases d with
    | object ms => exact ⟨ms, .object ms, mapM_member?_eq_some.mp h⟩
    | list items =>
      rw [fields] at h
      split at h
      · next hlength =>
        rw [Bool.or_eq_true, decide_eq_true_eq] at hlength
        rw [← lookup_zip hnames, Option.some.injEq] at h
        exact ⟨_, .list hlength, fun name _ => once_zip hnames items name, h⟩
      · cases h
    | _ => cases h
  · rintro ⟨ms, hholds, h⟩
    cases hholds with
    | object => exact mapM_member?_eq_some.mpr h
    | @list items hlength =>
      rw [fields, if_pos (by rw [Bool.or_eq_true, decide_eq_true_eq]; exact hlength),
        ← lookup_zip hnames, h.2]

/-- A tagged object has its tag as a text, once, and all its other members can be kept. -/
theorem taggedInside_object_eq_some {f : DataFormat} {level : Nat} {tag : String} {rest : Rest} :
    taggedInside f level tag (.object ms) = some (name, rest) ↔
      Once tag ms ∧ (tag, .text name) ∈ ms ∧ (∀ m ∈ ms, m.1 ≠ tag → keepable f level m.2 = true) ∧
        rest = .members (ms.filter fun m => m.1 ≠ tag) := by
  have hkept : ((ms.filter fun m => m.1 ≠ tag).all fun m => keepable f level m.2) = true ↔
      ∀ m ∈ ms, m.1 ≠ tag → keepable f level m.2 = true := by
    simp only [List.all_eq_true, List.mem_filter, decide_eq_true_eq, and_imp]
  by_cases h : Once tag ms
  · have htext : required? text? (ms.lookup tag) = some name ↔ (tag, .text name) ∈ ms := by
      rw [← lookup_eq_some h]
      cases ms.lookup tag with
      | none => simp [required?]
      | some d => cases d <;> simp [required?, text?]
    simp only [taggedInside, member?_of_once h, Option.bind_eq_bind, Option.bind_some,
      Option.bind_eq_some_iff]
    constructor
    · rintro ⟨name', hname, hif⟩
      split at hif
      · next hall =>
        cases hif
        exact ⟨h, htext.mp hname, hkept.mp hall, rfl⟩
      · cases hif
    · rintro ⟨-, hname, hall, rfl⟩
      exact ⟨name, htext.mpr hname, if_pos (hkept.mpr hall)⟩
  · simp only [taggedInside, member?_of_not_once h, Option.bind_eq_bind, Option.bind_none]
    exact iff_of_false (by rintro ⟨⟩) fun hall => h hall.1

/-- A tagged list has its tag as a text first, and all its other items can be kept. -/
theorem taggedInside_list_eq_some {f : DataFormat} {level : Nat} {tag : String} {rest : Rest}
    {items : List Data} :
    taggedInside f level tag (.list items) = some (name, rest) ↔
      ∃ ds, items = .text name :: ds ∧ (∀ d ∈ ds, keepable f level d = true) ∧
        rest = .items ds := by
  cases items with
  | nil => simp [taggedInside]
  | cons d ds =>
    simp only [taggedInside, Option.bind_eq_bind, Option.bind_eq_some_iff, List.cons.injEq,
      ← List.all_eq_true]
    constructor
    · rintro ⟨name', hname, hif⟩
      cases d with
      | text s =>
        cases hname
        split at hif
        · next hall =>
          cases hif
          exact ⟨ds, ⟨rfl, rfl⟩, hall, rfl⟩
        · cases hif
      | _ => cases hname
    · rintro ⟨_, ⟨rfl, rfl⟩, hall, rfl⟩
      exact ⟨name, rfl, if_pos hall⟩

end Lookup

section Fields

variable {α : Type} {Means : Data → α → Prop} {read : Data → Option α} {default a : α}
variable {name : String} {ms ms' : Members}

/-- A field with a default gets what its reader makes of the member with its name. -/
theorem orDefault?_lookup (hread : ∀ d a, read d = some a ↔ Means d a) (h : Once name ms) :
    orDefault? read default (ms.lookup name) = some a ↔ Gives Means default name ms a := by
  constructor
  · intro ha
    cases hd : ms.lookup name with
    | none =>
      rw [hd] at ha
      cases ha
      exact .absent (lookup_eq_none.mp hd)
    | some d =>
      rw [hd] at ha
      exact .given (mem_of_lookup hd) ((hread d a).mp ha)
  · intro ha
    cases ha with
    | given hmem hd =>
      rw [(lookup_eq_some h).mpr hmem]
      exact (hread _ a).mpr hd
    | absent hno =>
      rw [lookup_eq_none.mpr hno]
      rfl

end Fields

section Variation

variable {α : Type} {Means : Data → α → Prop} {default a : α} {names : List String}
variable {name : String} {ms ms' : Members}

theorem Alike.symm (h : Alike names ms ms') : Alike names ms' ms := List.Perm.symm h

theorem Alike.mem (h : Alike names ms ms') (hn : name ∈ names) {d : Data} (hmem : (name, d) ∈ ms) :
    (name, d) ∈ ms' :=
  (List.mem_filter.mp (h.mem_iff.mp (List.mem_filter.mpr ⟨hmem, decide_eq_true hn⟩))).1

theorem Alike.once (h : Alike names ms ms') (hn : name ∈ names) (ho : Once name ms) :
    Once name ms' := by
  have hfilter (l : Members) := once_filter l (fun n => decide (n ∈ names)) (decide_eq_true hn)
  rw [← hfilter, Once, ← h.countP_eq]
  exact (hfilter ms).mpr ho

theorem Alike.gives (h : Alike names ms ms') (hn : name ∈ names)
    (ha : Gives Means default name ms a) : Gives Means default name ms' a := by
  cases ha with
  | given hmem ha => exact .given (h.mem hn hmem) ha
  | absent hno => exact .absent fun d hmem => hno d (h.symm.mem hn hmem)

variable {other : String} {before after : Members} {d d' : Data}

theorem once_replace :
    Once other (before ++ (name, d') :: after) ↔ Once other (before ++ (name, d) :: after) := by
  simp only [Once, List.countP_append, List.countP_cons]

/-- Where a member has another value that means the same, every field gets the same. -/
theorem Gives.replace (h : Gives Means default other (before ++ (name, d) :: after) a)
    (hsame : other = name → ∀ a, Means d a → Means d' a) :
    Gives Means default other (before ++ (name, d') :: after) a := by
  cases h with
  | @given given _ hmem ha =>
    rw [List.mem_append, List.mem_cons] at hmem
    obtain hmem | heq | hmem := hmem
    · exact .given (List.mem_append_left _ hmem) ha
    · obtain ⟨rfl, rfl⟩ := Prod.mk.inj heq
      exact .given (List.mem_append_right _ List.mem_cons_self) (hsame rfl a ha)
    · exact .given (List.mem_append_right _ (List.mem_cons_of_mem _ hmem)) ha
  | absent hno =>
    refine .absent fun given hmem => ?_
    rw [List.mem_append, List.mem_cons] at hmem
    obtain hmem | heq | hmem := hmem
    · exact hno given (List.mem_append_left _ hmem)
    · obtain ⟨rfl, rfl⟩ := Prod.mk.inj heq
      exact hno d (List.mem_append_right _ List.mem_cons_self)
    · exact hno given (List.mem_append_right _ (List.mem_cons_of_mem _ hmem))

end Variation

end Data

end Confine
