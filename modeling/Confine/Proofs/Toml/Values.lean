import Confine.Toml.Document

/-!
The values that a TOML text can have. Whatever is read from a text is made of truth values, texts,
integers of 64 bits and other numbers; so every part of it has a value, and no integer is larger.
-/

namespace Confine

namespace Data

/-- The data that a TOML text can have for a value. -/
inductive IsToml : Data → Prop
  | bool (b : Bool) : IsToml (.bool b)
  | int {i : Int} (lo : -0x8000000000000000 ≤ i) (hi : i < 0x8000000000000000) : IsToml (.int i)
  | real : IsToml .real
  | text (s : String) : IsToml (.text s)
  | list {ds : List Data} (h : ∀ d ∈ ds, IsToml d) : IsToml (.list ds)
  | object {ms : List (String × Data)} (h : ∀ m ∈ ms, IsToml m.2) : IsToml (.object ms)

theorem isToml_list {ds : List Data} : (list ds).IsToml ↔ ∀ d ∈ ds, d.IsToml := by
  constructor
  · rintro (_ | _ | _ | _ | h)
    exact h
  · exact .list

theorem isToml_object {ms : List (String × Data)} :
    (object ms).IsToml ↔ ∀ m ∈ ms, m.2.IsToml := by
  constructor
  · rintro (_ | _ | _ | _ | _ | h)
    exact h
  · exact .object

theorem IsToml.int_lt {i : Int} (h : (Data.int i).IsToml) : i < 0x8000000000000000 := by
  cases h with
  | int _ hi => exact hi

theorem readableItems_iff {ds : List Data} :
    readableItems ds = true ↔ ∀ d ∈ ds, d.readable = true := by
  induction ds with
  | nil => simp [readableItems]
  | cons d ds ih => rw [readableItems, Bool.and_eq_true, ih, List.forall_mem_cons]

theorem readableMembers_iff {ms : List (String × Data)} :
    readableMembers ms = true ↔ ∀ m ∈ ms, m.2.readable = true := by
  induction ms with
  | nil => simp [readableMembers]
  | cons m ms ih =>
    obtain ⟨name, d⟩ := m
    rw [readableMembers, readableMember, Bool.and_eq_true, ih, List.forall_mem_cons]

theorem readable_list {ds : List Data} :
    (list ds).readable = true ↔ ∀ d ∈ ds, d.readable = true := by
  rw [readable, readableItems_iff]

theorem readable_object {ms : List (String × Data)} :
    (object ms).readable = true ↔ ∀ m ∈ ms, m.2.readable = true := by
  rw [readable, readableMembers_iff]

theorem IsToml.readable {d : Data} (h : d.IsToml) : d.readable = true := by
  induction h with
  | list _ ih => exact readable_list.mpr ih
  | object _ ih => exact readable_object.mpr ih
  | _ => rfl

end Data

namespace Toml

/-- Every value in a table is one that a text can have. -/
def Members.IsToml (ms : Members) : Prop := ∀ m ∈ ms, m.2.toData.IsToml

theorem membersData_eq (ms : Members) : membersData ms = ms.map memberData := by
  induction ms with
  | nil => rfl
  | cons m ms ih => rw [membersData, ih, List.map_cons]

theorem elementsData_eq (is : List Item) : elementsData is = is.map Item.toData := by
  induction is with
  | nil => rfl
  | cons i is ih => rw [elementsData, ih, List.map_cons]

theorem isToml_membersData {ms : Members} :
    (Data.object (membersData ms)).IsToml ↔ ms.IsToml := by
  simp only [Data.isToml_object, membersData_eq, List.forall_mem_map, Members.IsToml,
    Prod.forall, memberData]

theorem isToml_table {implicit dotted : Bool} {ms : Members} :
    (Item.table implicit dotted ms).toData.IsToml ↔ ms.IsToml := by
  rw [Item.toData, isToml_membersData]

theorem isToml_tables {is : List Item} :
    (Item.tables is).toData.IsToml ↔ ∀ i ∈ is, i.toData.IsToml := by
  rw [Item.toData, Data.isToml_list, elementsData_eq, List.forall_mem_map]

namespace Members

variable {ms ms' : Members} {key : String} {item : Item}

theorem IsToml.put (h : ms.IsToml) (hi : item.toData.IsToml) :
    (ms.put key item).IsToml := by
  induction ms with
  | nil =>
    intro m hm
    rw [List.mem_singleton.mp hm]
    exact hi
  | cons m ms ih =>
    obtain ⟨k, i⟩ := m
    obtain ⟨hfirst, hrest⟩ := List.forall_mem_cons.mp h
    rw [Members.put]
    split
    · exact List.forall_mem_cons.mpr ⟨hi, hrest⟩
    · exact List.forall_mem_cons.mpr ⟨hfirst, ih hrest⟩

theorem IsToml.find? (h : ms.IsToml) (hf : ms.find? key = some item) :
    item.toData.IsToml := by
  obtain ⟨before, after, hms, -⟩ := List.lookup_eq_some_iff.mp hf
  exact h (key, item) (hms ▸ List.mem_append_right _ List.mem_cons_self)

/-- A change that puts nothing else into a table. -/
def Keeps (change : Members → Option Members) : Prop :=
  ∀ ms ms', change ms = some ms' → ms.IsToml → ms'.IsToml

theorem Keeps.changeLast {change : Members → Option Members} (hc : Keeps change)
    {is is' : List Item} (h : changeLast change is = some is')
    (hi : ∀ i ∈ is, i.toData.IsToml) : ∀ i ∈ is', i.toData.IsToml := by
  fun_induction Members.changeLast change is generalizing is' with
  | case1 => cases h
  | case2 implicit dotted ms =>
    obtain ⟨ms', hms', rfl⟩ := Option.map_eq_some_iff.mp h
    have hms := isToml_table.mp (hi _ List.mem_cons_self)
    intro i hmem
    rw [List.mem_singleton.mp hmem]
    exact isToml_table.mpr (hc ms ms' hms' hms)
  | case3 => cases h
  | case4 i is _ _ ih =>
    obtain ⟨is', his', rfl⟩ := Option.map_eq_some_iff.mp h
    obtain ⟨hfirst, hrest⟩ := List.forall_mem_cons.mp hi
    exact List.forall_mem_cons.mpr ⟨hfirst, ih his' hrest⟩

theorem isToml_nil : Members.IsToml [] := fun _ hm => absurd hm List.not_mem_nil

theorem Keeps.changeAt {change : Bool → Members → Option Members}
    (hc : ∀ isDotted, Keeps (change isDotted)) (dotted : Bool) (path : List String)
    (isDotted : Bool) : Keeps (changeAt dotted change path isDotted) := by
  induction path generalizing isDotted with
  | nil => exact hc isDotted
  | cons key path ih =>
    intro ms ms' h hms
    rw [Members.changeAt] at h
    split at h
    · obtain ⟨inner, hinner, h⟩ := Option.bind_eq_some_iff.mp h
      cases h
      exact hms.put (isToml_table.mpr (ih dotted [] inner hinner isToml_nil))
    · cases h
    · next implicit isDotted inner hfind =>
      split at h
      · cases h
      · obtain ⟨inner', hinner, h⟩ := Option.bind_eq_some_iff.mp h
        cases h
        have hbefore := isToml_table.mp (hms.find? hfind)
        exact hms.put (isToml_table.mpr (ih isDotted inner inner' hinner hbefore))
    · next elements hfind =>
      obtain ⟨elements', helements, h⟩ := Option.bind_eq_some_iff.mp h
      cases h
      have hbefore := isToml_tables.mp (hms.find? hfind)
      exact hms.put (isToml_tables.mpr ((ih false).changeLast helements hbefore))

theorem keeps_define (path : List String) {d : Data} (hd : d.IsToml) :
    Keeps (define path key d) := by
  apply Keeps.changeAt
  intro isDotted ms ms' h hms
  dsimp only at h
  split at h
  · cases h
  · cases h
    exact hms.put hd

theorem keeps_openTable (path : List String) : Keeps (openTable path key) := by
  apply Keeps.changeAt
  intro isDotted ms ms' h hms
  dsimp only at h
  split at h
  · cases h
    exact hms.put (isToml_table.mpr isToml_nil)
  · next hfind =>
    cases h
    exact hms.put (isToml_table.mpr (isToml_table.mp (hms.find? hfind)))
  · cases h

theorem keeps_openElement (path : List String) : Keeps (openElement path key) := by
  apply Keeps.changeAt
  intro isDotted ms ms' h hms
  have hnew : (Item.table false false []).toData.IsToml :=
    isToml_table.mpr isToml_nil
  dsimp only at h
  split at h
  · cases h
    apply hms.put
    rw [isToml_tables, List.forall_mem_singleton]
    exact hnew
  · next elements hfind =>
    cases h
    apply hms.put
    rw [isToml_tables, List.forall_mem_append, List.forall_mem_singleton]
    exact ⟨isToml_tables.mp (hms.find? hfind), hnew⟩
  · cases h

/-- A table that is built step by step keeps what every step keeps. -/
theorem foldlM_keeps {α β : Type} {P : β → Prop} {f : β → α → Option β} {as : List α} {b b' : β}
    (hf : ∀ a ∈ as, ∀ b b', f b a = some b' → P b → P b') (h : as.foldlM f b = some b')
    (hb : P b) : P b' := by
  induction as generalizing b with
  | nil =>
    cases h
    exact hb
  | cons a as ih =>
    rw [List.foldlM_cons] at h
    obtain ⟨b₁, hb₁, h⟩ := Option.bind_eq_some_iff.mp h
    have hrest := fun a' ha' => hf a' (List.mem_cons_of_mem a ha')
    exact ih hrest h (hf a List.mem_cons_self b b₁ hb₁ hb)

theorem isToml_ofPairs {pairs : List (List String × Data)}
    (hp : ∀ p ∈ pairs, p.2.IsToml) (h : Members.ofPairs pairs = some ms) :
    ms.IsToml := by
  refine foldlM_keeps (P := Members.IsToml) ?_ h isToml_nil
  intro p hmem ms ms' h hms
  obtain ⟨last, -, h⟩ := Option.bind_eq_some_iff.mp h
  exact keeps_define _ (hp p hmem) ms ms' h hms

end Members

theorem isToml_of_int64? {i : Int} {d : Data} (h : int64? i = some d) : d.IsToml := by
  rw [int64?] at h
  split at h
  · next hrange =>
    cases h
    exact .int hrange.1 hrange.2
  · cases h

theorem isToml_of_basedInt? {base : Nat} {s r : Chars} {d : Data}
    (h : basedInt? base s = some (d, r)) : d.IsToml := by
  obtain ⟨_, -, h⟩ := Option.bind_eq_some_iff.mp h
  obtain ⟨d, hd, h⟩ := Option.bind_eq_some_iff.mp h
  cases h
  exact isToml_of_int64? hd

theorem isToml_of_decimal? {s r : Chars} {d : Data} (h : decimal? s = some (d, r)) :
    d.IsToml := by
  rw [decimal?] at h
  generalize sign s = signed at h
  obtain ⟨_, -, h⟩ := Option.bind_eq_some_iff.mp h
  obtain ⟨_, -, h⟩ := Option.bind_eq_some_iff.mp h
  obtain ⟨_, -, h⟩ := Option.bind_eq_some_iff.mp h
  dsimp only at h
  split at h
  · obtain ⟨d, hd, h⟩ := Option.bind_eq_some_iff.mp h
    cases h
    exact isToml_of_int64? hd
  · split at h
    · cases h
    · cases h
      exact .real

theorem isToml_dateTimeData (s rest : Chars) : (dateTimeData s rest).IsToml := by
  apply Data.IsToml.object
  rw [List.forall_mem_singleton]
  exact .text _

theorem isToml_of_scalar? {s r : Chars} {d : Data} (h : scalar? s = some (d, r)) :
    d.IsToml := by
  unfold scalar? at h
  split at h
  · cases h
    exact isToml_dateTimeData s r
  · split at h
    · exact isToml_of_basedInt? h
    · exact isToml_of_basedInt? h
    · exact isToml_of_basedInt? h
    · split at h
      · cases h
        exact .real
      · cases h
        exact .real
      · exact isToml_of_decimal? h

/-- What is read with some fuel, together with what is read inside it with less. -/
theorem isToml_within (fuel : Nat) :
    (∀ depth s d r, value fuel depth s = some (d, r) → d.IsToml) ∧
    (∀ depth s ds r, items fuel depth s = some (ds, r) → ∀ d ∈ ds, d.IsToml) ∧
    (∀ depth s ps r, pairs fuel depth s = some (ps, r) → ∀ p ∈ ps, p.2.IsToml) := by
  induction fuel with
  | zero =>
    refine ⟨?_, ?_, ?_⟩
    · intro depth s d r h
      rw [value] at h
      cases h
    · intro depth s ds r h
      rw [items] at h
      cases h
    · intro depth s ps r h
      rw [pairs] at h
      cases h
  | succ fuel ih =>
    obtain ⟨hvalue, hitems, hpairs⟩ := ih
    refine ⟨?_, ?_, ?_⟩
    · intro depth s d r h
      unfold value at h
      split at h
      · obtain ⟨_, -, h⟩ := Option.map_eq_some_iff.mp h
        cases h
        exact .text _
      · obtain ⟨_, -, h⟩ := Option.map_eq_some_iff.mp h
        cases h
        exact .text _
      · cases h
        exact .bool true
      · cases h
        exact .bool false
      · split at h
        · obtain ⟨⟨ds, r'⟩, hds, h⟩ := Option.bind_eq_some_iff.mp h
          cases h
          exact Data.isToml_list.mpr (hitems _ _ _ _ hds)
        · cases h
      · split at h
        · split at h
          · cases h
            exact isToml_membersData.mpr Members.isToml_nil
          · obtain ⟨⟨ps, r'⟩, hps, h⟩ := Option.bind_eq_some_iff.mp h
            obtain ⟨ms, hms, h⟩ := Option.bind_eq_some_iff.mp h
            cases h
            exact isToml_membersData.mpr (Members.isToml_ofPairs (hpairs _ _ _ _ hps) hms)
        · cases h
      · exact isToml_of_scalar? h
    · intro depth s ds r h
      unfold items at h
      split at h
      · cases h
        exact fun _ hmem => absurd hmem List.not_mem_nil
      · obtain ⟨⟨d, r₁⟩, hd, h⟩ := Option.bind_eq_some_iff.mp h
        have hfirst := hvalue _ _ _ _ hd
        simp only at h
        split at h
        · obtain ⟨⟨rest, r₂⟩, hrest, h⟩ := Option.bind_eq_some_iff.mp h
          cases h
          exact List.forall_mem_cons.mpr ⟨hfirst, hitems _ _ _ _ hrest⟩
        · cases h
          exact List.forall_mem_singleton.mpr hfirst
        · cases h
    · intro depth s ps r h
      rw [pairs] at h
      obtain ⟨⟨key, r₁⟩, -, h⟩ := Option.bind_eq_some_iff.mp h
      obtain ⟨r₂, -, h⟩ := Option.bind_eq_some_iff.mp h
      obtain ⟨⟨d, r₃⟩, hd, h⟩ := Option.bind_eq_some_iff.mp h
      have hfirst := hvalue _ _ _ _ hd
      simp only at h
      split at h
      · obtain ⟨⟨rest, r₄⟩, hrest, h⟩ := Option.bind_eq_some_iff.mp h
        cases h
        exact List.forall_mem_cons.mpr ⟨hfirst, hpairs _ _ _ _ hrest⟩
      · cases h
        exact List.forall_mem_singleton.mpr hfirst
      · cases h

/-- What a line assigns is such a value. -/
def Line.IsToml : Line → Prop
  | assign _ d => d.IsToml
  | _ => True

theorem isToml_of_line? {s r : Chars} {l : Line} (h : line? s = some (l, r)) : l.IsToml := by
  unfold line? at h
  split at h
  · obtain ⟨⟨key, r₁⟩, -, h⟩ := Option.bind_eq_some_iff.mp h
    simp only at h
    split at h
    · obtain ⟨_, -, h⟩ := Option.bind_eq_some_iff.mp h
      cases h
      trivial
    · cases h
  · obtain ⟨⟨key, r₁⟩, -, h⟩ := Option.bind_eq_some_iff.mp h
    obtain ⟨_, -, h⟩ := Option.bind_eq_some_iff.mp h
    obtain ⟨_, -, h⟩ := Option.bind_eq_some_iff.mp h
    cases h
    trivial
  · obtain ⟨⟨key, r₁⟩, -, h⟩ := Option.bind_eq_some_iff.mp h
    obtain ⟨_, -, h⟩ := Option.bind_eq_some_iff.mp h
    obtain ⟨⟨d, r₂⟩, hd, h⟩ := Option.bind_eq_some_iff.mp h
    obtain ⟨_, -, h⟩ := Option.bind_eq_some_iff.mp h
    cases h
    exact (isToml_within _).1 _ _ _ _ hd

theorem isToml_of_lines {fuel : Nat} {s : Chars} {ls : List Line} (h : lines fuel s = some ls) :
    ∀ l ∈ ls, l.IsToml := by
  induction fuel generalizing s ls with
  | zero =>
    rw [lines] at h
    cases h
  | succ fuel ih =>
    rw [lines] at h
    split at h
    · cases h
      exact fun _ hmem => absurd hmem List.not_mem_nil
    · obtain ⟨_, -, h⟩ := Option.bind_eq_some_iff.mp h
      exact ih h
    · split at h
      · exact ih h
      · obtain ⟨⟨l, r⟩, hl, h⟩ := Option.bind_eq_some_iff.mp h
        obtain ⟨rest, hrest, h⟩ := Option.bind_eq_some_iff.mp h
        cases h
        exact List.forall_mem_cons.mpr ⟨isToml_of_line? hl, ih hrest⟩

theorem Document.isToml_add {doc doc' : Document} {l : Line} (hl : l.IsToml)
    (h : doc.add l = some doc') (hd : doc.root.IsToml) : doc'.root.IsToml := by
  cases l with
  | assign key d =>
    obtain ⟨last, -, h⟩ := Option.bind_eq_some_iff.mp h
    obtain ⟨root, hroot, h⟩ := Option.bind_eq_some_iff.mp h
    cases h
    have hdefine : Members.Keeps fun ms => Members.define key.dropLast last d ms :=
      Members.keeps_define key.dropLast hl
    exact Members.Keeps.changeAt (fun _ => hdefine) false doc.path false doc.root root hroot hd
  | table key =>
    obtain ⟨last, -, h⟩ := Option.bind_eq_some_iff.mp h
    obtain ⟨root, hroot, h⟩ := Option.bind_eq_some_iff.mp h
    cases h
    exact Members.keeps_openTable key.dropLast doc.root root hroot hd
  | element key =>
    obtain ⟨last, -, h⟩ := Option.bind_eq_some_iff.mp h
    obtain ⟨root, hroot, h⟩ := Option.bind_eq_some_iff.mp h
    cases h
    exact Members.keeps_openElement key.dropLast doc.root root hroot hd

/-- A text is read as a table of such values. -/
theorem isToml_of_read? {text : String} {d : Data} (h : read? text = some d) :
    ∃ ms, d = .object ms ∧ d.IsToml := by
  obtain ⟨ls, hls, h⟩ := Option.bind_eq_some_iff.mp h
  obtain ⟨doc, hdoc, h⟩ := Option.bind_eq_some_iff.mp h
  cases h
  refine ⟨_, rfl, isToml_membersData.mpr ?_⟩
  refine Members.foldlM_keeps (P := fun doc => doc.root.IsToml) ?_ hdoc Members.isToml_nil
  intro l hl doc doc' hadd hd
  exact Document.isToml_add (isToml_of_lines hls l hl) hadd hd

end Toml

end Confine
