import Mathlib.Algebra.GroupWithZero.Nat
import Confine.Policy
import Confine.Proofs.Text.Blank
import Confine.Proofs.Text.Decimal

/-!
The texts that stand for a buffer policy, and what is wrong with all others.
-/

namespace Confine.BufferPolicy

/-- A text divided at its first colon, if it has one, with the blanks around both parts left out. -/
inductive Divided : List Char → List Char → Option (List Char) → Prop
  | whole {s mode : List Char} (h : ':' ∉ s) (hm : Text.Trimmed s mode) : Divided s mode none
  | parted {left right mode capacity : List Char} (h : ':' ∉ left) (hm : Text.Trimmed left mode)
      (hc : Text.Trimmed right capacity) : Divided (left ++ ':' :: right) mode (some capacity)

/-- The names of the modes that need a capacity, and the policies that they make of it. -/
inductive Bounded : List Char → (Nat → BufferPolicy) → Prop
  | drop : Bounded "drop".toList .dropNewest
  | dropNewest : Bounded "drop_newest".toList .dropNewest
  | suspend : Bounded "suspend".toList .suspend

/-- A capacity part that writes a number of 64 bits. -/
def Counts (capacity : Option (List Char)) (n : Nat) : Prop :=
  ∃ text, capacity = some text ∧ Text.Numeral n text ∧ n < 2 ^ 64

/-- What a divided text stands for. -/
inductive Spelled : List Char → Option (List Char) → BufferPolicy → Prop
  | unbounded (capacity : Option (List Char)) : Spelled "unbounded".toList capacity .unbounded
  | bounded {mode : List Char} {capacity : Option (List Char)} {make : Nat → BufferPolicy} {n : Nat}
      (hm : Bounded mode make) (hc : Counts capacity n) : Spelled mode capacity (make n)

/-- What is wrong with a divided text that stands for no policy. -/
inductive Faulty : List Char → Option (List Char) → ParseError → Prop
  | unknownMode {mode : List Char} (capacity : Option (List Char)) (hu : mode ≠ "unbounded".toList)
      (hm : ∀ make, ¬ Bounded mode make) :
      Faulty mode capacity (.unknownMode (String.ofList mode))
  | missingCapacity {mode : List Char} {make : Nat → BufferPolicy} (hm : Bounded mode make) :
      Faulty mode none (.missingCapacity (String.ofList mode))
  | invalidCapacity {mode text : List Char} {make : Nat → BufferPolicy} (hm : Bounded mode make)
      (hc : ∀ n, ¬ Counts (some text) n) :
      Faulty mode (some text) (.invalidCapacity (String.ofList text))

theorem divided_parts (s : List Char) : Divided s (parts s).1 (parts s).2 := by
  by_cases h : ':' ∈ s
  · obtain ⟨left, right, rfl, hleft⟩ := List.eq_append_cons_of_mem h
    rw [parts, Text.splitAtFirst_append hleft]
    exact .parted hleft (Text.trimmed_trim left) (Text.trimmed_trim right)
  · rw [parts, Text.splitAtFirst_of_not_mem h]
    exact .whole h (Text.trimmed_trim s)

section Parsing

variable {mode : List Char} {capacity : Option (List Char)} {make : Nat → BufferPolicy}

theorem Divided.parts_eq {s : List Char} (h : Divided s mode capacity) :
    parts s = (mode, capacity) := by
  cases h with
  | whole h hm => rw [parts, Text.splitAtFirst_of_not_mem h, hm.eq_trim]
  | parted h hm hc => rw [parts, Text.splitAtFirst_append h, hm.eq_trim, hc.eq_trim]

theorem readCapacity_of_counts {n : Nat} (h : Counts capacity n) :
    readCapacity mode capacity = .ok n := by
  obtain ⟨text, rfl, hnumeral, hn⟩ := h
  have hread : Text.readNat? wordBound text = some n := Text.readNat?_eq_some.mpr ⟨hnumeral, hn⟩
  rw [readCapacity, hread]

theorem readCapacity_of_not_counts {text : List Char} (h : ∀ n, ¬ Counts (some text) n) :
    readCapacity mode (some text) = .error (.invalidCapacity (String.ofList text)) := by
  have hread : Text.readNat? wordBound text = none := by
    rw [Option.eq_none_iff_forall_ne_some]
    intro n hn
    exact h n ⟨text, rfl, Text.readNat?_eq_some.mp hn⟩
  rw [readCapacity, hread]

variable {s : String}

theorem Divided.parse_bounded (h : Divided s.toList mode capacity) (hm : Bounded mode make) :
    parse s = (readCapacity mode capacity).map make := by
  rw [parse, h.parts_eq]
  cases hm <;> rfl

theorem Divided.parse_of_spelled (h : Divided s.toList mode capacity) {p : BufferPolicy}
    (hp : Spelled mode capacity p) : parse s = .ok p := by
  cases hp with
  | unbounded =>
    rw [parse, h.parts_eq]
    rfl
  | bounded hm hc =>
    rw [h.parse_bounded hm, readCapacity_of_counts hc]
    rfl

theorem Divided.parse_of_faulty (h : Divided s.toList mode capacity) {e : ParseError}
    (he : Faulty mode capacity e) : parse s = .error e := by
  cases he with
  | unknownMode _ hu hm =>
    have hdrop : ¬ (mode = "drop".toList ∨ mode = "drop_newest".toList) := by
      rintro (rfl | rfl)
      · exact hm _ .drop
      · exact hm _ .dropNewest
    have hsuspend : mode ≠ "suspend".toList := by
      rintro rfl
      exact hm _ .suspend
    rw [parse, h.parts_eq]
    simp only [if_neg hu, if_neg hdrop, if_neg hsuspend]
  | missingCapacity hm =>
    rw [h.parse_bounded hm]
    rfl
  | invalidCapacity hm hc =>
    rw [h.parse_bounded hm, readCapacity_of_not_counts hc]
    rfl

/-- A divided text stands for a policy, or something is wrong with it. -/
theorem spelled_or_faulty (mode : List Char) (capacity : Option (List Char)) :
    (∃ p, Spelled mode capacity p) ∨ ∃ e, Faulty mode capacity e := by
  by_cases hu : mode = "unbounded".toList
  · subst hu
    exact .inl ⟨_, .unbounded capacity⟩
  · by_cases hm : ∃ make, Bounded mode make
    · obtain ⟨make, hm⟩ := hm
      cases capacity with
      | none => exact .inr ⟨_, .missingCapacity hm⟩
      | some text =>
        by_cases hc : ∃ n, Counts (some text) n
        · obtain ⟨n, hc⟩ := hc
          exact .inl ⟨_, .bounded hm hc⟩
        · exact .inr ⟨_, .invalidCapacity hm (not_exists.mp hc)⟩
    · exact .inr ⟨_, .unknownMode capacity hu (not_exists.mp hm)⟩

theorem Divided.parse_eq_ok (h : Divided s.toList mode capacity) {p : BufferPolicy} :
    parse s = .ok p ↔ Spelled mode capacity p := by
  constructor
  · intro hparse
    obtain ⟨p', hp'⟩ | ⟨e, he⟩ := spelled_or_faulty mode capacity
    · cases hparse.symm.trans (h.parse_of_spelled hp')
      exact hp'
    · cases hparse.symm.trans (h.parse_of_faulty he)
  · exact h.parse_of_spelled

theorem Divided.parse_eq_error (h : Divided s.toList mode capacity) {e : ParseError} :
    parse s = .error e ↔ Faulty mode capacity e := by
  constructor
  · intro hparse
    obtain ⟨p, hp⟩ | ⟨e', he'⟩ := spelled_or_faulty mode capacity
    · cases hparse.symm.trans (h.parse_of_spelled hp)
    · cases hparse.symm.trans (h.parse_of_faulty he')
      exact he'
  · exact h.parse_of_faulty

end Parsing

/-- A text that stands for a policy. -/
def Spells (t : List Char) (p : BufferPolicy) : Prop :=
  ∃ mode capacity, Divided t mode capacity ∧ Spelled mode capacity p

section Texts

theorem Divided.pad {t s mode : List Char} {capacity : Option (List Char)}
    (h : Divided t mode capacity) (hs : Text.Padded t s) : Divided s mode capacity := by
  have hcolon : Text.isBlank ':' = false := by decide
  obtain ⟨front, back, hfront, hback, rfl⟩ := hs
  have hinFront := Text.not_mem_of_blank hcolon hfront
  have hinBack := Text.not_mem_of_blank hcolon hback
  cases h with
  | whole h hm =>
    apply Divided.whole
    · simp only [List.mem_append, hinFront, hinBack, h, or_self, not_false_eq_true]
    · exact hm.pad ⟨front, back, hfront, hback, rfl⟩
  | @parted left right mode capacity h hm hc =>
    have hwhole : front ++ (left ++ ':' :: right) ++ back =
        (front ++ left) ++ ':' :: (right ++ back) := by
      simp only [List.append_assoc, List.cons_append]
    rw [hwhole]
    apply Divided.parted
    · simp only [List.mem_append, hinFront, h, or_self, not_false_eq_true]
    · exact hm.pad ⟨front, [], hfront, rfl, (List.append_nil _).symm⟩
    · exact hc.pad ⟨[], back, rfl, hback, rfl⟩

/-- Blanks around a text make no difference to what it stands for. -/
theorem parse_eq_ok {v : String} {t : List Char} (h : Text.Trimmed v.toList t) {p : BufferPolicy} :
    parse v = .ok p ↔ Spells t p := by
  have hdivided := (divided_parts t).pad h.padded
  rw [hdivided.parse_eq_ok]
  constructor
  · intro hp
    exact ⟨_, _, divided_parts t, hp⟩
  · rintro ⟨mode, capacity, ht, hp⟩
    rw [ht.parts_eq]
    exact hp

theorem Bounded.letters {mode : List Char} {make : Nat → BufferPolicy} (hm : Bounded mode make) :
    mode ≠ [] ∧ ':' ∉ mode ∧ ∀ c ∈ mode, Text.isBlank c = false := by
  cases hm <;> exact ⟨by decide, by decide, Text.not_blank_of_any (by decide)⟩

theorem spells_bounded {mode : List Char} {make : Nat → BufferPolicy} (hm : Bounded mode make)
    {n : Nat} (hn : n < 2 ^ 64) : Spells (mode ++ ':' :: Text.natText n) (make n) := by
  have hcounts : Counts (some (Text.natText n)) n := ⟨_, rfl, Text.numeral_natText n, hn⟩
  obtain ⟨-, hcolon, hblank⟩ := hm.letters
  refine ⟨mode, some (Text.natText n), ?_, .bounded hm hcounts⟩
  exact .parted hcolon (Text.trimmed_self hblank) (Text.trimmed_natText n)

/-- The written form of a bounded policy is the name of its mode and the capacity. -/
theorem render_bounded {p : BufferPolicy} {n : Nat} (h : p.capacity? = some n) :
    ∃ mode make, Bounded mode make ∧ make n = p ∧
      p.render.toList = mode ++ ':' :: Text.natText n := by
  cases p with
  | unbounded => cases h
  | dropNewest =>
    cases h
    exact ⟨_, _, .drop, rfl, String.toList_ofList⟩
  | suspend =>
    cases h
    exact ⟨_, _, .suspend, rfl, String.toList_ofList⟩

theorem eq_unbounded {p : BufferPolicy} (h : p.capacity? = none) : p = .unbounded := by
  cases p with
  | unbounded => rfl
  | _ => cases h

theorem render_letters (p : BufferPolicy) :
    p.render.toList ≠ [] ∧ ∀ c ∈ p.render.toList, Text.isBlank c = false := by
  cases h : p.capacity? with
  | none =>
    rw [eq_unbounded h]
    exact ⟨by decide, Text.not_blank_of_any (by decide)⟩
  | some n =>
    obtain ⟨mode, make, hm, -, hrender⟩ := render_bounded h
    rw [hrender]
    refine ⟨List.append_ne_nil_of_left_ne_nil hm.letters.1 _, ?_⟩
    intro c hc
    rw [List.mem_append, List.mem_cons] at hc
    obtain hc | rfl | hc := hc
    · exact hm.letters.2.2 c hc
    · rfl
    · exact Text.isBlank_of_isDigit (Text.isDigit_of_mem_natText hc)

/-- The written form of a policy stands for it. -/
theorem spells_render {p : BufferPolicy} (h : ∀ n, p.capacity? = some n → n < 2 ^ 64) :
    Spells p.render.toList p := by
  cases hp : p.capacity? with
  | none =>
    have hdivided : Divided "unbounded".toList "unbounded".toList none :=
      .whole (by decide) (Text.trimmed_self (Text.not_blank_of_any (by decide)))
    rw [eq_unbounded hp]
    exact ⟨_, _, hdivided, .unbounded none⟩
  | some n =>
    obtain ⟨mode, make, hm, hmake, hrender⟩ := render_bounded hp
    rw [hrender, ← hmake]
    exact spells_bounded hm (h n hp)

end Texts

/-- The modes that need a capacity. -/
def boundedModes : List (List Char) := ["drop".toList, "drop_newest".toList, "suspend".toList]

theorem bounded_dropNewest {mode : List Char} :
    Bounded mode .dropNewest ↔ mode = "drop".toList ∨ mode = "drop_newest".toList := by
  constructor
  · intro h
    generalize hmake : BufferPolicy.dropNewest = make at h
    cases h with
    | drop => exact .inl rfl
    | dropNewest => exact .inr rfl
    | suspend => cases congrFun hmake 0
  · rintro (rfl | rfl)
    · exact .drop
    · exact .dropNewest

theorem bounded_suspend {mode : List Char} : Bounded mode .suspend ↔ mode = "suspend".toList := by
  constructor
  · intro h
    generalize hmake : BufferPolicy.suspend = make at h
    cases h with
    | drop => cases congrFun hmake 0
    | dropNewest => cases congrFun hmake 0
    | suspend => rfl
  · rintro rfl
    exact .suspend

theorem mem_boundedModes {mode : List Char} : mode ∈ boundedModes ↔ ∃ make, Bounded mode make := by
  constructor
  · intro h
    simp only [boundedModes, List.mem_cons, List.not_mem_nil, or_false] at h
    obtain rfl | rfl | rfl := h
    · exact ⟨_, .drop⟩
    · exact ⟨_, .dropNewest⟩
    · exact ⟨_, .suspend⟩
  · rintro ⟨make, h⟩
    cases h <;> decide

section Cases

variable {mode : List Char} {capacity : Option (List Char)}

theorem spelled_unbounded : Spelled mode capacity .unbounded ↔ mode = "unbounded".toList := by
  constructor
  · intro h
    generalize hp : BufferPolicy.unbounded = p at h
    cases h with
    | unbounded => rfl
    | bounded hm => cases hm <;> cases hp
  · rintro rfl
    exact .unbounded capacity

theorem spelled_dropNewest {n : Nat} :
    Spelled mode capacity (.dropNewest n) ↔ Bounded mode .dropNewest ∧ Counts capacity n := by
  constructor
  · intro h
    generalize hp : BufferPolicy.dropNewest n = p at h
    cases h with
    | unbounded => cases hp
    | bounded hm hc =>
      cases hm <;> cases hp
      · exact ⟨.drop, hc⟩
      · exact ⟨.dropNewest, hc⟩
  · rintro ⟨hm, hc⟩
    exact .bounded hm hc

theorem spelled_suspend {n : Nat} :
    Spelled mode capacity (.suspend n) ↔ Bounded mode .suspend ∧ Counts capacity n := by
  constructor
  · intro h
    generalize hp : BufferPolicy.suspend n = p at h
    cases h with
    | unbounded => cases hp
    | bounded hm hc =>
      cases hm <;> cases hp
      exact ⟨.suspend, hc⟩
  · rintro ⟨hm, hc⟩
    exact .bounded hm hc

end Cases

/-- A text is divided in one way. It stands for a policy if its mode is one of four and a bounded
mode has a capacity; otherwise the first of three faults is told. -/
theorem grammar_exact (s : String) : ∃ mode capacity,
    (∀ m c, Divided s.toList m c ↔ m = mode ∧ c = capacity) ∧
    (parse s = .ok .unbounded ↔ mode = "unbounded".toList) ∧
    (∀ n, parse s = .ok (.dropNewest n) ↔
      (mode = "drop".toList ∨ mode = "drop_newest".toList) ∧ Counts capacity n) ∧
    (∀ n, parse s = .ok (.suspend n) ↔ mode = "suspend".toList ∧ Counts capacity n) ∧
    (∀ m, parse s = .error (.unknownMode m) ↔
      m.toList = mode ∧ mode ≠ "unbounded".toList ∧ mode ∉ boundedModes) ∧
    (∀ m, parse s = .error (.missingCapacity m) ↔
      m.toList = mode ∧ mode ∈ boundedModes ∧ capacity = none) ∧
    (∀ t, parse s = .error (.invalidCapacity t) ↔
      mode ∈ boundedModes ∧ capacity = some t.toList ∧ ∀ n, ¬ Counts capacity n) ∧
    (∀ t, (ParseError.unknownMode t).message = "unknown buffer mode '" ++ t ++ "'" ∧
      (ParseError.missingCapacity t).message = "buffer mode '" ++ t ++ "' needs a capacity" ∧
      (ParseError.invalidCapacity t).message = "invalid buffer capacity '" ++ t ++ "'") := by
  have h := divided_parts s.toList
  generalize (parts s.toList).1 = mode at h
  generalize (parts s.toList).2 = capacity at h
  refine ⟨mode, capacity, fun m c => ?division, ?unbounded, fun n => ?dropNewest, fun n => ?suspend,
    fun m => ?unknown, fun m => ?missing, fun t => ?invalid, fun t => ⟨rfl, rfl, rfl⟩⟩
  case division =>
    constructor
    · intro h'
      cases h'.parts_eq.symm.trans h.parts_eq
      exact ⟨rfl, rfl⟩
    · rintro ⟨rfl, rfl⟩
      exact h
  case unbounded => rw [h.parse_eq_ok, spelled_unbounded]
  case dropNewest => rw [h.parse_eq_ok, spelled_dropNewest, bounded_dropNewest]
  case suspend => rw [h.parse_eq_ok, spelled_suspend, bounded_suspend]
  case unknown =>
    rw [h.parse_eq_error, mem_boundedModes, not_exists]
    constructor
    · intro he
      cases he with
      | unknownMode _ hu hm => exact ⟨String.toList_ofList, hu, hm⟩
    · rintro ⟨rfl, hu, hm⟩
      have he : Faulty m.toList capacity _ := .unknownMode capacity hu hm
      rw [String.ofList_toList] at he
      exact he
  case missing =>
    rw [h.parse_eq_error, mem_boundedModes]
    constructor
    · intro he
      cases he with
      | missingCapacity hm => exact ⟨String.toList_ofList, ⟨_, hm⟩, rfl⟩
    · rintro ⟨rfl, ⟨make, hm⟩, rfl⟩
      have he : Faulty m.toList none _ := .missingCapacity hm
      rw [String.ofList_toList] at he
      exact he
  case invalid =>
    rw [h.parse_eq_error, mem_boundedModes]
    constructor
    · intro he
      cases he with
      | invalidCapacity hm hc => 
        rw [String.toList_ofList]
        exact ⟨⟨_, hm⟩, rfl, hc⟩
    · rintro ⟨⟨make, hm⟩, rfl, hc⟩
      have he : Faulty mode (some t.toList) _ := .invalidCapacity hm hc
      rw [String.ofList_toList] at he
      exact he

/-- Only the first colon divides, zeros may lead, and blanks outside both parts do not count. -/
example : parse " drop :\u00a0+007\t" = .ok (.dropNewest 7) := rfl

example : parse "suspend:1:2" = .error (.invalidCapacity "1:2") := rfl

end Confine.BufferPolicy
