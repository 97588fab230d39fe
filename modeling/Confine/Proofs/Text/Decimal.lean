import Confine.Proofs.Text.Blank
import Confine.Text.Decimal

/-!
Decimal numerals: what is read as a number, and that a number is read back from what it is written
as.
-/

namespace Confine.Text

theorem digitsValue_natText (n : Nat) : digitsValue (natText n) = n :=
  Nat.ofDigitChars_toDigits (by decide) (by decide)

theorem natText_ne_nil (n : Nat) : natText n ≠ [] := by
  intro h
  have hpos : 0 < (natText n).length := Nat.length_toDigits_pos
  rw [h] at hpos
  exact Nat.lt_irrefl 0 hpos

theorem isDigit_of_mem_natText {n : Nat} {c : Char} (h : c ∈ natText n) : isDigit c = true := by
  have hdigit : c.isDigit = true := Nat.isDigit_of_mem_toDigits (by decide) (by decide) h
  exact hdigit

/-- A numeral has a digit in front. -/
theorem natText_eq_cons (n : Nat) : ∃ c cs, natText n = c :: cs ∧ isDigit c = true := by
  cases h : natText n with
  | nil => exact absurd h (natText_ne_nil n)
  | cons c cs =>
    have hmem : c ∈ natText n := h ▸ List.mem_cons_self
    exact ⟨c, cs, rfl, isDigit_of_mem_natText hmem⟩

/-- Only the number zero is written with a leading zero. -/
theorem head?_natText {n : Nat} (hn : 0 < n) : (natText n).head? ≠ some '0' := by
  induction n using Nat.strongRecOn with
  | ind n ih =>
    rw [natText, Nat.toDigits_eq_if (by decide)]
    split
    · next hlt =>
      have hchar : ∀ d, d < 10 → 0 < d → [Nat.digitChar d].head? ≠ some '0' := by decide
      exact hchar n hlt hn
    · next hge =>
      have hpos : 0 < n / 10 := by omega
      have hless : n / 10 < n := by omega
      obtain ⟨c, cs, hfront, -⟩ := natText_eq_cons (n / 10)
      have hhead := ih (n / 10) hless hpos
      rw [hfront] at hhead
      rw [← natText, hfront]
      exact hhead

/-- A row of decimal digits and the number that it writes; zeros may lead. -/
structure Digits (ds : List Char) (n : Nat) : Prop where
  nonempty : ds ≠ []
  digits : ∀ c ∈ ds, c.isDigit = true
  value : Nat.ofDigitChars 10 ds 0 = n

/-- Digits that write a number, with at most one plus sign in front. -/
inductive Numeral (n : Nat) : List Char → Prop
  | unsigned {ds : List Char} (h : Digits ds n) : Numeral n ds
  | signed {ds : List Char} (h : Digits ds n) : Numeral n ('+' :: ds)

theorem Numeral.ne_nil {n : Nat} {s : List Char} (h : Numeral n s) : s ≠ [] := by
  cases h with
  | unsigned h => exact h.nonempty
  | signed => exact List.cons_ne_nil _ _

theorem readDigits?_eq_some {bound n : Nat} {s : List Char} :
    readDigits? bound s = some n ↔ Digits s n ∧ n < bound := by
  rw [readDigits?]
  constructor
  · intro h
    split at h
    · next hs =>
      cases h
      exact ⟨⟨hs.1, List.all_eq_true.mp hs.2.1, rfl⟩, hs.2.2⟩
    · cases h
  · rintro ⟨⟨hne, hdigits, rfl⟩, hn⟩
    exact if_pos ⟨hne, List.all_eq_true.mpr hdigits, hn⟩

theorem not_digits_plus (s : List Char) (n : Nat) : ¬ Digits ('+' :: s) n := by
  intro h
  have hplus : '+'.isDigit = true := h.digits '+' List.mem_cons_self
  exact absurd hplus (by decide)

/-- Exactly the numerals below the bound are read. -/
theorem readNat?_eq_some {bound n : Nat} {s : List Char} :
    readNat? bound s = some n ↔ Numeral n s ∧ n < bound := by
  rw [readNat?.eq_def]
  split
  · next r =>
    rw [readDigits?_eq_some]
    refine and_congr_left fun _ => ⟨.signed, fun h => ?_⟩
    cases h with
    | unsigned h => exact absurd h (not_digits_plus r n)
    | signed h => exact h
  · next hplus =>
    rw [readDigits?_eq_some]
    refine and_congr_left fun _ => ⟨.unsigned, fun h => ?_⟩
    cases h with
    | unsigned h => exact h
    | @signed r h => exact absurd rfl (hplus r)

theorem isBlank_of_isDigit {c : Char} (h : isDigit c = true) : isBlank c = false := by
  rw [isDigit, Bool.and_eq_true, decide_eq_true_eq, decide_eq_true_eq] at h
  have hlo : 0x30 ≤ c.toNat := h.1
  have hhi : c.toNat ≤ 0x39 := h.2
  simp only [isBlank, Bool.or_eq_false_iff, Bool.and_eq_false_iff, decide_eq_false_iff_not,
    beq_eq_false_iff_ne]
  omega

theorem trimmed_natText (n : Nat) : Trimmed (natText n) (natText n) :=
  trimmed_self fun _ hc => isBlank_of_isDigit (isDigit_of_mem_natText hc)

theorem numeral_natText (n : Nat) : Numeral n (natText n) :=
  .unsigned ⟨natText_ne_nil n, fun _ => isDigit_of_mem_natText, digitsValue_natText n⟩

end Confine.Text
