import Confine.Text.Blank

/-!
What the removal of blanks and the division at a character leave of a text.
-/

namespace Confine.Text

/-- A text with blanks around it. -/
def Padded (t s : List Char) : Prop :=
  ∃ front back, isBlankText front = true ∧ isBlankText back = true ∧ s = front ++ t ++ back

/-- A text less the blanks at both its ends. -/
structure Trimmed (s t : List Char) : Prop where
  padded : Padded t s
  head : ∀ c ∈ t.head?, isBlank c = false
  last : ∀ c ∈ t.getLast?, isBlank c = false

theorem dropWhile_blank_append {front : List Char} (h : isBlankText front = true)
    (s : List Char) : (front ++ s).dropWhile isBlank = s.dropWhile isBlank :=
  List.dropWhile_append_of_pos (List.all_eq_true.mp h)

theorem dropWhile_blank {s : List Char} (h : isBlankText s = true) : s.dropWhile isBlank = [] := by
  have hall := dropWhile_blank_append h []
  rw [List.append_nil] at hall
  exact hall

theorem isBlankText_reverse (s : List Char) : isBlankText s.reverse = isBlankText s :=
  List.all_reverse

theorem trimEnd_append_blank {back : List Char} (h : isBlankText back = true) (s : List Char) :
    trimEnd (s ++ back) = trimEnd s := by
  rw [← isBlankText_reverse] at h
  rw [trimEnd, List.reverse_append, dropWhile_blank_append h, trimEnd]

/-- Blanks around a text make no difference once it is trimmed. -/
theorem Padded.trim_eq {t s : List Char} (h : Padded t s) : trim s = trim t := by
  obtain ⟨front, back, hfront, hback, rfl⟩ := h
  rw [trim, List.append_assoc, dropWhile_blank_append hfront, List.dropWhile_append]
  split
  · next hempty =>
    rw [dropWhile_blank hback, trim, List.isEmpty_iff.mp hempty]
  · rw [trimEnd_append_blank hback, trim]

theorem Trimmed.eq_trim {s t : List Char} (h : Trimmed s t) : t = trim s := by
  have hfront : t.dropWhile isBlank = t := by
    cases t with
    | nil => rfl
    | cons c t => exact List.dropWhile_cons_of_neg (by rw [h.head c rfl]; exact Bool.noConfusion)
  have hback : t.reverse.dropWhile isBlank = t.reverse := by
    cases hr : t.reverse with
    | nil => rfl
    | cons c r =>
      have hlast : t.getLast? = some c := by
        rw [← List.head?_reverse, hr, List.head?_cons]
      exact List.dropWhile_cons_of_neg (by rw [h.last c hlast]; exact Bool.noConfusion)
  rw [h.padded.trim_eq, trim, hfront, trimEnd, hback, List.reverse_reverse]

theorem head?_dropWhile_blank (s : List Char) :
    ∀ c ∈ (s.dropWhile isBlank).head?, isBlank c = false := by
  intro c hc
  have hnot := List.head?_dropWhile_not isBlank s
  rw [Option.mem_def.mp hc] at hnot
  exact hnot

theorem trimmed_trim (s : List Char) : Trimmed s (trim s) := by
  refine ⟨⟨s.takeWhile isBlank, ((s.dropWhile isBlank).reverse.takeWhile isBlank).reverse,
    ?front, ?back, ?whole⟩, ?head, ?last⟩
  case front => exact List.all_takeWhile
  case back =>
    rw [isBlankText_reverse]
    exact List.all_takeWhile
  case whole =>
    rw [List.append_assoc, trim, trimEnd, ← List.reverse_append, List.takeWhile_append_dropWhile,
      List.reverse_reverse, List.takeWhile_append_dropWhile]
  case head =>
    intro c hc
    -- What is left of the end is still the front of what was left of the front.
    obtain ⟨back, hwhole⟩ : ∃ back, s.dropWhile isBlank = trim s ++ back := by
      refine ⟨((s.dropWhile isBlank).reverse.takeWhile isBlank).reverse, ?_⟩
      rw [trim, trimEnd, ← List.reverse_append, List.takeWhile_append_dropWhile,
        List.reverse_reverse]
    have hfront := head?_dropWhile_blank s
    rw [hwhole, List.head?_append, Option.mem_def.mp hc, Option.some_or] at hfront
    exact hfront c rfl
  case last =>
    rw [trim, trimEnd, List.getLast?_reverse]
    exact head?_dropWhile_blank _

theorem Padded.trans {t u s : List Char} (h : Padded t u) (h' : Padded u s) : Padded t s := by
  obtain ⟨front, back, hfront, hback, rfl⟩ := h
  obtain ⟨front', back', hfront', hback', rfl⟩ := h'
  refine ⟨front' ++ front, back ++ back', ?_, ?_, ?_⟩
  · rw [isBlankText, List.all_append, Bool.and_eq_true]
    exact ⟨hfront', hfront⟩
  · rw [isBlankText, List.all_append, Bool.and_eq_true]
    exact ⟨hback, hback'⟩
  · simp only [List.append_assoc]

theorem Trimmed.pad {t u s : List Char} (h : Trimmed u t) (h' : Padded u s) : Trimmed s t :=
  ⟨h.padded.trans h', h.head, h.last⟩

theorem not_blank_of_any {t : List Char} (h : t.any isBlank = false) :
    ∀ c ∈ t, isBlank c = false := by
  intro c hc
  exact Bool.eq_false_iff.mpr (List.any_eq_false.mp h c hc)

/-- A text without any blank is its own trimmed form. -/
theorem trimmed_self {t : List Char} (h : ∀ c ∈ t, isBlank c = false) : Trimmed t t :=
  ⟨⟨[], [], rfl, rfl, (List.append_nil t).symm⟩, fun c hc => h c (List.mem_of_mem_head? hc),
    fun c hc => h c (List.mem_of_mem_getLast? hc)⟩

theorem trim_eq_nil {s : List Char} : trim s = [] ↔ isBlankText s = true := by
  constructor
  · intro h
    obtain ⟨front, back, hfront, hback, hs⟩ := (trimmed_trim s).padded
    rw [hs, h, List.append_nil, isBlankText, List.all_append, Bool.and_eq_true]
    exact ⟨hfront, hback⟩
  · intro h
    have hpadded : Padded [] s := ⟨s, [], h, rfl, by rw [List.append_nil, List.append_nil]⟩
    rw [hpadded.trim_eq]
    rfl

theorem not_mem_of_blank {sep : Char} (hsep : isBlank sep = false) {s : List Char}
    (h : isBlankText s = true) : sep ∉ s := by
  intro hmem
  have hblank := List.all_eq_true.mp h sep hmem
  exact absurd hblank (by rw [hsep]; exact Bool.false_ne_true)

section Division

variable {sep : Char} {s left : List Char}

theorem splitAtFirst_of_not_mem (h : sep ∉ s) : splitAtFirst sep s = none := by
  induction s with
  | nil => rfl
  | cons c s ih =>
    obtain ⟨hc, hs⟩ := not_or.mp (fun h' => h (List.mem_cons.mpr h'))
    rw [splitAtFirst, if_neg (Ne.symm hc), ih hs, Option.map_none]

theorem splitAtFirst_append (h : sep ∉ left) (right : List Char) :
    splitAtFirst sep (left ++ sep :: right) = some (left, right) := by
  induction left with
  | nil => exact if_pos rfl
  | cons c left ih =>
    obtain ⟨hc, hleft⟩ := not_or.mp (fun h' => h (List.mem_cons.mpr h'))
    rw [List.cons_append, splitAtFirst, if_neg (Ne.symm hc), ih hleft, Option.map_some]

end Division

end Confine.Text
