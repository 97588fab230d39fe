import Mathlib.Data.List.TakeDrop
import Confine.Json.Parser
import Confine.Json.Printer
import Confine.Proofs.Text.Decimal

/-!
What is written as JSON reads back as it was. A text that is read may go on behind the value; the
lemmas hold before any rest that cannot be taken for a part of a number.
-/

namespace Confine.Json

/-- What can stand behind a value: nothing, a comma or a closing bracket. -/
def Ends (rest : List Char) : Prop :=
  rest.head? = none ∨ rest.head? = some ',' ∨ rest.head? = some ']' ∨ rest.head? = some '\x7d'

theorem ends_nil : Ends [] := .inl rfl

theorem ends_comma (r : List Char) : Ends (',' :: r) := .inr (.inl rfl)

theorem ends_bracket (r : List Char) : Ends (']' :: r) := .inr (.inr (.inl rfl))

theorem ends_brace (r : List Char) : Ends ('\x7d' :: r) := .inr (.inr (.inr rfl))

section Numbers

/-- A numeral is not taken for one with a leading zero. -/
theorem natText_accepted (n : Nat) :
    (Text.natText n = [] || ((Text.natText n).head? = some '0' && (Text.natText n).length > 1)) =
      false := by
  cases Nat.eq_zero_or_pos n with
  | inl hzero =>
    rw [hzero]
    rfl
  | inr hpos => simp [Text.natText_ne_nil n, Text.head?_natText hpos]

variable {rest : List Char} (h : Ends rest)

include h

theorem Ends.fraction : fraction rest = some (none, rest) := by
  cases rest with
  | nil => rfl
  | cons c r =>
    obtain hc | hc | hc | hc := h <;> cases hc <;> rfl

theorem Ends.exponent : exponent rest = some (none, rest) := by
  cases rest with
  | nil => rfl
  | cons c r =>
    obtain hc | hc | hc | hc := h <;> cases hc <;> rfl

theorem Ends.digits {ds : List Char} (hds : ∀ c ∈ ds, Text.isDigit c = true) :
    digits (ds ++ rest) = (ds, rest) := by
  have hstop : rest.takeWhile Text.isDigit = [] ∧ rest.dropWhile Text.isDigit = rest := by
    cases rest with
    | nil => exact ⟨rfl, rfl⟩
    | cons c r => obtain hc | hc | hc | hc := h <;> cases hc <;> exact ⟨rfl, rfl⟩
  rw [Json.digits, List.span_eq_takeWhile_dropWhile, List.takeWhile_append_of_pos hds,
    List.dropWhile_append_of_pos hds, hstop.1, hstop.2, List.append_nil]

/-- The number of a numeral, without or with a minus sign before it. -/
theorem Ends.number_natText (n : Nat) :
    number (Text.natText n ++ rest) = some (numberValue false (Text.natText n) none none, rest) ∧
    number ('-' :: (Text.natText n ++ rest)) =
      some (numberValue true (Text.natText n) none none, rest) := by
  have hdigits : Json.digits (Text.natText n ++ rest) = (Text.natText n, rest) :=
    h.digits fun c hc => Text.isDigit_of_mem_natText hc
  have haccepted := natText_accepted n
  constructor
  · obtain ⟨c, cs, hfront, hc⟩ := Text.natText_eq_cons n
    have hsign : c ≠ '-' := by
      rintro rfl
      exact absurd hc (by decide)
    rw [hfront] at hdigits haccepted ⊢
    unfold number
    split
    next negative r heq =>
      split at heq
      · next hminus => exact absurd (List.cons.inj hminus).1 hsign
      · cases heq
        simp only [hdigits, haccepted, h.fraction, h.exponent, Bool.false_eq_true, ↓reduceIte,
          Option.bind_eq_bind, Option.bind_some]
  · simp only [number, hdigits, haccepted, h.fraction, h.exponent, Bool.false_eq_true, ↓reduceIte,
      Option.bind_eq_bind, Option.bind_some]

theorem Ends.number_intText {i : Int} (hlo : -0x8000000000000000 ≤ i)
    (hhi : i < 0x10000000000000000) : number (Text.intText i ++ rest) = some (.int i, rest) := by
  cases i with
  | ofNat n =>
    have hn : n < 0x10000000000000000 := Int.ofNat_lt.mp hhi
    rw [Text.intText, (h.number_natText n).1]
    simp [numberValue, Text.digitsValue_natText, hn]
  | negSucc n =>
    have hn : n + 1 ≤ 0x8000000000000000 := by omega
    have hvalue : Int.negSucc n = -((n + 1 : Nat) : Int) := rfl
    rw [Text.intText, List.cons_append, (h.number_natText (n + 1)).2, hvalue]
    simp [numberValue, Text.digitsValue_natText, hn]

end Numbers

section Strings

theorem hexValue?_hexDigit : ∀ n, n < 16 → hexValue? (hexDigit n) = some n := by decide

theorem hex4?_escaped {c : Char} (hc : c.toNat < 0x20) (r : List Char) :
    hex4? ('0' :: '0' :: hexDigit (c.toNat / 16) :: hexDigit (c.toNat % 16) :: r) =
      some (c.toNat, r) := by
  have hzero : hexValue? '0' = some 0 := by decide
  have hhigh := hexValue?_hexDigit (c.toNat / 16) (by omega)
  have hlow := hexValue?_hexDigit (c.toNat % 16) (by omega)
  simp only [hex4?, hzero, hhigh, hlow, Option.bind_eq_bind, Option.bind_some]
  congr 2
  omega

theorem length_escape_pos (c : Char) : 0 < (escape c).length := by
  unfold escape
  repeat (first | split | exact Nat.zero_lt_succ _)

/-- An escaped character reads as one piece, which stands for this character. -/
theorem pieces_escape (c : Char) (fuel : Nat) (r : List Char) : ∃ p : Piece,
    (pieces (fuel + 1) (escape c ++ r) = do
      let (ps, r) ← pieces fuel r
      some (p :: ps, r)) ∧
    ∀ ps, characters (p :: ps) = (characters ps).map (c :: ·) := by
  unfold escape
  -- The seven characters that have a letter of their own.
  iterate 7
    split
    · next hc => exact ⟨.char c, by subst hc; rfl, fun ps => rfl⟩
  split
  · next hc =>
    refine ⟨.unit c.toNat, ?_, fun ps => ?_⟩
    · simp only [List.cons_append, List.nil_append, pieces, hex4?_escaped hc, Option.bind_eq_bind,
        Option.bind_some]
    · have hhigh : isHighSurrogate c.toNat = false := by
        simp only [isHighSurrogate, Bool.and_eq_false_imp, decide_eq_true_eq]
        omega
      have hlow : isLowSurrogate c.toNat = false := by
        simp only [isLowSurrogate, Bool.and_eq_false_imp, decide_eq_true_eq]
        omega
      rw [characters.eq_def]
      simp only [hhigh, hlow, Char.ofNat_toNat, Bool.false_eq_true, ↓reduceIte]
  · next hquote hslash _ _ _ _ _ hcontrol =>
    refine ⟨.char c, ?_, fun ps => rfl⟩
    rw [List.singleton_append, pieces.eq_def]
    dsimp only
    split
    · next heq => cases heq
    · next heq => exact absurd (List.cons.inj heq).1 hquote
    · next heq => exact absurd (List.cons.inj heq).1 hslash
    · next heq => exact absurd (List.cons.inj heq).1 hslash
    · next heq =>
      cases heq
      simp only [hcontrol, hslash, decide_false, Bool.or_self, Bool.false_eq_true, ↓reduceIte]

theorem pieces_escaped (cs : List Char) {fuel : Nat} (hfuel : cs.length < fuel) (rest : List Char) :
    ∃ ps, pieces fuel (cs.flatMap escape ++ '"' :: rest) = some (ps, rest) ∧
      characters ps = some cs := by
  induction cs generalizing fuel with
  | nil =>
    obtain ⟨fuel, rfl⟩ : ∃ n, fuel = n + 1 := ⟨fuel - 1, by omega⟩
    exact ⟨[], rfl, rfl⟩
  | cons c cs ih =>
    obtain ⟨fuel, rfl⟩ : ∃ n, fuel = n + 1 := ⟨fuel - 1, by omega⟩
    obtain ⟨ps, hps, hcs⟩ := ih (Nat.lt_of_succ_lt_succ hfuel)
    obtain ⟨p, hp, hc⟩ := pieces_escape c fuel (cs.flatMap escape ++ '"' :: rest)
    refine ⟨p :: ps, ?_, ?_⟩
    · rw [List.flatMap_cons, List.append_assoc, hp, hps]
      rfl
    · rw [hc, hcs]
      rfl

theorem length_le_escaped (cs : List Char) : cs.length ≤ (cs.flatMap escape).length := by
  induction cs with
  | nil => exact Nat.le_refl 0
  | cons c cs ih =>
    have hc := length_escape_pos c
    rw [List.flatMap_cons, List.length_append, List.length_cons]
    omega

theorem stringBody_escaped (s : String) (rest : List Char) :
    stringBody (s.toList.flatMap escape ++ '"' :: rest) = some (some s, rest) := by
  have hlen : s.toList.length < (s.toList.flatMap escape ++ '"' :: rest).length := by
    have hescaped := length_le_escaped s.toList
    rw [List.length_append, List.length_cons]
    omega
  obtain ⟨ps, hps, hcs⟩ := pieces_escaped s.toList hlen rest
  simp only [stringBody, hps, hcs, Option.bind_eq_bind, Option.bind_some, Option.map_some,
    String.ofList_toList]

end Strings

mutual

/-- Whether a value has a text of its own: its numbers are integers of 64 bits. -/
def printable : Data → Bool
  | .int i => decide (-0x8000000000000000 ≤ i) && decide (i < 0x10000000000000000)
  | .real | .unreadable => false
  | .list items => printableItems items
  | .object members => printableMembers members
  | _ => true

def printableItems : List Data → Bool
  | [] => true
  | d :: ds => printable d && printableItems ds

def printableMembers : List (String × Data) → Bool
  | [] => true
  | m :: ms => printableMember m && printableMembers ms

def printableMember : String × Data → Bool
  | (_, d) => printable d

end

/-- A number starts with a digit or a minus sign. -/
theorem intText_eq_cons (i : Int) : ∃ c cs, Text.intText i = c :: cs ∧
    ∀ d, Text.isDigit d = false → d ≠ '-' → c ≠ d := by
  cases i with
  | ofNat n =>
    obtain ⟨c, cs, hfront, hc⟩ := Text.natText_eq_cons n
    refine ⟨c, cs, hfront, ?_⟩
    rintro d hd - rfl
    exact absurd hc (hd ▸ Bool.false_ne_true)
  | negSucc n =>
    refine ⟨'-', Text.natText (n + 1), rfl, ?_⟩
    intro d _ hd
    exact hd.symm

theorem skipSpace_cons {c : Char} (hc : isSpace c = false) (r : List Char) :
    skipSpace (c :: r) = c :: r := by
  rw [skipSpace, List.dropWhile_cons, hc]
  rfl

/-- A text does not begin with white space or with what ends a list or an object. -/
theorem print_eq_cons (d : Data) :
    ∃ c cs, print d = c :: cs ∧ isSpace c = false ∧ c ≠ ']' ∧ c ≠ '\x7d' := by
  cases d with
  | int i =>
    obtain ⟨c, cs, hfront, hne⟩ := intText_eq_cons i
    refine ⟨c, cs, hfront, ?_, hne _ (by decide) (by decide), hne _ (by decide) (by decide)⟩
    have hblank : c ≠ ' ' := hne _ (by decide) (by decide)
    have htab : c ≠ '\t' := hne _ (by decide) (by decide)
    have hline : c ≠ '\n' := hne _ (by decide) (by decide)
    have hreturn : c ≠ '\r' := hne _ (by decide) (by decide)
    simp [isSpace, hblank, htab, hline, hreturn]
  | bool b => cases b <;> exact ⟨_, _, rfl, by decide, by decide, by decide⟩
  | _ => exact ⟨_, _, rfl, by decide, by decide, by decide⟩

theorem length_print_pos (d : Data) : 0 < (print d).length := by
  obtain ⟨c, cs, hfront, -⟩ := print_eq_cons d
  rw [hfront]
  exact Nat.zero_lt_succ _

/-- What starts as none of the others is read as a number. -/
theorem value_intText (fuel : Nat) (i : Int) (rest : List Char) :
    value (fuel + 1) (Text.intText i ++ rest) = number (Text.intText i ++ rest) := by
  obtain ⟨c, cs, hfront, hspace, -⟩ := print_eq_cons (.int i)
  obtain ⟨c', cs', hfront', hne⟩ := intText_eq_cons i
  cases hfront.symm.trans hfront'
  rw [hfront', List.cons_append, value.eq_def]
  simp only [skipSpace_cons hspace]
  split
  · next heq => exact absurd (List.cons.inj heq).1 (hne _ (by decide) (by decide))
  · next heq => exact absurd (List.cons.inj heq).1 (hne _ (by decide) (by decide))
  · next heq => exact absurd (List.cons.inj heq).1 (hne _ (by decide) (by decide))
  · next heq => exact absurd (List.cons.inj heq).1 (hne _ (by decide) (by decide))
  · next heq => exact absurd (List.cons.inj heq).1 (hne _ (by decide) (by decide))
  · next heq => exact absurd (List.cons.inj heq).1 (hne _ (by decide) (by decide))
  · rfl

theorem value_bracket {c : Char} (hc : isSpace c = false) (hne : c ≠ ']') (fuel : Nat)
    (r : List Char) : value (fuel + 1) ('[' :: c :: r) =
      (items fuel (c :: r)).bind fun (ds, r) => some (.list ds, r) := by
  rw [value.eq_def]
  simp only [skipSpace_cons (c := '[') rfl, skipSpace_cons hc]
  split
  · next heq => exact absurd (List.cons.inj heq).1 hne
  · rfl

theorem value_brace {c : Char} (hc : isSpace c = false) (hne : c ≠ '\x7d') (fuel : Nat)
    (r : List Char) : value (fuel + 1) ('\x7b' :: c :: r) =
      (members fuel (c :: r)).bind fun (ms, r) => some (objectOf ms, r) := by
  rw [value.eq_def]
  simp only [skipSpace_cons (c := '\x7b') rfl, skipSpace_cons hc]
  split
  · next heq => exact absurd (List.cons.inj heq).1 hne
  · rfl

theorem commaSeparated_cons (p : List Char) (ps : List (List Char)) :
    commaSeparated (p :: ps) = p ++ ps.flatMap (',' :: ·) := by
  induction ps generalizing p with
  | nil => exact (List.append_nil p).symm
  | cons q ps ih =>
    have hstep : commaSeparated (p :: q :: ps) = p ++ ',' :: commaSeparated (q :: ps) := rfl
    rw [hstep, ih, List.flatMap_cons, List.cons_append]

theorem memberName_string (name : String) (rest : List Char) :
    memberName (string name ++ ':' :: rest) = some (some name, rest) := by
  have hspace : skipSpace ('"' :: (name.toList.flatMap escape ++ '"' :: ':' :: rest)) =
      '"' :: (name.toList.flatMap escape ++ '"' :: ':' :: rest) := rfl
  rw [string, memberName]
  simp only [List.cons_append, List.append_assoc, List.nil_append, hspace, stringBody_escaped]
  rfl

theorem objectOf_named (ms : List (String × Data)) :
    objectOf (ms.map fun m => (some m.1, m.2)) = .object ms := by
  have hnames : (ms.map fun m => (some m.1, m.2)).mapM
      (fun m : Option String × Data => m.1.map (·, m.2)) = some ms := by
    induction ms with
    | nil => rfl
    | cons m ms ih =>
      rw [List.map_cons, List.mapM_cons, ih]
      rfl
  rw [objectOf]
  split
  · next ms' h => exact congrArg Data.object (Option.some.inj (h.symm.trans hnames))
  · next h => exact absurd (h.symm.trans hnames) (Option.some_ne_none ms).symm

-- By recursion over the value. The fuel that the length of a text allows is enough: each part of a
-- list or an object is shorter than the text of the whole by a bracket or a comma at least.
mutual

theorem value_print : ∀ (d : Data) (fuel : Nat) (rest : List Char), printable d = true →
    (print d).length ≤ fuel → Ends rest → value fuel (print d ++ rest) = some (d, rest)
  | d, 0, _, _, hfuel, _ => absurd hfuel (Nat.not_le_of_lt (length_print_pos d))
  | .null, _ + 1, _, _, _, _ => rfl
  | .bool true, _ + 1, _, _, _, _ => rfl
  | .bool false, _ + 1, _, _, _, _ => rfl
  | .int i, fuel + 1, rest, hd, _, hrest => by
    rw [printable, Bool.and_eq_true, decide_eq_true_iff, decide_eq_true_iff] at hd
    rw [print, value_intText, hrest.number_intText hd.1 hd.2]
  | .text s, fuel + 1, rest, _, _, _ => by
    rw [print, string, value.eq_def]
    simp only [List.cons_append, List.append_assoc, List.nil_append,
      skipSpace_cons (c := '"') rfl, stringBody_escaped]
    rfl
  | .list [], _ + 1, _, _, _, _ => rfl
  | .list (d :: ds), fuel + 1, rest, hd, hfuel, _ => by
    rw [printable, printableItems, Bool.and_eq_true] at hd
    have hlen : (commaSeparated (printItems (d :: ds))).length < fuel := by
      simp only [print, List.length_append, List.length_cons, List.length_nil] at hfuel
      omega
    have hitems := items_print d ds fuel rest hd.1 hd.2 hlen
    obtain ⟨c, cs, hfront, hspace, hne, -⟩ := print_eq_cons d
    have hparts : commaSeparated (printItems (d :: ds)) ++ ']' :: rest =
        c :: (cs ++ (printItems ds).flatMap (',' :: ·) ++ ']' :: rest) := by
      rw [printItems, commaSeparated_cons, hfront]
      rfl
    rw [hparts] at hitems
    rw [print, List.append_assoc, List.cons_append, List.singleton_append, hparts,
      value_bracket hspace hne, hitems]
    rfl
  | .object [], _ + 1, _, _, _, _ => rfl
  | .object (m :: ms), fuel + 1, rest, hd, hfuel, _ => by
    rw [printable, printableMembers, Bool.and_eq_true] at hd
    have hlen : (commaSeparated (printMembers (m :: ms))).length < fuel := by
      simp only [print, List.length_append, List.length_cons, List.length_nil] at hfuel
      omega
    have hmembers := members_print m ms fuel rest hd.1 hd.2 hlen
    obtain ⟨cs, hparts⟩ : ∃ cs,
        commaSeparated (printMembers (m :: ms)) ++ '\x7d' :: rest = '"' :: cs := by
      obtain ⟨name, d⟩ := m
      rw [printMembers, commaSeparated_cons]
      exact ⟨_, rfl⟩
    rw [hparts] at hmembers
    rw [print, List.append_assoc, List.cons_append, List.singleton_append, hparts,
      value_brace (by decide) (by decide), hmembers]
    simp only [Option.bind_some, objectOf_named]

theorem items_print : ∀ (d : Data) (ds : List Data) (fuel : Nat) (rest : List Char),
    printable d = true → printableItems ds = true →
    (commaSeparated (printItems (d :: ds))).length < fuel →
    items fuel (commaSeparated (printItems (d :: ds)) ++ ']' :: rest) = some (d :: ds, rest)
  | d, [], fuel + 1, rest, hd, _, hfuel => by
    have hvalue := value_print d fuel (']' :: rest) hd (Nat.le_of_lt_succ hfuel) (ends_bracket rest)
    rw [items.eq_def]
    simp only [printItems, commaSeparated, hvalue, skipSpace_cons (c := ']') rfl,
      Option.bind_eq_bind, Option.bind_some]
  | d, d' :: ds, fuel + 1, rest, hd, hds, hfuel => by
    rw [printableItems, Bool.and_eq_true] at hds
    have hpos := length_print_pos d
    have hlen : (print d).length + (commaSeparated (printItems (d' :: ds))).length < fuel := by
      simp only [printItems, commaSeparated, List.length_append, List.length_cons] at hfuel ⊢
      omega
    have hvalue := value_print d fuel
      (',' :: (commaSeparated (printItems (d' :: ds)) ++ ']' :: rest)) hd (by omega) (ends_comma _)
    have hitems := items_print d' ds fuel rest hds.1 hds.2 (by omega)
    have hparts : commaSeparated (printItems (d :: d' :: ds)) ++ ']' :: rest =
        print d ++ ',' :: (commaSeparated (printItems (d' :: ds)) ++ ']' :: rest) := by
      simp only [printItems, commaSeparated, List.append_assoc, List.cons_append]
    rw [items.eq_def, hparts]
    simp only [hvalue, hitems, skipSpace_cons (c := ',') rfl, Option.bind_eq_bind, Option.bind_some]

theorem members_print : ∀ (m : String × Data) (ms : List (String × Data)) (fuel : Nat)
    (rest : List Char), printableMember m = true → printableMembers ms = true →
    (commaSeparated (printMembers (m :: ms))).length < fuel →
    members fuel (commaSeparated (printMembers (m :: ms)) ++ '\x7d' :: rest) =
      some ((m :: ms).map fun m => (some m.1, m.2), rest)
  | (name, d), [], fuel + 1, rest, hd, _, hfuel => by
    have hlen : (print d).length ≤ fuel := by
      simp only [printMembers, printMember, commaSeparated, List.length_append,
        List.length_cons] at hfuel
      omega
    have hvalue := value_print d fuel ('\x7d' :: rest) hd hlen (ends_brace rest)
    have hparts : commaSeparated (printMembers [(name, d)]) ++ '\x7d' :: rest =
        string name ++ ':' :: (print d ++ '\x7d' :: rest) := by
      simp only [printMembers, printMember, commaSeparated, List.append_assoc, List.cons_append]
    rw [members.eq_def, hparts]
    simp only [memberName_string, hvalue, skipSpace_cons (c := '\x7d') rfl, Option.bind_eq_bind,
      Option.bind_some]
    rfl
  | (name, d), m :: ms, fuel + 1, rest, hd, hms, hfuel => by
    rw [printableMembers, Bool.and_eq_true] at hms
    have hlen : (print d).length + (commaSeparated (printMembers (m :: ms))).length < fuel := by
      simp only [printMembers, printMember, commaSeparated, List.length_append,
        List.length_cons] at hfuel ⊢
      omega
    have hvalue := value_print d fuel
      (',' :: (commaSeparated (printMembers (m :: ms)) ++ '\x7d' :: rest)) hd (by omega)
      (ends_comma _)
    have hmembers := members_print m ms fuel rest hms.1 hms.2 (by omega)
    have hparts : commaSeparated (printMembers ((name, d) :: m :: ms)) ++ '\x7d' :: rest =
        string name ++ ':' ::
          (print d ++ ',' :: (commaSeparated (printMembers (m :: ms)) ++ '\x7d' :: rest)) := by
      simp only [printMembers, printMember, commaSeparated, List.append_assoc, List.cons_append]
    rw [members.eq_def, hparts]
    simp only [memberName_string, hvalue, hmembers, skipSpace_cons (c := ',') rfl,
      Option.bind_eq_bind, Option.bind_some]
    rfl

end

/-- A value that has a text is what reading this text gives. -/
theorem read?_write {d : Data} (hd : printable d = true) : read? (write d) = some d := by
  have hlen : (print d).length ≤ 2 * (print d).length + 2 := by omega
  have hvalue := value_print d _ [] hd hlen ends_nil
  rw [List.append_nil] at hvalue
  rw [read?, write, String.toList_ofList, hvalue]
  rfl

end Confine.Json
