import Confine.Pump

/-!
What lies in a pipe: the chunks that reads make of it, up to the first item that ends the copying,
and what lies behind that item. A pump's own reading of its pipe is checked against both.
-/

namespace Confine

namespace PipeItem

/-- Whether a read that meets the item ends the copying. -/
def ends : PipeItem → Bool
  | data bytes => bytes.isEmpty
  | interrupted => false
  | failed | endOfStream => true

def bytes : PipeItem → Bytes
  | data bytes => bytes
  | _ => []

end PipeItem

namespace Pump

/-- The chunks that reads make of the bytes of one item. -/
def cut (bytes : Bytes) : List Bytes :=
  if bytes = [] then [] else bytes.take readSize :: cut (bytes.drop readSize)
termination_by bytes.length
decreasing_by
  rename_i hne
  have hpos := List.length_pos_iff.mpr hne
  rw [List.length_drop, readSize]
  omega

/-- The items before the first one that ends the copying. -/
def upToEnd (pipe : List PipeItem) : List PipeItem := pipe.takeWhile fun item => !item.ends

/-- The items behind the first one that ends the copying, if there is one. -/
def pastEnd? : List PipeItem → Option (List PipeItem)
  | [] => none
  | item :: rest => if item.ends then some rest else pastEnd? rest

/-- The bytes before the first item that ends the copying. -/
def text (pipe : List PipeItem) : Bytes := (upToEnd pipe).flatMap PipeItem.bytes

/-- The chunks that reads make of these bytes; no chunk has bytes of two items. -/
def chunks (pipe : List PipeItem) : List Bytes :=
  (upToEnd pipe).flatMap fun item => cut item.bytes

theorem cut_nil : cut [] = [] := by
  rw [cut, if_pos rfl]

theorem cut_of_ne_nil {bytes : Bytes} (h : bytes ≠ []) :
    cut bytes = bytes.take readSize :: cut (bytes.drop readSize) := by
  rw [cut, if_neg h]

theorem flatten_cut (bytes : Bytes) : (cut bytes).flatten = bytes := by
  induction bytes using cut.induct with
  | case1 => rw [cut_nil, List.flatten_nil]
  | case2 bytes hne ih => rw [cut_of_ne_nil hne, List.flatten_cons, ih, List.take_append_drop]

theorem length_of_mem_cut {bytes chunk : Bytes} (h : chunk ∈ cut bytes) :
    0 < chunk.length ∧ chunk.length ≤ readSize := by
  induction bytes using cut.induct with
  | case1 =>
    rw [cut_nil] at h
    exact absurd h List.not_mem_nil
  | case2 bytes hne ih =>
    rw [cut_of_ne_nil hne] at h
    rcases List.mem_cons.mp h with rfl | h
    · have hpos := List.length_pos_iff.mpr hne
      rw [List.length_take, readSize]
      omega
    · exact ih h

theorem upToEnd_cons_of_ends {item : PipeItem} (h : item.ends = true) (rest : List PipeItem) :
    upToEnd (item :: rest) = [] := by
  simp only [upToEnd, List.takeWhile_cons, h, Bool.not_true, Bool.false_eq_true, ↓reduceIte]

theorem upToEnd_cons {item : PipeItem} (h : item.ends = false) (rest : List PipeItem) :
    upToEnd (item :: rest) = item :: upToEnd rest := by
  simp only [upToEnd, List.takeWhile_cons, h, Bool.not_false, ↓reduceIte]

theorem pastEnd?_cons_of_ends {item : PipeItem} (h : item.ends = true) (rest : List PipeItem) :
    pastEnd? (item :: rest) = some rest := by
  rw [pastEnd?, if_pos h]

theorem pastEnd?_cons {item : PipeItem} (h : item.ends = false) (rest : List PipeItem) :
    pastEnd? (item :: rest) = pastEnd? rest := by
  rw [pastEnd?, h]
  rfl

theorem pastEnd?_suffix {pipe rest : List PipeItem} (h : pastEnd? pipe = some rest) :
    rest <:+ pipe ∧ rest.length < pipe.length := by
  induction pipe with
  | nil => cases h
  | cons item pipe ih =>
    cases he : item.ends with
    | true =>
      rw [pastEnd?_cons_of_ends he] at h
      cases h
      exact ⟨List.suffix_cons item _, Nat.lt_succ_self _⟩
    | false =>
      rw [pastEnd?_cons he] at h
      obtain ⟨hsuffix, hlen⟩ := ih h
      exact ⟨hsuffix.trans (List.suffix_cons item _), Nat.lt_succ_of_lt hlen⟩

/-- Nothing behind an end matters to what comes before it. -/
theorem append_of_end {pipe rest : List PipeItem} (h : pastEnd? pipe = some rest)
    (more : List PipeItem) :
    upToEnd (pipe ++ more) = upToEnd pipe ∧ pastEnd? (pipe ++ more) = some (rest ++ more) := by
  induction pipe with
  | nil => cases h
  | cons item pipe ih =>
    cases he : item.ends with
    | true =>
      rw [pastEnd?_cons_of_ends he] at h
      cases h
      rw [List.cons_append, upToEnd_cons_of_ends he, upToEnd_cons_of_ends he,
        pastEnd?_cons_of_ends he]
      exact ⟨rfl, rfl⟩
    | false =>
      rw [pastEnd?_cons he] at h
      obtain ⟨hup, hpast⟩ := ih h
      rw [List.cons_append, upToEnd_cons he, upToEnd_cons he, pastEnd?_cons he, hup]
      exact ⟨rfl, hpast⟩

/-- Without an end, what is added counts as if it stood alone. -/
theorem append_of_no_end {pipe : List PipeItem} (h : pastEnd? pipe = none)
    (more : List PipeItem) :
    upToEnd (pipe ++ more) = upToEnd pipe ++ upToEnd more ∧
      pastEnd? (pipe ++ more) = pastEnd? more := by
  induction pipe with
  | nil => exact ⟨rfl, rfl⟩
  | cons item pipe ih =>
    cases he : item.ends with
    | true =>
      rw [pastEnd?_cons_of_ends he] at h
      cases h
    | false =>
      rw [pastEnd?_cons he] at h
      obtain ⟨hup, hpast⟩ := ih h
      rw [List.cons_append, upToEnd_cons he, upToEnd_cons he, pastEnd?_cons he, hup]
      exact ⟨rfl, hpast⟩

theorem upToEnd_of_no_end {pipe : List PipeItem} (h : pastEnd? pipe = none) :
    upToEnd pipe = pipe := by
  induction pipe with
  | nil => rfl
  | cons item pipe ih =>
    cases he : item.ends with
    | true =>
      rw [pastEnd?_cons_of_ends he] at h
      cases h
    | false =>
      rw [pastEnd?_cons he] at h
      rw [upToEnd_cons he, ih h]

theorem flatten_chunks (pipe : List PipeItem) : (chunks pipe).flatten = text pipe := by
  rw [chunks, text]
  induction upToEnd pipe with
  | nil => rfl
  | cons item items ih =>
    rw [List.flatMap_cons, List.flatMap_cons, List.flatten_append, ih, flatten_cut]

theorem length_of_mem_chunks {pipe : List PipeItem} {chunk : Bytes} (h : chunk ∈ chunks pipe) :
    0 < chunk.length ∧ chunk.length ≤ readSize := by
  obtain ⟨item, -, hc⟩ := List.mem_flatMap.mp h
  exact length_of_mem_cut hc

theorem chunks_nil : chunks [] = [] := rfl

theorem chunks_cons_of_ends {item : PipeItem} (h : item.ends = true) (rest : List PipeItem) :
    chunks (item :: rest) = [] := by
  rw [chunks, upToEnd_cons_of_ends h, List.flatMap_nil]

theorem chunks_cons {item : PipeItem} (h : item.ends = false) (rest : List PipeItem) :
    chunks (item :: rest) = cut item.bytes ++ chunks rest := by
  rw [chunks, upToEnd_cons h, List.flatMap_cons, chunks]

theorem ends_data {bytes : Bytes} (h : bytes ≠ []) : (PipeItem.data bytes).ends = false := by
  obtain ⟨b, bs, rfl⟩ := List.exists_cons_of_ne_nil h
  rfl

/-- Bytes that are left of an item stay in front of the pipe. -/
theorem chunks_left (left : Bytes) (rest : List PipeItem) :
    chunks (if left = [] then rest else .data left :: rest) = cut left ++ chunks rest := by
  split
  · next h => rw [h, cut_nil, List.nil_append]
  · next h => exact chunks_cons (ends_data h) rest

theorem pastEnd?_left (left : Bytes) (rest : List PipeItem) :
    pastEnd? (if left = [] then rest else .data left :: rest) = pastEnd? rest := by
  split
  · rfl
  · next h => exact pastEnd?_cons (ends_data h) rest

/-- The chunks that a pump has still to hand over. -/
def due (p : Pump) : List Bytes := if p.phase = .finished then [] else chunks p.pipe

/-- What lies behind the item that ends a pump, whether that has been read or not. -/
def beyond? (p : Pump) : Option (List PipeItem) :=
  if p.phase = .finished then some p.pipe else pastEnd? p.pipe

/-- A pump against everything that came into its pipe: what it handed over and what is due are all
the chunks, and nothing behind the end was touched. -/
structure Copied (fed : List PipeItem) (handed : List Bytes) (p : Pump) : Prop where
  chunks : handed ++ p.due = chunks fed
  beyond : p.beyond? = pastEnd? fed

theorem due_of_finished {p : Pump} (h : p.phase = .finished) : p.due = [] := if_pos h

theorem due_of_not_finished {p : Pump} (h : p.phase ≠ .finished) : p.due = Pump.chunks p.pipe :=
  if_neg h

theorem beyond?_of_finished {p : Pump} (h : p.phase = .finished) : p.beyond? = some p.pipe :=
  if_pos h

theorem beyond?_of_not_finished {p : Pump} (h : p.phase ≠ .finished) :
    p.beyond? = pastEnd? p.pipe := if_neg h

theorem copied_start (fd : Int) : Copied [] [] { fd } := ⟨rfl, rfl⟩

/-- An item that comes in is either behind the end or still to be read. -/
theorem Copied.feed {fed : List PipeItem} {handed : List Bytes} {p : Pump}
    (h : Copied fed handed p) (item : PipeItem) :
    Copied (fed ++ [item]) handed (p.feed item) := by
  have hphase : (p.feed item).phase = p.phase := rfl
  have hpipe : (p.feed item).pipe = p.pipe ++ [item] := rfl
  by_cases hf : p.phase = .finished
  · have hend : pastEnd? fed = some p.pipe := h.beyond.symm.trans (beyond?_of_finished hf)
    obtain ⟨hup, hpast⟩ := append_of_end hend [item]
    refine ⟨?_, ?_⟩
    · rw [due_of_finished (hphase.trans hf), Pump.chunks, hup, ← Pump.chunks, ← h.chunks,
        due_of_finished hf]
    · rw [beyond?_of_finished (hphase.trans hf), hpast, hpipe]
  · have hf' : (p.feed item).phase ≠ .finished := hf
    have hbeyond : pastEnd? p.pipe = pastEnd? fed :=
      (beyond?_of_not_finished hf).symm.trans h.beyond
    have hchunks := h.chunks
    rw [due_of_not_finished hf] at hchunks
    cases hend : pastEnd? fed with
    | some rest =>
      obtain ⟨hup, hpast⟩ := append_of_end hend [item]
      obtain ⟨hup', hpast'⟩ := append_of_end (hbeyond.trans hend) [item]
      refine ⟨?_, ?_⟩
      · rw [due_of_not_finished hf', hpipe, Pump.chunks, hup', ← Pump.chunks, hchunks]
        rw [Pump.chunks, Pump.chunks, hup]
      · rw [beyond?_of_not_finished hf', hpipe, hpast', hpast]
    | none =>
      obtain ⟨hup, hpast⟩ := append_of_no_end hend [item]
      obtain ⟨hup', hpast'⟩ := append_of_no_end (hbeyond.trans hend) [item]
      refine ⟨?_, ?_⟩
      · rw [due_of_not_finished hf', hpipe, Pump.chunks, hup', List.flatMap_append,
          ← List.append_assoc, ← Pump.chunks, hchunks]
        rw [Pump.chunks, Pump.chunks, hup, List.flatMap_append]
      · rw [beyond?_of_not_finished hf', hpipe, hpast', hpast]

/-- A pump is finished just if the end was read: what is left in its pipe lies behind the end. -/
theorem Copied.finished_iff {fed : List PipeItem} {handed : List Bytes} {p : Pump}
    (h : Copied fed handed p) : p.phase = .finished ↔ pastEnd? fed = some p.pipe := by
  refine ⟨fun hf => h.beyond.symm.trans (beyond?_of_finished hf), fun hend => ?_⟩
  apply Decidable.byContradiction
  intro hf
  have hlen := pastEnd?_suffix ((beyond?_of_not_finished hf).symm.trans (h.beyond.trans hend))
  exact Nat.lt_irrefl _ hlen.2

end Pump

end Confine
