import Confine.Reader.Waiting

/-!
The books of one reader: what it keeps of each chunk, what it drops, and what reads take out again.
-/

namespace Confine

/-- The bytes that a read yields. -/
def ReadOutcome.bytes : ReadOutcome → Bytes
  | .data chunk => chunk
  | _ => []

namespace Reader

/-- The counter agrees with the chunks, none of which is empty, and a dropping reader stays within
its capacity. -/
structure WellFormed (r : Reader) : Prop where
  length_eq : r.length = r.content.length
  nonempty : ∀ chunk ∈ r.chunks, chunk ≠ []
  bounded : ∀ capacity, r.policy = .dropNewest capacity → r.length ≤ capacity

theorem WellFormed.chunks_eq_nil {r : Reader} (h : r.WellFormed) :
    r.chunks = [] ↔ r.content = [] := by
  constructor
  · intro hc
    rw [content, hc]
    rfl
  · intro hc
    cases hchunks : r.chunks with
    | nil => rfl
    | cons chunk rest =>
      have hmem : chunk ∈ r.chunks := hchunks ▸ List.mem_cons_self
      exact absurd (List.flatten_eq_nil_iff.mp hc chunk hmem) (h.nonempty chunk hmem)

/-- What an open reader keeps of a chunk: all of it, or the longest prefix that fits. -/
def kept (r : Reader) (bytes : Bytes) : Bytes :=
  match r.policy with
  | .dropNewest capacity => bytes.take (r.room capacity)
  | _ => bytes

theorem append_content (r : Reader) (bytes : Bytes) :
    (r.append bytes).content = r.content ++ bytes := by
  rw [append]
  split
  · next h => simp only [h, List.append_nil]
  · simp only [content, List.flatten_append, List.flatten_singleton]

theorem append_length (r : Reader) (bytes : Bytes) :
    (r.append bytes).length = r.length + bytes.length := by
  rw [append]
  split
  · next h => simp only [h, List.length_nil, Nat.add_zero]
  · rfl

theorem append_nonempty (r : Reader) (bytes : Bytes) (h : ∀ chunk ∈ r.chunks, chunk ≠ []) :
    ∀ chunk ∈ (r.append bytes).chunks, chunk ≠ [] := by
  rw [append]
  split
  · exact h
  · next hb =>
    intro chunk hc
    rcases List.mem_append.mp hc with hc | hc
    · exact h chunk hc
    · rw [List.mem_singleton.mp hc]
      exact hb

/-- The reader after the signal that a chunk gives. -/
def signalled (r : Reader) : Reader := { r with arrivals := r.arrivals + 1 }

theorem push_whole {r : Reader} {bytes : Bytes} (h : r.closed = false)
    (hfit : ∀ capacity, r.policy = .dropNewest capacity → r.length + bytes.length ≤ capacity) :
    r.push bytes = (r.signalled.append bytes,
      .buffered (decide ((r.signalled.append bytes).length <
        (r.signalled.append bytes).threshold))) := by
  rw [push]
  rw [if_neg (by simp only [h, Bool.false_eq_true, not_false_eq_true])]
  split
  · next capacity hp =>
    rw [if_neg (Nat.not_lt.mpr (hfit capacity hp))]
    rfl
  · rfl

theorem push_overflow {r : Reader} {bytes : Bytes} {capacity : Nat} (h : r.closed = false)
    (hp : r.policy = .dropNewest capacity) (hover : capacity < r.length + bytes.length) :
    r.push bytes = (r.signalled.truncate capacity bytes,
      .truncated (r.room capacity) (bytes.length - r.room capacity)) := by
  rw [push]
  rw [if_neg (by simp only [h, Bool.false_eq_true, not_false_eq_true])]
  split
  · next capacity' hp' =>
    cases hp.symm.trans hp'
    rw [if_pos hover]
    rfl
  · next hne => exact absurd hp (hne capacity)

theorem push_of_closed (r : Reader) (bytes : Bytes) (h : r.closed = true) :
    r.push bytes = (r, .closed) := by
  simp only [push, h, ↓reduceIte]

/-- The books between two moments: what was taken out and what is left is what was there and what
was kept since; the rest is counted as dropped. -/
structure Turnover (r r' : Reader) (taken kept : Bytes) (lost : Nat) : Prop where
  content : taken ++ r'.content = r.content ++ kept
  dropped : r'.dropped = r.dropped + lost
  policy : r'.policy = r.policy
  wellFormed : r.WellFormed → r'.WellFormed

theorem Turnover.refl (r : Reader) : r.Turnover r [] [] 0 :=
  ⟨(List.append_nil _).symm, rfl, rfl, id⟩

theorem Turnover.trans {r₁ r₂ r₃ : Reader} {taken taken' kept kept' : Bytes} {lost lost' : Nat}
    (h : r₁.Turnover r₂ taken kept lost) (h' : r₂.Turnover r₃ taken' kept' lost') :
    r₁.Turnover r₃ (taken ++ taken') (kept ++ kept') (lost + lost') where
  content := by
    rw [List.append_assoc, h'.content, ← List.append_assoc, h.content, List.append_assoc]
  dropped := by rw [h'.dropped, h.dropped, Nat.add_assoc]
  policy := h'.policy.trans h.policy
  wellFormed hw := h'.wellFormed (h.wellFormed hw)

theorem kept_length_le (r : Reader) (bytes : Bytes) : (r.kept bytes).length ≤ bytes.length := by
  rw [kept]
  split
  · exact List.length_take_le' _ _
  · exact Nat.le_refl _

/-- Only a dropping reader leaves anything out. -/
theorem kept_whole {r : Reader} (h : ∀ capacity, r.policy ≠ .dropNewest capacity) (bytes : Bytes) :
    r.kept bytes = bytes := by
  rw [kept]
  split
  · next capacity hp => exact absurd hp (h capacity)
  · rfl

/-- What a dropping reader keeps stays within its capacity. -/
theorem WellFormed.kept_bounded {r : Reader} (h : r.WellFormed) (bytes : Bytes) {capacity : Nat}
    (hp : r.policy = .dropNewest capacity) : r.length + (r.kept bytes).length ≤ capacity := by
  have hb := h.bounded capacity hp
  simp only [kept, hp, room, List.length_take]
  omega

theorem append_other (r : Reader) (bytes : Bytes) :
    (r.append bytes).closed = r.closed ∧ (r.append bytes).policy = r.policy ∧
      (r.append bytes).dropped = r.dropped := by
  rw [append]
  split <;> exact ⟨rfl, rfl, rfl⟩

theorem kept_of_fits {r : Reader} {bytes : Bytes}
    (hfit : ∀ capacity, r.policy = .dropNewest capacity → r.length + bytes.length ≤ capacity) :
    r.kept bytes = bytes := by
  rw [kept]
  split
  · next capacity hp =>
    have := hfit capacity hp
    exact List.take_of_length_le (by simp only [room]; omega)
  · rfl

/-- An open reader buffers a chunk that fits and says whether it wants more, and truncates a chunk
that does not fit. -/
theorem push_cases {r : Reader} (bytes : Bytes) (h : r.closed = false) :
    (r.kept bytes = bytes ∧ r.push bytes =
      (r.signalled.append bytes, .buffered (r.signalled.append bytes).readyForMore)) ∨
    ∃ capacity, r.policy = .dropNewest capacity ∧ capacity < r.length + bytes.length ∧
      r.kept bytes = bytes.take (r.room capacity) ∧
      r.push bytes = (r.signalled.truncate capacity bytes,
        .truncated (r.room capacity) (bytes.length - r.room capacity)) := by
  rcases Classical.em (∃ capacity, r.policy = .dropNewest capacity ∧
    capacity < r.length + bytes.length) with ⟨capacity, hp, hover⟩ | hnone
  · have hkept : r.kept bytes = bytes.take (r.room capacity) := by simp only [kept, hp]
    exact .inr ⟨capacity, hp, hover, hkept, push_overflow h hp hover⟩
  · have hfit : ∀ capacity, r.policy = .dropNewest capacity →
        r.length + bytes.length ≤ capacity :=
      fun capacity hp => Nat.not_lt.mp fun hover => hnone ⟨capacity, hp, hover⟩
    have hopen : (r.signalled.append bytes).closed = false :=
      (r.signalled.append_other bytes).1.trans h
    refine .inl ⟨kept_of_fits hfit, ?_⟩
    rw [push_whole h hfit, readyForMore, hopen]
    rfl

/-- An open reader keeps a part of a chunk and counts the rest as dropped. -/
theorem push_eq {r : Reader} (bytes : Bytes) (h : r.closed = false) :
    (r.push bytes).1 = { r.signalled.append (r.kept bytes) with
      dropped := r.dropped + (bytes.length - (r.kept bytes).length) } := by
  rcases push_cases bytes h with ⟨hkept, hpush⟩ | ⟨capacity, hp, hover, hkept, hpush⟩
  · rw [hpush, hkept, Nat.sub_self]
    have hd := (r.signalled.append_other bytes).2.2
    exact congrArg (fun d => { r.signalled.append bytes with dropped := d }) hd
  · have hroom : r.room capacity ≤ bytes.length := by simp only [room]; omega
    rw [hpush, hkept, List.length_take, Nat.min_eq_left hroom]
    rfl

theorem push_turnover {r : Reader} (bytes : Bytes) (h : r.closed = false) :
    r.Turnover (r.push bytes).1 [] (r.kept bytes) (bytes.length - (r.kept bytes).length) := by
  rw [push_eq bytes h]
  have hc := r.signalled.append_content (r.kept bytes)
  have hl := r.signalled.append_length (r.kept bytes)
  have hp := (r.signalled.append_other (r.kept bytes)).2.1
  refine ⟨hc, rfl, hp, fun hw => ⟨?_, ?_, ?_⟩⟩
  · have hlen := congrArg List.length hc
    rw [List.length_append] at hlen
    exact hl.trans ((congrArg (· + _) hw.length_eq).trans hlen.symm)
  · exact append_nonempty _ _ hw.nonempty
  · intro capacity hcap
    exact Nat.le_trans (Nat.le_of_eq hl) (hw.kept_bounded bytes (hp.symm.trans hcap))

theorem push_closed (r : Reader) (bytes : Bytes) : (r.push bytes).1.closed = r.closed := by
  cases h : r.closed with
  | true => rw [push_of_closed r bytes h, h]
  | false =>
    rw [push_eq bytes h]
    exact (r.signalled.append_other (r.kept bytes)).1.trans h

theorem close_closed (r : Reader) : r.close.1.closed = true := by
  rw [close]
  split
  · next h => exact h
  · rfl

theorem close_turnover (r : Reader) : r.Turnover r.close.1 [] [] 0 := by
  rw [close]
  split
  · exact .refl r
  · exact ⟨(List.append_nil _).symm, rfl, rfl, fun h => ⟨h.length_eq, h.nonempty, h.bounded⟩⟩

theorem vacant_bytes (r : Reader) : r.vacant.bytes = [] := by
  rw [vacant]
  split <;> rfl

theorem flatten_left (left : Bytes) (rest : List Bytes) :
    (if left = [] then rest else left :: rest).flatten = left ++ rest.flatten := by
  split
  · next h => rw [h, List.nil_append]
  · rfl

/-- A read that finds nothing changes nothing. -/
theorem readMax_vacant {r : Reader} {max : Option Nat} (h : max = some 0 ∨ r.chunks = []) :
    r.readMax max = (r, r.vacant) := by
  rw [readMax]
  split
  · rfl
  · next hm =>
    rw [h.resolve_left hm]

/-- A read finds nothing, or takes the front part of the oldest chunk. -/
theorem readMax_cases (r : Reader) (max : Option Nat) :
    ((max = some 0 ∨ r.chunks = []) ∧ r.readMax max = (r, r.vacant)) ∨
    ∃ front left rest, max ≠ some 0 ∧ r.chunks = (front ++ left) :: rest ∧
      (front = [] → left = []) ∧ (∀ m, max = some m → front.length ≤ m) ∧
      r.readMax max = ({ r with
        chunks := if left = [] then rest else left :: rest
        length := r.length - front.length
        drains := r.drains + 1 }, .data front) := by
  by_cases hv : max = some 0 ∨ r.chunks = []
  · exact .inl ⟨hv, readMax_vacant hv⟩
  · obtain ⟨hm, hne⟩ := not_or.mp hv
    obtain ⟨chunk, rest, hc⟩ := List.exists_cons_of_ne_nil hne
    right
    cases max with
    | none =>
      refine ⟨chunk, [], rest, hm, ?_, fun _ => rfl, fun m h => ?_, ?_⟩
      · rw [List.append_nil, hc]
      · cases h
      · rw [readMax, if_neg hm, hc]
        simp only [List.drop_length, ↓reduceIte]
    | some m =>
      have hpos : m ≠ 0 := fun h => hm (congrArg some h)
      have hdrop : chunk.drop (chunk.take m).length = chunk.drop m := by
        rw [List.length_take, ← List.drop_eq_drop_min]
      refine ⟨chunk.take m, chunk.drop m, rest, hm, ?_, fun h => ?_, fun n h => ?_, ?_⟩
      · rw [List.take_append_drop, hc]
      · rw [(List.take_eq_nil_iff.mp h).resolve_left hpos, List.drop_nil]
      · cases h
        exact List.length_take_le m chunk
      · rw [readMax, if_neg hm, hc]
        simp only [hdrop]

theorem readMax_turnover (r : Reader) (max : Option Nat) :
    r.Turnover (r.readMax max).1 (r.readMax max).2.bytes [] 0 := by
  rcases r.readMax_cases max with ⟨-, he⟩ | ⟨front, left, rest, -, hc, -, -, he⟩
  · rw [he, vacant_bytes]
    exact .refl r
  · have hsplit : front ++ (if left = [] then rest else left :: rest).flatten = r.content := by
      rw [flatten_left, content, hc, List.flatten_cons, List.append_assoc]
    rw [he]
    refine ⟨hsplit.trans (List.append_nil _).symm, rfl, rfl, fun hw => ⟨?_, ?_, ?_⟩⟩
    · have hlen := congrArg List.length hsplit
      rw [List.length_append, ← hw.length_eq] at hlen
      simp only [content]
      omega
    · intro c hmem
      have hrest : ∀ c ∈ rest, c ≠ [] := fun c h => hw.nonempty c (hc ▸ List.mem_cons_of_mem _ h)
      simp only at hmem
      split at hmem
      · exact hrest c hmem
      · next hleft =>
        rcases List.mem_cons.mp hmem with rfl | hmem
        · exact hleft
        · exact hrest c hmem
    · intro capacity hp
      exact Nat.le_trans (Nat.sub_le _ _) (hw.bounded capacity hp)

theorem readMax_closed (r : Reader) (max : Option Nat) :
    (r.readMax max).1.closed = r.closed := by
  rw [readMax]
  split
  · rfl
  · split <;> rfl

theorem readMax_none {r : Reader} {chunk : Bytes} {rest : List Bytes}
    (h : r.chunks = chunk :: rest) : r.readMax none = ({ r with
      chunks := rest
      length := r.length - chunk.length
      drains := r.drains + 1 }, .data chunk) := by
  simp only [readMax, h, List.drop_length, reduceCtorEq, ↓reduceIte]

theorem drain_of_nil {r : Reader} (h : r.chunks = []) : r.drain.1 = r := by
  obtain ⟨policy, mark, chunks, length, closed, dropped, arrivals, drains⟩ := r
  cases h
  rfl

/-- Taking the oldest chunk first makes no difference to a drain. -/
theorem drain_readMax {r : Reader} {chunk : Bytes} {rest : List Bytes}
    (h : r.chunks = chunk :: rest) : (r.readMax none).1.drain.1 = r.drain.1 := by
  rw [readMax_none h]
  simp only [drain, content, h, List.flatten_cons, List.length_append, List.length_cons,
    Nat.sub_sub, Nat.add_assoc, Nat.add_comm 1]

/-- A polled wait for a chunk reads at most once. -/
theorem pollRead_reader (r : Reader) (asleep : Option Nat) :
    (r.pollRead asleep).1 = r ∨ (r.pollRead asleep).1 = (r.readMax none).1 := by
  rw [pollRead]
  split
  · exact .inl rfl
  · right
    rw [read]
    split <;> next h => rw [h]

/-- A polled wait for everything drains the reader or leaves it alone. -/
theorem pollReadToEnd_reader (r : Reader) (taken : Bytes) (asleep : Option Nat) :
    (r.pollReadToEnd taken asleep).1 = r ∨ (r.pollReadToEnd taken asleep).1 = r.drain.1 := by
  rw [pollReadToEnd]
  split
  · exact .inl rfl
  · right
    simp only
    split <;> rfl

end Reader

end Confine
