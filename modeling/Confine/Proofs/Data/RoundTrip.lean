import Confine.Proofs.Data.Reading
import Confine.Proofs.Data.Text
import Confine.Proofs.Json.RoundTrip

/-!
The values of the library read back from the JSON text that they are written as.
-/

namespace Confine

section Texts

open Json (printable)

theorem printable_int32 {i : Int} (h : FitsInt32 i) : printable (.int i) = true := by
  have hlo : -0x8000000000000000 ≤ i := Int.le_trans (by decide) h.1
  have hhi : i < 0x10000000000000000 := Int.lt_trans h.2 (by decide)
  rw [printable, decide_eq_true hlo, decide_eq_true hhi, Bool.and_true]

theorem printable_nat {n : Nat} (h : n < wordBound) : printable (.int n) = true := by
  have hlo : -0x8000000000000000 ≤ (n : Int) := Int.le_trans (by decide) (Int.natCast_nonneg n)
  have hhi : (n : Int) < 0x10000000000000000 := Int.ofNat_lt.mpr h
  rw [printable, decide_eq_true hlo, decide_eq_true hhi, Bool.and_true]

theorem printable_limit {limit : Option Nat} (h : FitsLimit limit) :
    printable (.ofNat? limit) = true := by
  cases limit with
  | none => rfl
  | some n => exact printable_nat (Nat.lt_trans (h n rfl) (by decide))

theorem printable_cons {name : String} {d : Data} {ms : List (String × Data)}
    (hd : printable d = true) (hms : printable (.object ms) = true) :
    printable (.object ((name, d) :: ms)) = true := by
  rw [printable] at hms ⊢
  rw [Json.printableMembers, Json.printableMember, hd, hms]
  rfl

theorem DataNotice.printable_toData {n : DataNotice} (h : n.Fits) : printable n.toData = true :=
  printable_cons (printable_int32 h.1) (printable_cons (printable_nat h.2) rfl)

theorem EngineFault.printable_toData {e : EngineFault} (h : e.Fits) :
    printable e.toData = true := by
  cases e with
  | unknownDescriptor => exact printable_cons rfl (printable_cons (printable_int32 h) rfl)
  | bytesDropped =>
    apply printable_cons rfl
    exact printable_cons (printable_int32 h.1) (printable_cons (printable_nat h.2) rfl)

theorem BufferPolicy.printable_toData {p : BufferPolicy} (h : p.Fits) :
    printable p.toData = true := by
  cases p with
  | unbounded => rfl
  | dropNewest n => exact printable_cons rfl (printable_cons (printable_nat (h n rfl)) rfl)
  | suspend n => exact printable_cons rfl (printable_cons (printable_nat (h n rfl)) rfl)

theorem Termination.printable_toData {t : Termination} (h : t.Fits) :
    printable t.toData = true := by
  cases t with
  | exited => exact printable_cons rfl (printable_cons (printable_int32 h) rfl)
  | signaled => exact printable_cons rfl (printable_cons (printable_int32 h) rfl)
  | spawnFailed => rfl

theorem Lifecycle.printable_toData {s : Lifecycle} (h : s.Fits) : printable s.toData = true := by
  cases s with
  | terminated t =>
    exact printable_cons rfl (printable_cons (Termination.printable_toData (h t rfl)) rfl)
  | _ => rfl

theorem LifecycleEvent.printable_toData {e : LifecycleEvent} (h : e.Fits) :
    printable e.toData = true := by
  cases e with
  | exit => exact printable_cons rfl (printable_cons (printable_int32 h) rfl)
  | signal => exact printable_cons rfl (printable_cons (printable_int32 h) rfl)
  | _ => rfl

theorem Limits.printable_toData {l : Limits} (h : l.Fits) : printable l.toData = true := by
  apply printable_cons (printable_limit h.cpuTimeMs)
  apply printable_cons (printable_limit h.wallTimeMs)
  apply printable_cons (printable_limit h.memoryMb)
  apply printable_cons (printable_limit h.processes)
  apply printable_cons (printable_limit h.openFiles)
  exact printable_cons (printable_limit h.fsizeKb) rfl

theorem Config.printable_toData {c : Config} (h : c.Fits) : printable c.toData = true := by
  apply printable_cons rfl
  apply printable_cons (BufferPolicy.printable_toData h.outputBuffer)
  apply printable_cons (printable_nat h.highWaterMark)
  apply printable_cons (printable_nat h.eventCapacity)
  apply printable_cons
  · cases c.workingDir <;> rfl
  · exact printable_cons (Limits.printable_toData h.limits) rfl

end Texts

/-- A value reads back from its text when its data does. -/
theorem Json.text_reads {α : Type} {d : Data} {text : String} {read : Data → Option α} {a : α}
    (htext : write d = text) (hd : printable d = true) (hread : read d = some a) :
    write d = text ∧ (read? text).bind read = some a := by
  refine ⟨htext, ?_⟩
  rw [← htext, read?_write hd, Option.bind_some, hread]

/-- Every value that the library writes as JSON has the text of its kind, and this text reads back
as the value. A limit that is absent stays so, whatever its default. -/
theorem json_round_trip :
    (∀ n : DataNotice, n.Fits → Json.write n.toData = n.jsonText ∧
      (Json.read? n.jsonText).bind (DataNotice.ofData Json.format) = some n) ∧
    (∀ e : EngineFault, e.Fits → Json.write e.toData = e.jsonText ∧
      (Json.read? e.jsonText).bind (EngineFault.ofData Json.format 1) = some e) ∧
    (∀ p : BufferPolicy, p.Fits → Json.write p.toData = p.jsonText ∧
      (Json.read? p.jsonText).bind (BufferPolicy.ofData Json.format 1) = some p) ∧
    (∀ t : Termination, t.Fits → Json.write t.toData = t.jsonText ∧
      (Json.read? t.jsonText).bind (Termination.ofData Json.format 1 false) = some t) ∧
    (∀ s : Lifecycle, s.Fits → Json.write s.toData = s.jsonText ∧
      (Json.read? s.jsonText).bind (Lifecycle.ofData Json.format 1) = some s) ∧
    (∀ e : LifecycleEvent, e.Fits → Json.write e.toData = e.jsonText ∧
      (Json.read? e.jsonText).bind (LifecycleEvent.ofData Json.format 1) = some e) ∧
    (∀ l : Limits, l.Fits → Json.write l.toData = l.jsonText ∧
      (Json.read? l.jsonText).bind (Limits.ofData Json.format) = some l) ∧
    (∀ c : Config, c.Fits → Json.write c.toData = c.jsonText ∧
      (Json.read? c.jsonText).bind (Config.ofData Json.format) = some c) ∧
    (∀ l l' : Limits, l.Fits → (Json.read? l.jsonText).bind (Limits.ofData Json.format) = some l' →
      (l'.openFiles = none ↔ l.openFiles = none) ∧ (l'.fsizeKb = none ↔ l.fsizeKb = none)) := by
  have hone : Json.format.Allows 1 := (by decide : 1 ≤ 127)
  have htwo : Json.format.Allows 2 := (by decide : 2 ≤ 127)
  have hlimits (l : Limits) (h : l.Fits) : Json.write l.toData = l.jsonText ∧
      (Json.read? l.jsonText).bind (Limits.ofData Json.format) = some l :=
    Json.text_reads l.write_toData (Limits.printable_toData h) (Limits.ofData_toData h)
  refine ⟨?notice, ?fault, ?policy, ?termination, ?lifecycle, ?event, hlimits, ?config, ?absent⟩
  case notice =>
    intro n h
    apply Json.text_reads n.write_toData (DataNotice.printable_toData h)
    exact DataNotice.ofData_toData h
  case fault =>
    intro e h
    apply Json.text_reads e.write_toData (EngineFault.printable_toData h)
    exact EngineFault.ofData_toData hone h
  case policy =>
    intro p h
    apply Json.text_reads p.write_toData (BufferPolicy.printable_toData h)
    exact BufferPolicy.ofData_toData hone h
  case termination =>
    intro t h
    apply Json.text_reads t.write_toData (Termination.printable_toData h)
    exact Termination.ofData_toData false h
  case lifecycle =>
    intro s h
    apply Json.text_reads s.write_toData (Lifecycle.printable_toData h)
    exact Lifecycle.ofData_toData h
  case event =>
    intro e h
    apply Json.text_reads e.write_toData (LifecycleEvent.printable_toData h)
    exact LifecycleEvent.ofData_toData h
  case config =>
    intro c h
    apply Json.text_reads c.write_toData (Config.printable_toData h)
    exact Config.ofData_toData htwo h
  case absent =>
    intro l l' h hl'
    cases (hlimits l h).2.symm.trans hl'
    exact ⟨Iff.rfl, Iff.rfl⟩

/-- The directory has a quotation mark, a backslash and a line break in its name, and there is no
limit where there would be one by default. -/
theorem escaped_dir_round_trip :
    let c : Config := { workingDir := some "/a\"b\\c\n", limits := { openFiles := none } }
    c.Fits ∧ (Json.read? c.jsonText).bind (Config.ofData Json.format) = some c := by
  intro c
  have hlimits : c.limits.Fits := by
    refine ⟨?_, ?_, ?_, ?_, ?_, ?_⟩ <;> simp [c, FitsLimit, limitBound]
  have hc : c.Fits := {
    outputBuffer := by simp [c, BufferPolicy.Fits, BufferPolicy.capacity?]
    highWaterMark := by decide
    eventCapacity := by decide
    limits := hlimits }
  obtain ⟨-, -, -, -, -, -, -, hconfig, -⟩ := json_round_trip
  exact ⟨hc, (hconfig c hc).2⟩

example : Json.write (EngineFault.bytesDropped 2 10).toData =
    "\x7b\"fault\":\"bytes_dropped\",\"fd\":2,\"count\":10\x7d" := by
  cbv

/-- `null` is no limit, and a limit that is not named has its default. -/
example : (Json.read? "\x7b\"open_files\":null\x7d").bind (Limits.ofData Json.format) =
    some { openFiles := none } := by
  cbv

end Confine
