import Confine.Proofs.Native.Watch
import Confine.Proofs.Sandbox.Publishing

/-!
The way from the raw wait status of a child to the exit code of its sandbox. A wait status is a word
of 32 bits with a sign, and so is an exit code: what the watch reports is small enough for that.
-/

namespace Confine

open EngineEvent Relation

namespace WaitStatus

/-- The low bits of a word are its remainder, whatever its sign. -/
theorem toInt_and_mask (raw mask : Int32) {n : Nat} (hn : n ∣ 0x80000000)
    (hmask : ∀ x, x &&& mask.toBitVec.toNat = x % n) : (raw &&& mask).toInt = raw.toInt % n := by
  have hnat : (raw &&& mask).toBitVec.toNat = raw.toBitVec.toNat % n := by
    rw [Int32.toBitVec_and, BitVec.toNat_and, hmask]
  have hlt : (raw &&& mask).toBitVec.toNat < 0x80000000 := by
    rw [hnat]
    have hpos : 0 < n := Nat.pos_of_dvd_of_pos hn (by decide)
    exact Nat.lt_of_lt_of_le (Nat.mod_lt _ hpos) (Nat.le_of_dvd (by decide) hn)
  have hdvd : (n : Int) ∣ ((2 ^ 32 : Nat) : Int) :=
    Int.natCast_dvd_natCast.mpr (Nat.dvd_trans hn (by decide))
  calc (raw &&& mask).toInt
      = (raw &&& mask).toBitVec.toInt := (Int32.toInt_toBitVec _).symm
    _ = ((raw &&& mask).toBitVec.toNat : Int) := BitVec.toInt_eq_toNat_of_lt (by omega)
    _ = (raw.toBitVec.toNat : Int) % n := by rw [hnat, Int.natCast_emod]
    _ = raw.toInt % n := by
      rw [← Int32.toInt_toBitVec, BitVec.toInt_eq_toNat_bmod, ← Int.emod_emod_of_dvd _ hdvd,
        ← Int.emod_emod_of_dvd (Int.bmod _ _) hdvd, Int.bmod_emod]

theorem toInt_shiftRight (raw : Int32) : (raw >>> 8).toInt = raw.toInt / 256 := by
  rw [← Int32.toInt_toBitVec, Int32.toBitVec_shiftRight, BitVec.toInt_sshiftRight',
    Int.shiftRight_eq_div_pow, Int32.toInt_toBitVec]
  rfl

theorem low_toInt (raw : Int32) : low raw.toInt = (raw &&& 127).toInt :=
  (toInt_and_mask raw 127 (by decide) (Nat.and_two_pow_sub_one_eq_mod · 7)).symm

theorem code_toInt (raw : Int32) : code raw.toInt = ((raw >>> 8) &&& 255).toInt := by
  rw [toInt_and_mask (raw >>> 8) 255 (by decide) (Nat.and_two_pow_sub_one_eq_mod · 8),
    toInt_shiftRight]
  rfl

theorem low_lt (raw : Int) : 0 ≤ low raw ∧ low raw < 128 :=
  ⟨Int.emod_nonneg _ (by decide), Int.emod_lt_of_pos _ (by decide)⟩

theorem code_lt (raw : Int) : 0 ≤ code raw ∧ code raw < 256 :=
  ⟨Int.emod_nonneg _ (by decide), Int.emod_lt_of_pos _ (by decide)⟩

/-- The tests as they are made on bits. The one for a signal counts in a signed byte, in which 127
and one more is negative. -/
def ofWord (raw : Int32) : EngineEvent :=
  if raw &&& 127 = 0 then .exit ((raw >>> 8) &&& 255).toInt
  else if 2 ≤ ((raw &&& 127) + 1).toInt8 then .signal (raw &&& 127).toInt
  else .exit (-1)

theorem toInt8_succ :
    ∀ n : Fin 128, 2 ≤ (Int32.ofInt n.val + 1).toInt8 ↔ n.val ≠ 0 ∧ n.val ≠ 127 := by decide

theorem event_toInt (raw : Int32) : event (some raw.toInt) = ofWord raw := by
  obtain ⟨hnonneg, hlt⟩ := low_lt raw.toInt
  rw [low_toInt] at hnonneg hlt
  rw [event, ofWord, low_toInt, code_toInt]
  generalize raw &&& 127 = bits at hnonneg hlt ⊢
  have hbits : Int32.ofInt bits.toInt.toNat = bits := by
    rw [Int.toNat_of_nonneg hnonneg, Int32.ofInt_toInt]
  have hsigned : 2 ≤ (bits + 1).toInt8 ↔ bits.toInt ≠ 0 ∧ bits.toInt ≠ 127 := by
    have hnat := toInt8_succ ⟨bits.toInt.toNat, by omega⟩
    simp only [hbits] at hnat
    rw [hnat]
    omega
  have hzero : bits = 0 ↔ bits.toInt = 0 := Int32.toInt_inj.symm
  by_cases h : bits.toInt = 0
  · rw [if_pos h, if_pos (hzero.mpr h)]
  · rw [if_neg h, if_neg (mt hzero.mp h)]
    by_cases hstopped : bits.toInt = 127
    · rw [if_pos hstopped, if_neg fun hs => (hsigned.mp hs).2 hstopped]
    · rw [if_neg hstopped, if_pos (hsigned.mpr ⟨h, hstopped⟩)]

/-- The three ways to read a wait status. -/
theorem event_cases (raw : Int) :
    (low raw = 0 ∧ event (some raw) = .exit (code raw)) ∨
    (low raw = 127 ∧ event (some raw) = .exit (-1)) ∨
    ((1 ≤ low raw ∧ low raw ≤ 126) ∧ event (some raw) = .signal (low raw)) := by
  obtain ⟨hnonneg, hlt⟩ := low_lt raw
  rw [event]
  split
  · next h => exact .inl ⟨h, rfl⟩
  · next hzero =>
    split
    · next h => exact .inr (.inl ⟨h, rfl⟩)
    · next hstopped => exact .inr (.inr ⟨by omega, rfl⟩)

theorem event_stopped_iff (raw : Int) : event (some raw) = .exit (-1) ↔ low raw = 127 := by
  obtain ⟨hnonneg, -⟩ := code_lt raw
  rcases event_cases raw with ⟨h, he⟩ | ⟨h, he⟩ | ⟨h, he⟩ <;> rw [he]
  · simp only [exit.injEq]
    omega
  · exact iff_of_true rfl h
  · exact iff_of_false EngineEvent.noConfusion (by omega)

/-- The ends that a wait status can tell. -/
theorem ending?_event_range {raw : Option Int} {t : Termination}
    (h : (event raw).ending? = some t) :
    (∃ code, t = .exited code ∧ -1 ≤ code ∧ code ≤ 255) ∨
    ∃ number, t = .signaled number ∧ 1 ≤ number ∧ number ≤ 126 := by
  cases raw with
  | none =>
    cases h
    exact .inl ⟨-1, rfl, by decide⟩
  | some raw =>
    obtain ⟨hnonneg, hlt⟩ := code_lt raw
    rcases event_cases raw with ⟨-, he⟩ | ⟨-, he⟩ | ⟨hlow, he⟩ <;> rw [he] at h <;> cases h
    · exact .inl ⟨_, rfl, by omega⟩
    · exact .inl ⟨-1, rfl, by decide⟩
    · exact .inr ⟨_, rfl, hlow⟩

end WaitStatus

namespace Termination

/-- The exit code in the arithmetic of words. -/
def exitWord : Termination → Int32
  | exited code => Int32.ofInt code
  | signaled number => 128 + Int32.ofInt number
  | spawnFailed => 127

theorem toInt_ofInt_of_byte {n : Int} (hlow : -1 ≤ n) (hhigh : n ≤ 255) :
    (Int32.ofInt n).toInt = n := Int32.toInt_ofInt_of_le (by omega) (by omega)

theorem toInt_exitWord_exited {code : Int} (hlow : -1 ≤ code) (hhigh : code ≤ 255) :
    (exited code).exitWord.toInt = code := toInt_ofInt_of_byte hlow hhigh

theorem toInt_exitWord_signaled {number : Int} (hlow : 1 ≤ number) (hhigh : number ≤ 126) :
    (signaled number).exitWord.toInt = 128 + number := by
  have hword : (Int32.ofInt number).toInt = number :=
    toInt_ofInt_of_byte (by omega) (by omega)
  rw [exitWord, Int32.toInt_add, hword]
  exact Int.bmod_eq_of_le (show _ ≤ 128 + number by omega) (show 128 + number < _ by omega)

/-- Not every number can be told by a shell. -/
example : (signaled 0x7fffffff).exitWord.toInt ≠ (signaled 0x7fffffff).exitCode := by decide

end Termination

theorem Lifecycle.after_eq_terminated {es : List EngineEvent} {t : Termination} :
    running.after es = terminated t ↔ firstEnding es = some t := by
  cases h : firstEnding es <;> simp [after, h]

/-- A child that ran is announced to its end, and the end is the first that was heard. -/
theorem Sandbox.Phase.ending {s : Sandbox} {heard : List EngineEvent} (h : s.Phase heard)
    {t : Termination} (ht : s.state = .terminated t) (hran : t ≠ .spawnFailed) :
    firstEnding heard = some t ∧ ∃ paths : List String,
      s.hub.lifecycle.sent = .started :: paths.map .newSocket ++ t.event?.toList := by
  cases h with
  | idle state => exact absurd (ht.symm.trans state) Lifecycle.noConfusion
  | spawning state => exact absurd (ht.symm.trans state) Lifecycle.noConfusion
  | failed state =>
    rw [ht] at state
    exact absurd (Lifecycle.terminated.inj state) hran
  | live state told =>
    have hfirst := Lifecycle.after_eq_terminated.mp (state.symm.trans ht)
    refine ⟨hfirst, sockets (beforeEnding heard), ?_⟩
    have htells : Lifecycle.running.tells announcement? heard =
        (sockets (beforeEnding heard)).map .newSocket ++ t.event?.toList := by
      rw [Lifecycle.tells, announcements_heeded, hfirst]
      rfl
    rw [told, htells]
    rfl

/-- The channels for ends carry no more than the ordered one. -/
theorem Hub.Sorted.ending {h : Hub} (hs : h.Sorted) {paths : List String} {t : Termination}
    (hsent : h.lifecycle.sent = .started :: paths.map .newSocket ++ t.event?.toList) :
    h.exit.sent = (t.event?.bind LifecycleEvent.exit?).toList ∧
      h.signal.sent = (t.event?.bind LifecycleEvent.signal?).toList := by
  have quiet {f : LifecycleEvent → Option Int} (hstart : f .started = none)
      (hsocket : ∀ path, f (.newSocket path) = none) :
      h.lifecycle.sent.filterMap f = (t.event?.bind f).toList := by
    have hsockets : (paths.map LifecycleEvent.newSocket).filterMap f = [] := by
      rw [List.filterMap_map]
      exact List.filterMap_eq_nil_iff.mpr fun path _ => hsocket path
    rw [hsent, List.filterMap_append, List.filterMap_cons_none hstart, hsockets, List.nil_append]
    cases t with
    | exited code => cases h : f (.exit code) <;> simp [Termination.event?, h]
    | signaled number => cases h : f (.signal number) <;> simp [Termination.event?, h]
    | spawnFailed => rfl
  rw [hs.exit, hs.signal]
  exact ⟨quiet rfl fun _ => rfl, quiet rfl fun _ => rfl⟩

namespace Scene

/-- The ends that the sink was told of are those of the child. -/
def Truthful (w : Scene) : Prop :=
  ∀ e ∈ w.told, ∀ t, e.ending? = some t → ∃ raw, w.tasks.ended = some raw ∧ e = WaitStatus.event raw

variable {w : Scene}

theorem Truthful.congr (h : w.Truthful) {w' : Scene} (htold : w'.told = w.told)
    (hended : ∀ raw, w.tasks.ended = some raw → w'.tasks.ended = some raw) : w'.Truthful := by
  intro e he t ht
  rw [htold] at he
  obtain ⟨raw, hraw, heq⟩ := h e he t ht
  exact ⟨raw, hended raw hraw, heq⟩

/-- Once the child has ended, it cannot end otherwise. -/
theorem ended_childEnds (v : Supervision) {raw : Option Int} (h : v.ended = some raw)
    (other : Option Int) : (v.childEnds other).ended = some raw := by
  rw [Supervision.childEnds, h, Option.some_or]

theorem Truthful.pumped (h : w.Truthful) (stream : Stream) (q : Pump × Sandbox)
    (handed : List Bytes) : (w.pumped stream q handed).Truthful := by
  have hended := (w.tasks.setPump_other stream q.1).1
  intro e he t ht
  rcases List.mem_append.mp he with he | he
  · obtain ⟨raw, hraw, heq⟩ := h e he t ht
    exact ⟨raw, hended.trans hraw, heq⟩
  · rw [ending?_data handed he] at ht
    cases ht

theorem Truthful.report (h : w.Truthful) : w.report.Truthful := by
  rw [Scene.report, Supervision.report_eq]
  cases hend : w.tasks.ending? with
  | none => exact h.congr (List.append_nil _) fun _ => id
  | some e =>
    intro e' he' t ht
    rcases List.mem_append.mp he' with he' | he'
    · exact h e' he' t ht
    · obtain ⟨hraw, -⟩ := Supervision.ending?_eq_some hend
      rw [List.mem_singleton.mp he']
      exact hraw

theorem Truthful.step (h : w.Truthful) {limits : Limits} {w' : Scene} (hs : Step limits w w') :
    w'.Truthful := by
  cases hs with
  | write stream | interrupt stream | hangUp stream =>
    exact h.congr rfl fun raw hraw => (w.tasks.setPump_other stream _).1.trans hraw
  | ends other => exact h.congr rfl fun raw hraw => ended_childEnds w.tasks hraw other
  | expire | kill => exact h.congr rfl fun raw hraw => ended_childEnds w.tasks hraw killed
  | reap => exact h.congr rfl fun _ => id
  | wait stream => exact h.pumped stream _ []
  | giveUp stream => exact h.pumped stream _ []
  | turn stream q => exact h.pumped stream q _
  | report => exact h.report
  | foreign m => exact h.congr rfl fun _ => id

theorem truthful_steps {c : Config} {limits : Limits} {before : List Move} {options : SpawnOptions}
    (h : ReflTransGen (Step limits) (begun c before options) w) : w.Truthful := by
  induction h with
  | refl => exact fun e he => absurd he List.not_mem_nil
  | tail _ hs ih => exact ih.step hs

/-- A sandbox that has terminated was told the wait status of its child. -/
theorem ended_of_terminated {c : Config} (h : w.Sound c) (hw : w.Truthful) {t : Termination}
    (ht : w.stage.sandbox.state = .terminated t) :
    (∃ raw, w.tasks.ended = some raw ∧ (WaitStatus.event raw).ending? = some t) ∧
      ∃ paths : List String, w.stage.sandbox.hub.lifecycle.sent =
        .started :: paths.map .newSocket ++ t.event?.toList := by
  have hphase := Stage.phase_run c w.past
  rw [← h.recorded.course] at hphase
  have hran : t ≠ .spawnFailed := by
    rintro rfl
    exact h.recorded.unfailed ht
  obtain ⟨hfirst, hsent⟩ := hphase.ending ht hran
  obtain ⟨e, hmem, he⟩ := List.exists_of_findSome?_eq_some hfirst
  obtain ⟨raw, hraw, rfl⟩ := hw e (h.recorded.heard.subset hmem) t he
  exact ⟨⟨raw, hraw, he⟩, hsent⟩

/-- A wait status is read as its bits say, and what it tells of a child is what the sandbox stores
and announces. The exit code can be reckoned in words. -/
theorem exit_status_exact :
    (∀ raw : Int32,
      let e := WaitStatus.event (some raw.toInt)
      e = WaitStatus.ofWord raw ∧
      (raw &&& 127 = 0 → e = .exit ((raw >>> 8) &&& 255).toInt) ∧
      (1 ≤ raw &&& 127 → raw &&& 127 ≤ 126 → e = .signal (raw &&& 127).toInt) ∧
      (e = .exit (-1) ↔ raw &&& 127 = 127) ∧
      ∀ other : Int32, raw &&& 127 ≠ 0 → other &&& 127 = raw &&& 127 →
        WaitStatus.event (some other.toInt) = e) ∧
    WaitStatus.event none = .exit (-1) ∧
    ∀ (c : Config) (limits : Limits) (before : List Move) (options : SpawnOptions) (w : Scene)
      (t : Termination), ((Stage.ofConfig c).run before).sandbox.state = .idle →
      ((Stage.ofConfig c).run before).sandbox.present = true →
      ReflTransGen (Step limits) (begun c before options) w →
      w.stage.sandbox.state = .terminated t →
      let hub := w.stage.sandbox.hub
      (∃ raw, w.tasks.ended = some raw ∧ (WaitStatus.event raw).ending? = some t) ∧
      (t.exitWord.toInt = t.exitCode ∧ -1 ≤ t.exitCode ∧ t.exitCode ≤ 255) ∧
      ((∃ code, t = .exited code ∧ t.exitCode = code ∧
          hub.lifecycle.sent.getLast? = some (.exit code) ∧
          hub.exit.sent = [code] ∧ hub.signal.sent = []) ∨
        ∃ number, t = .signaled number ∧ t.exitCode = 128 + number ∧
          (129 ≤ t.exitCode ∧ t.exitCode ≤ 254) ∧
          hub.lifecycle.sent.getLast? = some (.signal number) ∧
          hub.exit.sent = [] ∧ hub.signal.sent = [number]) := by
  refine ⟨fun raw => ⟨WaitStatus.event_toInt raw, fun h => ?exit, fun hlow hhigh => ?signal,
    ?stopped, fun other hne hsame => ?same⟩, rfl, ?told⟩
  case exit =>
    rw [WaitStatus.event, WaitStatus.low_toInt, h, WaitStatus.code_toInt]
    rfl
  case signal =>
    rw [Int32.le_iff_toInt_le, ← WaitStatus.low_toInt] at hlow hhigh
    rw [← WaitStatus.low_toInt]
    have hone : (1 : Int32).toInt = 1 := rfl
    have htop : (126 : Int32).toInt = 126 := rfl
    rcases WaitStatus.event_cases raw.toInt with ⟨h, -⟩ | ⟨h, -⟩ | ⟨-, he⟩
    · omega
    · omega
    · exact he
  case stopped =>
    rw [WaitStatus.event_stopped_iff, WaitStatus.low_toInt, ← Int32.toInt_inj]
    rfl
  case same =>
    have hlow : WaitStatus.low raw.toInt ≠ 0 := by
      rw [WaitStatus.low_toInt]
      exact fun hzero => hne (Int32.toInt_inj.mp hzero)
    have hlows : WaitStatus.low other.toInt = WaitStatus.low raw.toInt := by
      rw [WaitStatus.low_toInt, WaitStatus.low_toInt, hsame]
    rw [WaitStatus.event, WaitStatus.event, hlows, if_neg hlow, if_neg hlow]
  case told =>
    intro c limits before options w t idle present h ht hub
    obtain ⟨⟨raw, hraw, hend⟩, paths, hsent⟩ :=
      ended_of_terminated ((sound_begun options idle present).steps h) (truthful_steps h) ht
    have hsorted : hub.Sorted := by
      have hw := ((sound_begun options idle present).steps h).recorded.course
      have hgrows := (Stage.grows_run c w.past).sorted (Hub.sorted_ofCapacity c.eventCapacity)
      rwa [← hw] at hgrows
    obtain ⟨hexits, hsignals⟩ := hsorted.ending hsent
    refine ⟨⟨raw, hraw, hend⟩, ?_⟩
    rcases WaitStatus.ending?_event_range hend with
      ⟨code, rfl, hlow, hhigh⟩ | ⟨number, rfl, hlow, hhigh⟩
    · exact ⟨⟨Termination.toInt_exitWord_exited hlow hhigh, hlow, hhigh⟩,
        .inl ⟨code, rfl, rfl, by rw [hsent]; exact List.getLast?_concat, hexits, hsignals⟩⟩
    · have hcode : (Termination.signaled number).exitCode = 128 + number := rfl
      exact ⟨⟨Termination.toInt_exitWord_signaled hlow hhigh, by omega, by omega⟩,
        .inr ⟨number, rfl, rfl, by omega, by rw [hsent]; exact List.getLast?_concat, hexits,
          hsignals⟩⟩

/-- The status has the sign bit and the bit for a memory dump, and tells of a segmentation fault. -/
theorem dumped_exit_status_exact :
    let raw : Int32 := 0x8000008b
    ∃ w, ReflTransGen (Step {}) (begun {} [] { program := "" }) w ∧
      (1 ≤ raw &&& 127 ∧ raw &&& 127 ≤ 126) ∧ raw.toInt < 0 ∧
      WaitStatus.event (some raw.toInt) = .signal 11 ∧
      w.tasks.ended = some (some raw.toInt) ∧
      w.stage.sandbox.state = .terminated (.signaled 11) ∧
      (Termination.signaled 11).exitWord.toInt = 139 ∧
      w.stage.sandbox.hub.signal.sent = [11] := by
  intro raw
  let w₀ := (begun {} [] { program := "" }).does (.spawnReturns (.ok ()))
  let w₁ : Scene := { w₀ with tasks := (w₀.tasks.childEnds (some raw.toInt)).reap }
  let w₂ := (w₁.feed .stdout .endOfStream).feed .stderr .endOfStream
  let w₃ := (w₂.polled .stdout).polled .stderr
  have h₁ : ReflTransGen (Step {}) w₀ w₁ := .head (.ends (some raw.toInt)) (.single .reap)
  have h₂ : ReflTransGen (Step {}) w₁ w₂ :=
    .head (.hangUp .stdout (by decide +kernel)) (.single (.hangUp .stderr (by decide +kernel)))
  have h₃ : ReflTransGen (Step {}) w₂ w₃ :=
    (steps_polled {} w₂ (by decide +kernel)).trans
      (steps_polled {} (w₂.polled .stdout) (by decide +kernel))
  have hsteps : ReflTransGen (Step {}) (begun {} [] { program := "" }) w₃.report :=
    .head (.foreign (.spawnReturns (.ok ())) rfl) ((h₁.trans (h₂.trans h₃)).tail .report)
  have hstate : w₃.report.stage.sandbox.state = .terminated (.signaled 11) := by decide +kernel
  obtain ⟨hread, -, htold⟩ := exit_status_exact
  obtain ⟨-, ⟨hword, -, -⟩, hend⟩ :=
    htold {} {} [] { program := "" } w₃.report _ rfl rfl hsteps hstate
  have hevent : WaitStatus.event (some raw.toInt) = .signal (raw &&& 127).toInt :=
    (hread raw).2.2.1 (by decide) (by decide)
  have hbits : (raw &&& 127).toInt = 11 := by decide
  have hsignal : w₃.report.stage.sandbox.hub.signal.sent = [11] := by
    rcases hend with ⟨code, heq, -⟩ | ⟨number, heq, -, -, -, -, hsent⟩
    · cases heq
    · cases heq
      exact hsent
  exact ⟨w₃.report, hsteps, by decide, by decide, hevent.trans (by rw [hbits]),
    by decide +kernel, hstate, hword, hsignal⟩

end Scene

end Confine
