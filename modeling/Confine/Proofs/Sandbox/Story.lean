import Confine.Proofs.Sandbox.Consistency
import Mathlib.Logic.Relation

/-!
The story that a sandbox tells through its lifecycle events. The events that it heard of settle the
state and everything that was announced.
-/

namespace Confine

open EngineEvent Relation

namespace Lifecycle

/-- The ways forward. -/
inductive Advance : Lifecycle → Lifecycle → Prop
  | spawn : Advance idle spawning
  | start : Advance spawning running
  | fail : Advance spawning (terminated .spawnFailed)
  | finish {t : Termination} (h : t ≠ .spawnFailed) : Advance running (terminated t)

/-- Nothing follows an end. -/
theorem terminated_of_advances {t : Termination} {state : Lifecycle}
    (h : ReflTransGen Advance (terminated t) state) : state = terminated t := by
  rcases h.cases_head with h | ⟨state', h, -⟩
  · exact h.symm
  · cases h

theorem advances_after (state : Lifecycle) (es : List EngineEvent) :
    ReflTransGen Advance state (state.after es) := by
  cases state with
  | running =>
    cases h : firstEnding es with
    | none =>
      rw [after_of_no_ending h]
    | some t =>
      have ht : t ≠ .spawnFailed := fun he => firstEnding_ne_spawnFailed es (he ▸ h)
      simp only [after, h]
      exact .single (.finish ht)
  | _ => exact .refl

end Lifecycle

namespace Sandbox

/-- What the events heard so far mean to a sandbox. -/
inductive Phase (s : Sandbox) (heard : List EngineEvent) : Prop
  | idle (state : s.state = .idle) (unheard : heard = []) (silent : s.hub.lifecycle.sent = [])
  | spawning (state : s.state = .spawning) (queued : s.pending = heard.filter known)
      (silent : s.hub.lifecycle.sent = [])
  | failed (state : s.state = .terminated .spawnFailed) (silent : s.hub.lifecycle.sent = [])
  | live (state : s.state = Lifecycle.running.after heard)
      (told : s.hub.lifecycle.sent = .started :: Lifecycle.running.tells announcement? heard)

theorem Phase.congr {s s' : Sandbox} {heard : List EngineEvent} (h : s.Phase heard)
    (hstate : s'.state = s.state) (hpending : s'.pending = s.pending)
    (hsent : s'.hub.lifecycle.sent = s.hub.lifecycle.sent) : s'.Phase heard := by
  cases h with
  | idle state unheard silent => exact .idle (hstate.trans state) unheard (hsent.trans silent)
  | spawning state queued silent =>
    exact .spawning (hstate.trans state) (hpending.trans queued) (hsent.trans silent)
  | failed state silent => exact .failed (hstate.trans state) (hsent.trans silent)
  | live state told => exact .live (hstate.trans state) (hsent.trans told)

theorem Phase.readMax {s : Sandbox} {heard : List EngineEvent} (h : s.Phase heard)
    (stream : Stream) (max : Option Nat) : (s.readMax stream max).1.Phase heard := by
  obtain ⟨hstate, -, hpending⟩ := s.readMax_other stream max
  exact h.congr hstate hpending (by cases stream <;> rfl)

theorem Phase.replay {s : Sandbox} {heard : List EngineEvent} (h : s.Phase heard)
    (hi : s.state ≠ .idle) (hs : s.state ≠ .spawning) (es : List EngineEvent) :
    (s.replay es).Phase (heard ++ es) := by
  cases h with
  | idle state => exact absurd state hi
  | spawning state => exact absurd state hs
  | failed state silent =>
    refine .failed ?_ ?_
    · rw [replay_state, state]
      rfl
    · rw [replay_lifecycle, silent, state]
      rfl
  | live state told =>
    refine .live ?_ ?_
    · rw [replay_state, state, ← Lifecycle.after_append]
    · rw [replay_lifecycle, told, state, List.cons_append, ← Lifecycle.tells_append]

theorem Phase.of_idle {s : Sandbox} {heard : List EngineEvent} (h : s.Phase heard)
    (hi : s.state = .idle) : heard = [] ∧ s.hub.lifecycle.sent = [] := by
  cases h with
  | idle state unheard silent => exact ⟨unheard, silent⟩
  | spawning state => exact absurd (hi.symm.trans state) Lifecycle.noConfusion
  | failed state => exact absurd (hi.symm.trans state) Lifecycle.noConfusion
  | live state =>
    exact absurd (Lifecycle.after_eq_idle.mp (state.symm.trans hi)) Lifecycle.noConfusion

theorem Phase.of_spawning {s : Sandbox} {heard : List EngineEvent} (h : s.Phase heard)
    (hs : s.state = .spawning) :
    s.pending = heard.filter known ∧ s.hub.lifecycle.sent = [] := by
  cases h with
  | spawning state queued silent => exact ⟨queued, silent⟩
  | idle state => exact absurd (hs.symm.trans state) Lifecycle.noConfusion
  | failed state => exact absurd (hs.symm.trans state) Lifecycle.noConfusion
  | live state =>
    exact absurd (Lifecycle.after_eq_spawning.mp (state.symm.trans hs)) Lifecycle.noConfusion

/-- After the start the queued events are told as if they had been heard only now. -/
theorem Phase.started {s : Sandbox} {heard : List EngineEvent} (h : s.Phase heard)
    (hs : s.state = .spawning) : (s.started.replay s.pending).Phase heard := by
  obtain ⟨queued, silent⟩ := h.of_spawning hs
  refine .live ?_ ?_
  · rw [replay_state, queued, Lifecycle.after_filter_known]
    rfl
  · rw [replay_lifecycle, queued, Lifecycle.tells_filter_known fun _ => announcement?_of_unknown]
    have hsent : s.started.hub.lifecycle.sent = s.hub.lifecycle.sent ++ [.started] := rfl
    rw [hsent, silent]
    rfl

end Sandbox

namespace Stage

/-- Every move goes forward or stays. -/
theorem Turn.advances {w w' : Stage} {m : Move} (h : w.Consistent) (ht : w.Turn m w') :
    ReflTransGen Lifecycle.Advance w.sandbox.state w'.sandbox.state := by
  cases ht with
  | quiet m s alike => rw [alike.state]
  | begun options present idle =>
    rw [idle]
    exact .single .spawn
  | applied e =>
    rw [Sandbox.replay_state]
    exact Lifecycle.advances_after _ _
  | started call =>
    rw [h.spawning_iff.mpr call, Sandbox.replay_state]
    exact .head .start (Lifecycle.advances_after _ _)
  | failed e call =>
    rw [h.spawning_iff.mpr call]
    exact .single .fail
  | took stream max => rw [(w.sandbox.readMax_other stream max).1]
  | postponed => exact .refl
  | refused => exact .refl
  | dropped => exact .refl

/-- A sandbox that is gone does not come back. -/
theorem Turn.present {w w' : Stage} {m : Move} (h : w.Turn m w')
    (hp : w'.sandbox.present = true) : w.sandbox.present = true := by
  cases h with
  | quiet m s alike => exact alike.present.symm.trans hp
  | applied e => exact (Sandbox.replay_present w.sandbox [e]).symm.trans hp
  | started => exact (Sandbox.replay_present w.sandbox.started w.sandbox.pending).symm.trans hp
  | took stream max => exact (w.sandbox.readMax_other stream max).2.1.symm.trans hp
  | dropped => cases hp
  | _ => exact hp

/-- A spawn fails only when its call returns with an error. -/
theorem Turn.unfailed {w w' : Stage} {m : Move} (h : w.Turn m w')
    (hm : ∀ e, m ≠ .spawnReturns (.error e))
    (hs : w.sandbox.state ≠ .terminated .spawnFailed) :
    w'.sandbox.state ≠ .terminated .spawnFailed := by
  cases h with
  | quiet m s alike =>
    rw [alike.state]
    exact hs
  | begun => exact Lifecycle.noConfusion
  | applied e =>
    rw [Sandbox.replay_state, ne_eq, Lifecycle.after_eq_spawnFailed]
    exact hs
  | started =>
    rw [Sandbox.replay_state, ne_eq, Lifecycle.after_eq_spawnFailed]
    exact Lifecycle.noConfusion
  | failed e => exact absurd rfl (hm e)
  | took stream max =>
    rw [(w.sandbox.readMax_other stream max).1]
    exact hs
  | _ => exact hs

theorem advances_run {w : Stage} (h : w.Consistent) (ms : List Move) :
    ReflTransGen Lifecycle.Advance w.sandbox.state (w.run ms).sandbox.state := by
  induction ms generalizing w with
  | nil => exact .refl
  | cons m ms ih => exact ((w.turn m).advances h).trans (ih (h.turn (w.turn m)))

theorem heard_report (w : Stage) (sink : w.hasSink = true) (present : w.sandbox.present = true)
    (e : EngineEvent) : w.heard (.report e) = [e] := by
  simp only [heard, sink, present, Bool.and_self, ↓reduceIte]

theorem Turn.phase {w w' : Stage} {m : Move} {past : List EngineEvent} (h : w.Consistent)
    (hp : w.sandbox.Phase past) (ht : w.Turn m w') : w'.sandbox.Phase (past ++ w.heard m) := by
  have still {s : Sandbox} (hs : s.Phase past) (hm : w.heard m = []) :
      s.Phase (past ++ w.heard m) := by
    rw [hm, List.append_nil]
    exact hs
  cases ht with
  | quiet m s alike heard => exact still (hp.congr alike.state alike.pending alike.lifecycle) heard
  | begun options present idle =>
    obtain ⟨unheard, silent⟩ := hp.of_idle idle
    have hpending := h.pending_nil (by rw [idle]; exact Lifecycle.noConfusion)
    refine still (.spawning rfl ?_ silent) rfl
    rw [unheard]
    exact hpending
  | postponed e sink present spawning known =>
    have hheard := w.heard_report sink present e
    obtain ⟨queued, silent⟩ := hp.of_spawning spawning
    refine .spawning spawning ?_ silent
    rw [hheard, List.filter_append, ← queued, List.filter_cons_of_pos known]
    rfl
  | refused fd bytes sink present spawning unknown =>
    have hheard := w.heard_report sink present (.data fd bytes)
    have hk : ¬(EngineEvent.data fd bytes).known = true := fun h => unknown (of_decide_eq_true h)
    -- The report was heard, but it is not among the known events that the queue must hold.
    obtain ⟨queued, silent⟩ := hp.of_spawning spawning
    refine .spawning spawning ?_ silent
    rw [hheard, List.filter_append, ← queued, List.filter_cons_of_neg hk]
    exact (List.append_nil _).symm
  | applied e sink present state =>
    rw [w.heard_report sink present e]
    exact hp.replay (h.sink_iff.mp sink) state [e]
  | started call => exact still (hp.started (h.spawning_iff.mpr call)) rfl
  | failed e call =>
    exact still (.failed rfl (hp.of_spawning (h.spawning_iff.mpr call)).2) rfl
  | took stream max => exact still (hp.readMax stream max) rfl
  | dropped => exact still (hp.congr rfl rfl rfl) rfl

theorem phase_run (c : Config) (ms : List Move) :
    ((ofConfig c).run ms).sandbox.Phase ((ofConfig c).gather heard ms) := by
  refine run_induction (P := fun ms w => w.sandbox.Phase ((ofConfig c).gather heard ms))
    (ofConfig c) ?_ (fun ms m h => ?_) ms
  · exact .idle rfl rfl rfl
  · rw [gather_concat]
    exact (turn _ m).phase (consistent_run c ms) h

/-- At every moment of every course the state tells which lifecycle events were sent: none up to the
start and after a failed spawn, then the start, the sockets reported before the first end, and that
end alone. States only go forward, and the end of a child stays. -/
theorem lifecycle_story (c : Config) (ms ns : List Move) :
    let w := (ofConfig c).run ms
    let past := (ofConfig c).gather heard ms
    let sent := w.sandbox.hub.lifecycle.sent
    let opening := .started :: (sockets (beforeEnding past)).map .newSocket
    ReflTransGen Lifecycle.Advance w.sandbox.state ((ofConfig c).run (ms ++ ns)).sandbox.state ∧
    (∀ t, w.sandbox.state = .terminated t →
      ((ofConfig c).run (ms ++ ns)).sandbox.state = .terminated t) ∧
    match w.sandbox.state with
    | .idle => sent = []
    | .spawning => sent = []
    | .running => sent = opening ∧ firstEnding past = none
    | .terminated (.exited code) =>
      sent = opening ++ [.exit code] ∧ firstEnding past = some (.exited code)
    | .terminated (.signaled number) =>
      sent = opening ++ [.signal number] ∧ firstEnding past = some (.signaled number)
    | .terminated .spawnFailed => sent = [] := by
  intro w past sent opening
  have hforward : ReflTransGen Lifecycle.Advance w.sandbox.state
      ((ofConfig c).run (ms ++ ns)).sandbox.state := by
    rw [run_append]
    exact advances_run (consistent_run c ms) ns
  refine ⟨hforward, fun t ht => ?_, ?_⟩
  · rw [ht] at hforward
    exact Lifecycle.terminated_of_advances hforward
  · have hphase : w.sandbox.Phase past := phase_run c ms
    cases hphase with
    | idle state unheard silent =>
      rw [state]
      exact silent
    | spawning state queued silent =>
      rw [state]
      exact silent
    | failed state silent =>
      rw [state]
      exact silent
    | live state told =>
      have htold : sent = opening ++ ((firstEnding past).bind Termination.event?).toList :=
        told.trans (congrArg (LifecycleEvent.started :: ·) (announcements_heeded past))
      cases hend : firstEnding past with
      | none =>
        rw [state, Lifecycle.after_of_no_ending hend]
        rw [hend] at htold
        exact ⟨htold.trans (List.append_nil _), rfl⟩
      | some t =>
        have hstate : w.sandbox.state = .terminated t := by
          rw [state]
          simp only [Lifecycle.after, hend]
        rw [hstate]
        rw [hend] at htold
        cases t with
        | exited code => exact ⟨htold, rfl⟩
        | signaled number => exact ⟨htold, rfl⟩
        | spawnFailed => exact absurd hend (firstEnding_ne_spawnFailed past)

end Stage

end Confine
