import Confine.Event.Hub

/-!
What a hub has sent so far, whoever listened. The channels by kind repeat the ordered one, and
records only grow.
-/

namespace Confine

namespace LifecycleEvent

def started? : LifecycleEvent → Option Unit
  | started => some ()
  | _ => none

def newSocket? : LifecycleEvent → Option String
  | newSocket path => some path
  | _ => none

def exit? : LifecycleEvent → Option Int
  | exit status => some status
  | _ => none

def signal? : LifecycleEvent → Option Int
  | signal number => some number
  | _ => none

end LifecycleEvent

namespace Hub

/-- Each channel of a kind got what the ordered channel has of that kind. -/
structure Sorted (h : Hub) : Prop where
  started : h.started.sent = h.lifecycle.sent.filterMap LifecycleEvent.started?
  newSocket : h.newSocket.sent = h.lifecycle.sent.filterMap LifecycleEvent.newSocket?
  exit : h.exit.sent = h.lifecycle.sent.filterMap LifecycleEvent.exit?
  signal : h.signal.sent = h.lifecycle.sent.filterMap LifecycleEvent.signal?

theorem sorted_ofCapacity (capacity : Nat) : (ofCapacity capacity).Sorted := ⟨rfl, rfl, rfl, rfl⟩

theorem Sorted.congr {h h' : Hub} (hs : h.Sorted)
    (lifecycle : h'.lifecycle.sent = h.lifecycle.sent) (started : h'.started.sent = h.started.sent)
    (newSocket : h'.newSocket.sent = h.newSocket.sent) (exit : h'.exit.sent = h.exit.sent)
    (signal : h'.signal.sent = h.signal.sent) : h'.Sorted where
  started := by rw [started, lifecycle, hs.started]
  newSocket := by rw [newSocket, lifecycle, hs.newSocket]
  exit := by rw [exit, lifecycle, hs.exit]
  signal := by rw [signal, lifecycle, hs.signal]

theorem Sorted.emit {h : Hub} (hs : h.Sorted) (event : LifecycleEvent) : (h.emit event).Sorted := by
  have hlifecycle : (h.emit event).lifecycle.sent = h.lifecycle.sent ++ [event] := rfl
  constructor <;> rw [hlifecycle, List.filterMap_append]
  · rw [← hs.started]
    cases event <;> first | rfl | exact (List.append_nil _).symm
  · rw [← hs.newSocket]
    cases event <;> first | rfl | exact (List.append_nil _).symm
  · rw [← hs.exit]
    cases event <;> first | rfl | exact (List.append_nil _).symm
  · rw [← hs.signal]
    cases event <;> first | rfl | exact (List.append_nil _).symm

theorem Sorted.silent {h : Hub} (hs : h.Sorted) (hl : h.lifecycle.sent = []) :
    h.started.sent = [] ∧ h.newSocket.sent = [] ∧ h.exit.sent = [] ∧ h.signal.sent = [] := by
  rw [hs.started, hs.newSocket, hs.exit, hs.signal, hl]
  exact ⟨rfl, rfl, rfl, rfl⟩

/-- What came to the records between two moments: some notices, some faults, and any events. -/
structure Grows (h h' : Hub) (notices : List DataNotice) (faults : List EngineFault) : Prop where
  sorted : h.Sorted → h'.Sorted
  data : h'.data.sent = h.data.sent ++ notices
  faults : h'.faults.sent = h.faults.sent ++ faults

theorem Grows.refl (h : Hub) : h.Grows h [] [] :=
  ⟨id, (List.append_nil _).symm, (List.append_nil _).symm⟩

theorem Grows.trans {h₁ h₂ h₃ : Hub} {notices notices' : List DataNotice}
    {faults faults' : List EngineFault} (h : h₁.Grows h₂ notices faults)
    (h' : h₂.Grows h₃ notices' faults') :
    h₁.Grows h₃ (notices ++ notices') (faults ++ faults') where
  sorted hs := h'.sorted (h.sorted hs)
  data := by rw [h'.data, h.data, List.append_assoc]
  faults := by rw [h'.faults, h.faults, List.append_assoc]

theorem grows_emit (h : Hub) (event : LifecycleEvent) : h.Grows (h.emit event) [] [] := by
  refine ⟨fun hs => hs.emit event, ?_, ?_⟩ <;> rw [List.append_nil] <;> cases event <;> rfl

theorem grows_report (h : Hub) (fault : EngineFault) : h.Grows (h.report fault) [] [fault] :=
  ⟨fun hs => hs.congr rfl rfl rfl rfl rfl, (List.append_nil _).symm, rfl⟩

theorem grows_subscribe (h : Hub) (topic : Topic) : h.Grows (h.subscribe topic).1 [] [] := by
  cases topic <;> exact ⟨fun hs => hs.congr rfl rfl rfl rfl rfl, (List.append_nil _).symm,
    (List.append_nil _).symm⟩

theorem grows_leave (h : Hub) (topic : Topic) : h.Grows (h.leave topic) [] [] := by
  cases topic <;> exact ⟨fun hs => hs.congr rfl rfl rfl rfl rfl, (List.append_nil _).symm,
    (List.append_nil _).symm⟩

end Hub

end Confine
