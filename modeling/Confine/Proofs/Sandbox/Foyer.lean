import Confine.Proofs.Reader.Waking
import Confine.Proofs.Sandbox.Publishing

/-!
A sandbox with the futures on its readers. Who holds a reader can take from it and wait on it, but
only what is done with the sandbox itself can fill or close it.
-/

namespace Confine

namespace Sandbox

theorem Applied.signals {s : Sandbox} {e : EngineEvent} {p : Sandbox × Except SandboxError Bool}
    (h : s.Applied e p) (stream : Stream) : (s.reader stream).Signals (p.1.reader stream) := by
  cases h with
  | unknown fd =>
    rw [← (s.alike_report (.unknownDescriptor fd)).reader stream]
    exact .refl _
  | routed source bytes =>
    by_cases hs : stream = source
    · subst hs
      rw [route_reader]
      exact Reader.push_signals _ bytes
    · rw [s.route_reader_ne source bytes hs]
      exact .refl _
  | ended => cases stream <;> exact Reader.close_signals _
  | late => exact .refl _
  | announced => cases stream <;> exact .refl _
  | ignored => exact .refl _

theorem replay_signals (s : Sandbox) (stream : Stream) (es : List EngineEvent) :
    (s.reader stream).Signals ((s.replay es).reader stream) := by
  induction es generalizing s with
  | nil => exact .refl _
  | cons e es ih => exact ((s.applied e).signals stream).trans (ih (s.apply e).1)

end Sandbox

/-- Whatever is done with a sandbox, those who wait on its readers are still waiting or were
signalled. -/
theorem Stage.Turn.signals {w w' : Stage} {m : Move} (ht : w.Turn m w') (stream : Stream) :
    (w.sandbox.reader stream).Signals (w'.sandbox.reader stream) := by
  cases ht with
  | quiet m s alike =>
    rw [alike.reader]
    exact .refl _
  | begun => cases stream <;> exact .refl _
  | postponed => cases stream <;> exact .refl _
  | refused => cases stream <;> exact .refl _
  | applied e => exact w.sandbox.replay_signals stream [e]
  | started =>
    have hsame : w.sandbox.started.reader stream = w.sandbox.reader stream := by
      cases stream <;> rfl
    rw [← hsame]
    exact w.sandbox.started.replay_signals stream w.sandbox.pending
  | failed => cases stream <;> exact Reader.close_signals _
  | took source max =>
    by_cases hs : stream = source
    · subst hs
      rw [Sandbox.readMax_reader]
      exact Reader.readMax_signals _ max
    · rw [w.sandbox.readMax_reader_ne max hs]
      exact .refl _
  | dropped => cases stream <;> exact .refl _

namespace Lobby

/-- Whether a deed is one of those who hold the reader. -/
def Deed.isVisit : Deed → Bool
  | .push _ | .close => false
  | _ => true

/-- What can be done with a reader by those who hold it. -/
abbrev Visit := { d : Deed // d.isVisit = true }

variable (l : Lobby) (v : Visit)

theorem visit_closed : (l.next v.val).reader.closed = l.reader.closed := by
  obtain ⟨d, hd⟩ := v
  cases d with
  | push => cases hd
  | close => cases hd
  | read max => exact l.reader.readMax_closed max
  | poll place =>
    simp only [next, act]
    split
    · next w hw =>
      have hpoll := w.poll_closed l.reader
      rw [poll]
      split <;> next he => rwa [he] at hpoll
    · rfl
  | _ => rfl

theorem visit_kept : l.kept v.val = [] := by
  obtain ⟨d, hd⟩ := v
  cases d with
  | push => cases hd
  | _ => rfl

end Lobby

/-- A sandbox and the futures on its readers. -/
structure Foyer where
  stage : Stage
  waiters : Stream → List (Option Waiter) := fun _ => []

namespace Foyer

/-- What somebody does at one moment: with the sandbox, or with one of its readers. -/
inductive Deed where
  | move (m : Move)
  | visit (stream : Stream) (v : Lobby.Visit)

def ofConfig (c : Config) : Foyer := { stage := .ofConfig c }

/-- A reader and the futures on it. -/
def lobby (f : Foyer) (stream : Stream) : Lobby :=
  { reader := f.stage.sandbox.reader stream, waiters := f.waiters stream }

def setLobby (f : Foyer) (stream : Stream) (l : Lobby) : Foyer :=
  { stage := { f.stage with sandbox := f.stage.sandbox.setReader stream l.reader }
    waiters := fun other => if other = stream then l.waiters else f.waiters other }

def next (f : Foyer) : Deed → Foyer
  | .move m => { f with stage := f.stage.next m }
  | .visit stream v => f.setLobby stream ((f.lobby stream).next v.val)

/-- What a visitor learns. -/
def reply (f : Foyer) (stream : Stream) (v : Lobby.Visit) : Reply := (f.lobby stream).reply v.val

def run (f : Foyer) (ds : List Deed) : Foyer := ds.foldl next f

/-- The bytes that a deed takes out of a reader. -/
def taken (stream : Stream) (f : Foyer) : Deed → Bytes
  | .move m => f.stage.taken stream m
  | .visit source v => if source = stream then (f.lobby stream).taken v.val else []

/-- The bytes that some deeds take out of a reader, in their order. -/
def takings (stream : Stream) (f : Foyer) : List Deed → Bytes
  | [] => []
  | d :: ds => f.taken stream d ++ (f.next d).takings stream ds

section Lobbies

variable (f : Foyer) (stream : Stream) (l : Lobby)

theorem lobby_setLobby : (f.setLobby stream l).lobby stream = l := by
  cases stream <;> simp only [lobby, setLobby, Sandbox.reader_setReader, ↓reduceIte]

theorem lobby_setLobby_ne {other : Stream} (h : other ≠ stream) :
    (f.setLobby stream l).lobby other = f.lobby other := by
  simp only [lobby, setLobby, Sandbox.reader_setReader_ne _ _ h, h, ↓reduceIte]

end Lobbies

/-- The links between the parts of the sandbox hold, and all who wait on its readers are watched
over. -/
structure Sound (f : Foyer) : Prop where
  stage : f.stage.Consistent
  attended : ∀ stream, (f.lobby stream).Attended
  wellFormed : ∀ stream, (f.lobby stream).reader.WellFormed

theorem sound_ofConfig (c : Config) : (ofConfig c).Sound where
  stage := Stage.consistent_ofConfig c
  attended _ _ hw := absurd hw List.not_mem_nil
  wellFormed stream := (Sandbox.reader_ofConfig c stream).2.2.2

section Sound

variable {f : Foyer} (h : f.Sound)

include h

theorem Sound.move (m : Move) : (f.next (.move m)).Sound where
  stage := h.stage.turn (f.stage.turn m)
  attended stream := (h.attended stream).signals ((f.stage.turn m).signals stream)
  wellFormed stream :=
    ((f.stage.turn m).dealings stream).turnover.wellFormed (h.wellFormed stream)

theorem Sound.visit (stream : Stream) (v : Lobby.Visit) : (f.next (.visit stream v)).Sound where
  stage := by
    have hlinked := h.stage.linked.setReader ((f.lobby stream).visit_closed v)
    refine h.stage.changed hlinked ?_ (fun hc => ?_) ?_ <;> cases stream <;>
      first | rfl | exact h.stage.present_of_call hc
  attended other := by
    by_cases ho : other = stream
    · rw [ho, next, lobby_setLobby]
      exact (h.attended stream).next v.val
    · rw [next, lobby_setLobby_ne _ _ _ ho]
      exact h.attended other
  wellFormed other := by
    by_cases ho : other = stream
    · rw [ho, next, lobby_setLobby]
      obtain ⟨lost, hbooks⟩ := (h.attended stream).turnover v.val
      exact hbooks.wellFormed (h.wellFormed stream)
    · rw [next, lobby_setLobby_ne _ _ _ ho]
      exact h.wellFormed other

theorem Sound.next (d : Deed) : (f.next d).Sound := by
  cases d with
  | move m => exact h.move m
  | visit stream v => exact h.visit stream v

/-- A visit takes bytes out of its reader, and puts none in. -/
theorem Sound.visit_content (stream source : Stream) (v : Lobby.Visit) :
    f.taken stream (.visit source v) ++ ((f.next (.visit source v)).lobby stream).reader.content =
      (f.lobby stream).reader.content := by
  by_cases hs : stream = source
  · subst hs
    obtain ⟨lost, hbooks⟩ := (h.attended stream).turnover v.val
    have hcontent := hbooks.content
    rw [Lobby.visit_kept, List.append_nil] at hcontent
    rw [taken, if_pos rfl, Foyer.next, lobby_setLobby, hcontent]
  · rw [taken, if_neg fun heq => hs heq.symm, Foyer.next, lobby_setLobby_ne _ _ _ hs,
      List.nil_append]

end Sound

theorem Sound.run {f : Foyer} (h : f.Sound) (ds : List Deed) : (f.run ds).Sound := by
  induction ds generalizing f with
  | nil => exact h
  | cons d ds ih => exact ih (h.next d)

end Foyer

end Confine
