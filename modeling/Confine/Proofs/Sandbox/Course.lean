import Confine.Session.Basic

/-!
The course of a sandbox: what its owner, its engine and the holders of its channels do, one move
after the other. The engine's call to spawn begins with one move and returns with another; whatever
is done in between is done during the call. What the engine answers is part of the moves.
-/

namespace Confine

/-- What somebody does at one moment. -/
inductive Move where
  /-- The owner spawns; the engine is called if the sandbox is idle. -/
  | spawn (options : SpawnOptions)
  /-- The engine's spawn call returns. -/
  | spawnReturns (outcome : Except EngineError Unit)
  /-- The engine reports an event through its sink. -/
  | report (event : EngineEvent)
  /-- Somebody asks for the reader of a descriptor, to wait for room there. -/
  | seekRoom (fd : Int)
  | read (stream : Stream) (max : Option Nat)
  /-- The owner looks whether the child has ended. -/
  | awaitEnd
  | kill
  /-- A writer hands over bytes for the child's stdin, which the engine accepts or not. -/
  | write (bytes : Bytes) (accepted : Bool)
  | endStdin
  | setDebug (value : Bool)
  | setMapping (mapping : PathMapping)
  | subscribe (topic : Topic)
  | unsubscribe (topic : Topic)
  /-- The owner drops the sandbox; nobody can while its engine is being called to spawn. -/
  | drop

/-- A sandbox with what the course so far has shown to its engine. -/
structure Stage where
  sandbox : Sandbox
  /-- Whether the engine was called to spawn: it then has a sink. -/
  hasSink : Bool := false
  /-- Whether the engine's spawn call is in progress. -/
  inCall : Bool := false

/-- What holds at the start of a fold and is kept by each step holds throughout. -/
theorem foldl_induction {P : List τ → σ → Prop} (f : σ → τ → σ) (s : σ) (start : P [] s)
    (step : ∀ ts t, P ts (ts.foldl f s) → P (ts ++ [t]) (f (ts.foldl f s) t)) (ts : List τ) :
    P ts (ts.foldl f s) := by
  -- In the reversed list the last step comes first, where the induction needs it.
  suffices h : ∀ us : List τ, P us.reverse (us.reverse.foldl f s) by
    simpa only [List.reverse_reverse] using h ts.reverse
  intro us
  induction us with
  | nil => exact start
  | cons t us ih =>
    rw [List.reverse_cons, List.foldl_append]
    exact step _ t ih

namespace Stage

/-- An idle sandbox. -/
def ofConfig (c : Config) : Stage := { sandbox := .ofConfig c }

/-- Answers without a change. -/
def keep (w : Stage) (a : Answer) : Stage × Answer × List EngineCall := (w, a, [])

/-- A move that only the owner can make. -/
def owner (w : Stage) (turn : Stage × Answer × List EngineCall) :
    Stage × Answer × List EngineCall :=
  if w.sandbox.present then turn else w.keep .dropped

/-- Makes a move: what comes of it, its answer and the calls that the engine gets. -/
def act (w : Stage) : Move → Stage × Answer × List EngineCall
  | .spawn options =>
    w.owner (match w.sandbox.beginSpawn options with
      | .error e => w.keep (.result (.error e))
      | .ok (sandbox, request) =>
        ({ sandbox, hasSink := true, inCall := true }, .pending, [.spawn request]))
  | .spawnReturns outcome =>
    if !w.inCall then w.keep .noRequest
    else
      let (sandbox, result) := w.sandbox.finishSpawn outcome
      ({ w with sandbox, inCall := false }, .result (result.map fun _ => .nothing), [])
  | .report event =>
    if !w.hasSink then w.keep .noSink
    else
      let (sandbox, result) := w.sandbox.deliver event
      ({ w with sandbox }, .result (result.map .flag), [])
  | .seekRoom fd =>
    match w.sandbox.poll (.sinkWritable fd) with
    | (sandbox, .inl value) => ({ w with sandbox }, .ready value, [])
    | (sandbox, .inr _) => ({ w with sandbox }, .pending, [])
  | .read stream max =>
    let (sandbox, outcome) := w.sandbox.readMax stream max
    ({ w with sandbox }, .read outcome, [])
  | .awaitEnd =>
    w.owner (match (w.sandbox.poll .termination).2 with
      | .inl value => w.keep (.ready value)
      | .inr _ => w.keep .pending)
  | .kill =>
    w.owner (match w.sandbox.killForwarded with
      | .error e => w.keep (.result (.error e))
      | .ok forwarded => (w, .result (.ok .nothing), if forwarded then [.kill] else []))
  | .write bytes accepted =>
    match w.sandbox.checkWrite with
    | .error e => w.keep (.result (.error e))
    | .ok () =>
      (w, .result (if accepted then .ok (.count bytes.length) else .error .closedChannel),
        [.writeStdin bytes])
  | .endStdin =>
    match w.sandbox.endStdin with
    | .error e => w.keep (.result (.error e))
    | .ok (sandbox, asked) =>
      ({ w with sandbox }, .result (.ok .nothing), if asked then [.closeStdin] else [])
  | .setDebug value =>
    w.owner ({ w with sandbox := { w.sandbox with debugOnCrash := value } }, .nothing, [])
  | .setMapping mapping => w.owner ({ w with sandbox := { w.sandbox with mapping } }, .nothing, [])
  | .subscribe topic =>
    w.owner ({ w with sandbox := { w.sandbox with hub := (w.sandbox.hub.subscribe topic).1 } },
      .nothing, [])
  | .unsubscribe topic =>
    ({ w with sandbox := { w.sandbox with hub := w.sandbox.hub.leave topic } }, .nothing, [])
  | .drop =>
    if w.inCall then w.keep .pending
    else ({ w with sandbox := w.sandbox.drop }, .flag w.sandbox.present, [])

/-- The stage after a move. -/
def next (w : Stage) (m : Move) : Stage := (w.act m).1

def answer (w : Stage) (m : Move) : Answer := (w.act m).2.1

theorem owner_fst (w : Stage) (turn : Stage × Answer × List EngineCall) :
    (w.owner turn).1 = if w.sandbox.present then turn.1 else w := by
  rw [owner]
  split <;> rfl

theorem next_seekRoom (w : Stage) (fd : Int) : w.next (.seekRoom fd) =
    { w with sandbox := (w.sandbox.poll (.sinkWritable fd)).1 } := by
  simp only [next, act]
  split <;> next hp => rw [hp]

/-- The stage after some moves. -/
def run (w : Stage) (ms : List Move) : Stage := ms.foldl next w

/-- Gathers what each move leaves behind at its stage, in the order of the moves. -/
def gather (f : Stage → Move → List α) (w : Stage) : List Move → List α
  | [] => []
  | m :: ms => f w m ++ (w.next m).gather f ms

theorem run_cons (w : Stage) (m : Move) (ms : List Move) :
    w.run (m :: ms) = (w.next m).run ms := rfl

theorem run_append (w : Stage) (ms ns : List Move) : w.run (ms ++ ns) = (w.run ms).run ns :=
  List.foldl_append

theorem run_concat (w : Stage) (ms : List Move) (m : Move) :
    w.run (ms ++ [m]) = (w.run ms).next m := run_append w ms [m]

theorem gather_append (f : Stage → Move → List α) (w : Stage) (ms ns : List Move) :
    w.gather f (ms ++ ns) = w.gather f ms ++ (w.run ms).gather f ns := by
  induction ms generalizing w with
  | nil => rfl
  | cons m ms ih => rw [List.cons_append, gather, gather, ih, List.append_assoc, run_cons]

theorem gather_concat (f : Stage → Move → List α) (w : Stage) (ms : List Move) (m : Move) :
    w.gather f (ms ++ [m]) = w.gather f ms ++ f (w.run ms) m := by
  rw [gather_append, gather, gather, List.append_nil]

/-- What holds at the start and is kept by each move holds throughout. -/
theorem run_induction {P : List Move → Stage → Prop} (w : Stage) (start : P [] w)
    (step : ∀ ms m, P ms (w.run ms) → P (ms ++ [m]) ((w.run ms).next m)) (ms : List Move) :
    P ms (w.run ms) := foldl_induction next w start step ms

end Stage

end Confine
