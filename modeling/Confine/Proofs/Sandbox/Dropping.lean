import Confine.Proofs.Sandbox.Foyer
import Confine.Proofs.Sandbox.Stdin

/-!
What is left in the hands of others when the owner drops a sandbox. A writer is closed from then on.
A reader is not touched: it stays as open as it was, and with the engine gone nobody can close it.
-/

namespace Confine

namespace Stage

/-- The sandbox was dropped. -/
structure Gone (w : Stage) : Prop where
  absent : w.sandbox.present = false
  returned : w.inCall = false

section Gone

variable {w : Stage} (h : w.Gone)

include h

theorem Gone.not_present : w.sandbox.present ≠ true := by
  rw [h.absent]
  exact Bool.noConfusion

theorem Gone.not_inCall : w.inCall ≠ true := by
  rw [h.returned]
  exact Bool.noConfusion

theorem Gone.stdinClosed : w.sandbox.stdinClosed = true :=
  Sandbox.stdinClosed_iff.mpr (.inr (.inl h.absent))

/-- A sandbox that is gone stays in its last state. -/
theorem Gone.next (m : Move) :
    (w.next m).Gone ∧ (w.next m).sandbox.state = w.sandbox.state := by
  have ht := w.turn m
  generalize w.next m = w' at ht
  cases ht with
  | quiet m s alike => exact ⟨⟨alike.present.trans h.absent, h.returned⟩, alike.state⟩
  | begun options present => exact absurd present h.not_present
  | postponed e sink present => exact absurd present h.not_present
  | refused fd bytes sink present => exact absurd present h.not_present
  | applied e sink present => exact absurd present h.not_present
  | started call => exact absurd call h.not_inCall
  | failed e call => exact absurd call h.not_inCall
  | took stream max =>
    obtain ⟨hstate, hpresent, -⟩ := w.sandbox.readMax_other stream max
    exact ⟨⟨hpresent.trans h.absent, h.returned⟩, hstate⟩
  | dropped => exact ⟨⟨rfl, h.returned⟩, rfl⟩

theorem Gone.applies (m : Move) : (w.applies m).2 = [] := by
  cases m with
  | report e =>
    simp only [Stage.applies, h.absent, Bool.and_false, Bool.false_and, Bool.false_eq_true,
      ↓reduceIte]
  | spawnReturns outcome =>
    cases outcome with
    | ok => simp only [Stage.applies, h.returned, Bool.false_eq_true, ↓reduceIte]
    | error => rfl
  | _ => rfl

/-- Nothing comes into a reader whose sandbox is gone. -/
theorem Gone.content (m : Move) (stream : Stream) :
    w.taken stream m ++ ((w.next m).sandbox.reader stream).content =
      (w.sandbox.reader stream).content := by
  have hbooks := ((w.turn m).dealings stream).turnover.content
  rw [offers_of_applies_nil (h.applies m)] at hbooks
  exact hbooks.trans (List.append_nil _)

end Gone

theorem gone_drop {w : Stage} (hw : w.inCall = false) :
    (w.next .drop).Gone ∧ (w.next .drop).sandbox.state = w.sandbox.state := by
  have hnext : w.next .drop = { w with sandbox := w.sandbox.drop } := by
    simp only [next, act, hw, Bool.false_eq_true, ↓reduceIte]
  rw [hnext]
  exact ⟨⟨rfl, hw⟩, rfl⟩

end Stage

namespace Foyer

def tryRead (max : Option Nat) : Lobby.Visit := ⟨.read max, rfl⟩

def poll (place : Nat) : Lobby.Visit := ⟨.poll place, rfl⟩

/-- How a closed reader is to behave: it gives out what it holds, and every wait on it comes to its
end. -/
structure AsClosed (f : Foyer) (stream : Stream) : Prop where
  closed : (f.lobby stream).reader.closed = true
  read : (f.lobby stream).reader.content = [] → ∀ max,
    f.reply stream (tryRead max) = .read .closed
  chunk : (f.lobby stream).reader.content = [] → ∀ place asleep,
    (f.lobby stream).waiter? place = some (.chunk asleep) →
      f.reply stream (poll place) = .chunk none
  all : ∀ place taken asleep, (f.lobby stream).waiter? place = some (.all taken asleep) →
    f.reply stream (poll place) = .all (taken ++ (f.lobby stream).reader.content)
  room : ∀ place asleep, (f.lobby stream).waiter? place = some (.room asleep) →
    f.reply stream (poll place) = .room

/-- How an open reader behaves: it only says that it is empty, and those who wait go on waiting. -/
structure AsOpen (f : Foyer) (stream : Stream) : Prop where
  opened : (f.lobby stream).reader.closed = false
  read : (f.lobby stream).reader.content = [] → ∀ max,
    f.reply stream (tryRead max) = .read .empty
  chunk : (f.lobby stream).reader.content = [] → ∀ place asleep,
    (f.lobby stream).waiter? place = some (.chunk asleep) → f.reply stream (poll place) = .pending
  all : ∀ place taken asleep, (f.lobby stream).waiter? place = some (.all taken asleep) →
    f.reply stream (poll place) = .pending
  room : ∀ capacity, (f.lobby stream).reader.policy = .suspend capacity →
    max capacity 1 ≤ (f.lobby stream).reader.length → ∀ place asleep,
      (f.lobby stream).waiter? place = some (.room asleep) → f.reply stream (poll place) = .pending

section Sound

variable {f : Foyer} (h : f.Sound) {stream : Stream}

include h

theorem Sound.chunks_of_content (hc : (f.lobby stream).reader.content = []) :
    (f.lobby stream).reader.chunks = [] := (h.wellFormed stream).chunks_eq_nil.mpr hc

theorem Sound.reply_vacant (hc : (f.lobby stream).reader.content = []) (max : Option Nat) :
    f.reply stream (tryRead max) =
      .read (if (f.lobby stream).reader.closed then .closed else .empty) := by
  have hempty := h.chunks_of_content hc
  have hread : (f.lobby stream).reader.readMax max = _ := Reader.readMax_vacant (.inr hempty)
  simp only [reply, tryRead, Lobby.reply, Lobby.act, hread, Reader.vacant, hempty, true_and]

/-- As long as there are bytes, a read gets some of them. -/
theorem Sound.reply_data (hc : (f.lobby stream).reader.content ≠ []) {max : Option Nat}
    (hm : max ≠ some 0) : ∃ chunk, chunk ≠ [] ∧ chunk <+: (f.lobby stream).reader.content ∧
      f.reply stream (tryRead max) = .read (.data chunk) := by
  have hw := h.wellFormed stream
  rcases (f.lobby stream).reader.readMax_cases max with
    ⟨hv | hv, -⟩ | ⟨front, left, rest, -, hchunks, hfront, -, hread⟩
  · exact absurd hv hm
  · exact absurd (hw.chunks_eq_nil.mp hv) hc
  · refine ⟨front, fun hnil => ?_, ?_, ?_⟩
    · have hchunk := hw.nonempty (front ++ left) (hchunks ▸ List.mem_cons_self)
      exact hchunk (List.append_eq_nil_iff.mpr ⟨hnil, hfront hnil⟩)
    · rw [Reader.content, hchunks, List.flatten_cons, List.append_assoc]
      exact List.prefix_append _ _
    · simp only [reply, tryRead, Lobby.reply, Lobby.act, hread]

theorem Sound.asClosed (hclosed : (f.lobby stream).reader.closed = true) :
    f.AsClosed stream where
  closed := hclosed
  read hc max := by rw [h.reply_vacant hc, hclosed, if_pos rfl]
  chunk hc place asleep hw :=
    ((h.attended stream).reply_chunk hw).2.1.mpr ⟨hclosed, h.chunks_of_content hc⟩
  all place taken asleep hw := (((h.attended stream).reply_all hw).1 _).mpr ⟨hclosed, rfl⟩
  room place asleep hw := by
    apply ((h.attended stream).reply_room hw).1.mpr
    cases hfull : (f.lobby stream).reader.writable with
    | true => rfl
    | false =>
      obtain ⟨capacity, -, hopen, -⟩ := Reader.full_of_not_writable hfull
      exact absurd (hopen.symm.trans hclosed) Bool.noConfusion

theorem Sound.asOpen (hopen : (f.lobby stream).reader.closed = false) : f.AsOpen stream where
  opened := hopen
  read hc max := by rw [h.reply_vacant hc, hopen, if_neg Bool.noConfusion]
  chunk hc place asleep hw :=
    ((h.attended stream).reply_chunk hw).2.2.mpr ⟨hopen, h.chunks_of_content hc⟩
  all place taken asleep hw := ((h.attended stream).reply_all hw).2.mpr hopen
  room capacity hp hlen place asleep hw := by
    apply ((h.attended stream).reply_room hw).2.mpr
    exact Reader.not_writable_of_full hp hopen hlen

end Sound

/-- What others do after the drop only takes bytes out of the readers. -/
theorem Sound.after_drop {f : Foyer} (h : f.Sound) (hgone : f.stage.Gone) (ds : List Deed) :
    (f.run ds).stage.Gone ∧ (f.run ds).stage.sandbox.state = f.stage.sandbox.state ∧
      ∀ stream, f.takings stream ds ++ ((f.run ds).lobby stream).reader.content =
        (f.lobby stream).reader.content := by
  induction ds generalizing f with
  | nil => exact ⟨hgone, rfl, fun _ => rfl⟩
  | cons d ds ih =>
    have hfirst : (f.next d).stage.Gone ∧
        (f.next d).stage.sandbox.state = f.stage.sandbox.state ∧
        ∀ stream, f.taken stream d ++ ((f.next d).lobby stream).reader.content =
          (f.lobby stream).reader.content := by
      cases d with
      | move m =>
        obtain ⟨hnext, hstate⟩ := hgone.next m
        exact ⟨hnext, hstate, hgone.content m⟩
      | visit source v =>
        refine ⟨⟨?_, hgone.returned⟩, ?_, fun stream => h.visit_content stream source v⟩
        · cases source <;> exact hgone.absent
        · cases source <;> rfl
    obtain ⟨hnext, hstate, hcontent⟩ := hfirst
    obtain ⟨hrest, hlast, hbytes⟩ := ih (h.next d) hnext
    refine ⟨hrest, hlast.trans hstate, fun stream => ?_⟩
    rw [takings, List.append_assoc]
    exact (congrArg (f.taken stream d ++ ·) (hbytes stream)).trans (hcontent stream)

/-- Once the owner has dropped the sandbox, writers are closed, and readers give out what they
hold. But a reader and the futures on it behave as closed only if the child had ended before;
otherwise they behave as open, whatever is done to them. -/
theorem closed_after_drop_iff (c : Config) (before after : List Deed)
    (returned : ((ofConfig c).run before).stage.inCall = false) :
    let f := (ofConfig c).run before
    let dropped := f.next (.move .drop)
    let f' := dropped.run after
    let ended := ∃ t, f.stage.sandbox.state = .terminated t
    (f'.stage.sandbox.stdinClosed = true ∧ ∀ bytes accepted,
      f'.stage.answer (.write bytes accepted) = .result (.error .closedChannel)) ∧
    ∀ stream,
      let r := (f'.lobby stream).reader
      dropped.takings stream after ++ r.content = (f.lobby stream).reader.content ∧
      (r.content ≠ [] → ∀ max, max ≠ some 0 → ∃ chunk, chunk ≠ [] ∧ chunk <+: r.content ∧
        f'.reply stream (tryRead max) = .read (.data chunk)) ∧
      (f'.AsClosed stream ↔ ended) ∧ (f'.AsOpen stream ↔ ¬ended) := by
  intro f dropped f' ended
  have hf : f.Sound := (sound_ofConfig c).run before
  have hdropped : dropped.Sound := hf.next (.move .drop)
  have hf' : f'.Sound := hdropped.run after
  obtain ⟨hgone, hdrop⟩ := Stage.gone_drop returned
  obtain ⟨hgone', hlast, hcontent⟩ := hdropped.after_drop hgone after
  have hstate : f'.stage.sandbox.state = f.stage.sandbox.state := hlast.trans hdrop
  have hclosed (stream : Stream) : (f'.lobby stream).reader.closed = true ↔ ended := by
    have hlinked : (f'.lobby stream).reader.closed = f'.stage.sandbox.state.isTerminated :=
      hf'.stage.linked.closed stream
    rw [hlinked, hstate]
    exact Lifecycle.isTerminated_iff
  refine ⟨⟨hgone'.stdinClosed, fun bytes accepted => ?write⟩, fun stream => ⟨?taken,
    fun hc max hm => hf'.reply_data hc hm, ⟨fun h => ?ended, fun h => ?asClosed⟩,
    ⟨fun h hended => ?opened, fun h => ?asOpen⟩⟩⟩
  case write => exact (Stage.write_of_closed hgone'.stdinClosed bytes accepted).1
  case taken =>
    have hsame : (dropped.lobby stream).reader.content = (f.lobby stream).reader.content := by
      have hbooks := ((f.stage.turn .drop).dealings stream).turnover.content
      exact hbooks.trans (List.append_nil _)
    exact (hcontent stream).trans hsame
  case ended => exact (hclosed stream).mp h.closed
  case asClosed => exact hf'.asClosed ((hclosed stream).mpr h)
  case opened =>
    have hopen := (hclosed stream).mpr hended
    exact Bool.noConfusion (h.opened.symm.trans hopen)
  case asOpen =>
    apply hf'.asOpen
    exact Bool.eq_false_iff.mpr fun hc => h ((hclosed stream).mp hc)

/-- The child had ended before the drop, and a wait for all its errors comes to an end. -/
theorem closed_after_drop_of_ended :
    let f := (ofConfig {}).run [.move (.spawn { program := "cat" }),
      .move (.spawnReturns (.ok ())), .visit .stderr ⟨.awaitAll, rfl⟩,
      .visit .stderr (poll 0), .move (.report (.data 2 [33])), .move (.report (.exit 0))]
    let f' := f.next (.move .drop)
    f.stage.inCall = false ∧ f.stage.sandbox.state = .terminated (.exited 0) ∧
      (∀ stream, f'.AsClosed stream) ∧ f'.reply .stderr (poll 0) = .all [33] := by
  intro f f'
  have hreturned : f.stage.inCall = false := by decide +kernel
  have hstate : f.stage.sandbox.state = .terminated (.exited 0) := by decide +kernel
  have hclosed (stream : Stream) : f'.AsClosed stream := by
    obtain ⟨-, hreaders⟩ := closed_after_drop_iff {} _ [] hreturned
    obtain ⟨-, -, hiff, -⟩ := hreaders stream
    exact hiff.mpr ⟨_, hstate⟩
  exact ⟨hreturned, hstate, hclosed, rfl⟩

/-- The child still runs when the sandbox is dropped. Both readers stay open, are drained without
ever telling so, and a wait for all errors goes on. -/
theorem open_after_drop :
    let f := (ofConfig {}).run [.move (.spawn { program := "cat" }),
      .move (.spawnReturns (.ok ())), .move (.report (.data 1 [97, 98])),
      .visit .stderr ⟨.awaitAll, rfl⟩, .visit .stderr (poll 0)]
    let f' := (f.next (.move .drop)).run [.visit .stdout (tryRead none)]
    f.stage.inCall = false ∧ f.stage.sandbox.state = .running ∧
      (∀ stream, (f'.lobby stream).reader.closed = false ∧
        (f'.lobby stream).reader.content = [] ∧ f'.reply stream (tryRead none) = .read .empty) ∧
      f'.reply .stderr (poll 0) = .pending ∧ ¬∃ stream, f'.AsClosed stream := by
  intro f f'
  have hopen (stream : Stream) : (f'.lobby stream).reader.closed = false := by
    cases stream <;> decide +kernel
  refine ⟨by decide +kernel, by decide +kernel, fun stream => ⟨hopen stream, ?_⟩, rfl,
    fun ⟨stream, hclosed⟩ => ?_⟩
  · cases stream <;> exact ⟨rfl, rfl⟩
  · exact Bool.noConfusion (hclosed.closed.symm.trans (hopen stream))

end Foyer

end Confine
