import MarketAlerts.Engine.Tick
import MarketAlerts.Proofs.Delivery.Books
import MarketAlerts.Proofs.Notification.Serving

/-!
How batches reach the channels of an engine. Whatever runs on its loop, and in whatever order, each
batch is opened once, in the order in which batches were handed over, and each channel that does not
fail is served once for each of them.
-/
namespace MarketAlerts

open Delivery

/-- The accounts of what has been told and is still to be told: batches in the order of the calls,
single events beside them, and one answer of each channel to each of these. -/
structure Handed (notifiers : List Notifier) (calls direct : List Bundle) (told : List Dispatch) :
    Prop where
  ordered : calls.Sublist (openings told)
  complete : (openings told).Perm (calls ++ direct)
  answered : ∀ position,
    (receipts position told).Perm
      ((openings told).filterMap (Notifier.answerAt? notifiers position))

namespace Handed

variable {notifiers : List Notifier} {calls direct : List Bundle} {told later : List Dispatch}

theorem of_receipts (h : Handed notifiers calls direct told)
    (receipts : ∀ position, (receipts position later).Perm (receipts position told))
    (same : openings later = openings told) : Handed notifiers calls direct later where
  ordered := same ▸ h.ordered
  complete := same ▸ h.complete
  answered := fun position => same ▸ (receipts position).trans (h.answered position)

/-- Outputs may change places, as long as no batch is opened before another that came first. -/
theorem of_perm (h : Handed notifiers calls direct told) (perm : later.Perm told)
    (same : openings later = openings told) : Handed notifiers calls direct later :=
  h.of_receipts (fun _ => perm.filterMap _) same

theorem answered_append (h : Handed notifiers calls direct told) {bundle : Bundle}
    (perm : later.Perm (told ++ said (Notifier.deliver notifiers bundle.1 bundle.2)))
    (next : openings later = openings told ++ [bundle]) (position : Nat) :
    (receipts position later).Perm
      ((openings later).filterMap (Notifier.answerAt? notifiers position)) := by
  have receipts : (receipts position later).Perm
      (receipts position told ++ (Notifier.answerAt? notifiers position bundle).toList) := by
    rw [← Notifier.receipts_deliver, ← receipts_append]
    exact perm.filterMap _
  have answers : (openings later).filterMap (Notifier.answerAt? notifiers position) =
      (openings told).filterMap (Notifier.answerAt? notifiers position) ++
        (Notifier.answerAt? notifiers position bundle).toList := by
    rw [next, List.filterMap_append]
    cases answer : Notifier.answerAt? notifiers position bundle <;> simp [answer]
  rw [answers]
  exact receipts.trans ((h.answered position).append_right _)

/-- One more batch. -/
theorem call (h : Handed notifiers calls direct told) {bundle : Bundle}
    (perm : later.Perm (told ++ said (Notifier.deliver notifiers bundle.1 bundle.2)))
    (next : openings later = openings told ++ [bundle]) :
    Handed notifiers (calls ++ [bundle]) direct later where
  ordered := by
    rw [next]
    exact h.ordered.append (List.Sublist.refl _)
  complete := by
    rw [next, List.append_assoc]
    refine (h.complete.append_right _).trans ?_
    rw [List.append_assoc]
    exact List.perm_append_comm.append_left _
  answered := h.answered_append perm next

/-- One more event by itself. -/
theorem single (h : Handed notifiers calls direct told) {bundle : Bundle}
    (perm : later.Perm (told ++ said (Notifier.deliver notifiers bundle.1 bundle.2)))
    (next : openings later = openings told ++ [bundle]) :
    Handed notifiers calls (direct ++ [bundle]) later where
  ordered := by
    rw [next]
    exact h.ordered.trans (List.sublist_append_left _ _)
  complete := by
    rw [next, ← List.append_assoc]
    exact h.complete.append_right _
  answered := h.answered_append perm next

end Handed

/-- The callback that sends batches to the channels. -/
def Notifier.delivery (notifiers : List Notifier) : Callback String Event Float Dispatch :=
  .plain fun ticker events => ⟨[], .awaiting (Notifier.deliver notifiers ticker events) false⟩

/-- Jobs of an engine: its timers send batches to the channels, and a delivery opens its batch
before it pauses. No caller waits. -/
def Job.Delivers (notifiers : List Notifier) : Job String Event Float Dispatch → Prop
  | .expire _ callback => callback = Notifier.delivery notifiers
  | .wake task => openings (said task.actions) = [] ∧ task.origin ≠ .caller
  | .resume task =>
    (∀ seconds rest, (Loop.untilPause task.actions).2 = some (seconds, rest) →
      openings (said rest) = []) ∧ task.origin ≠ .caller

/-- A run of the loop on which single events were sent besides the batches; a job may be in hand,
with outputs that it has not given yet. -/
structure Underway (notifiers : List Notifier) (direct : List Bundle) (inHand : List Dispatch)
    (loop : DeliveryLoop) : Prop where
  rule : loop.Follows (Job.Delivers notifiers)
  ticketed : loop.Ticketed
  waiting : ∀ handle ∈ loop.scheduled, openings handle.job.owed = []
  handed : Handed notifiers loop.calls direct (loop.told inHand)

namespace Underway

variable {notifiers : List Notifier} {direct : List Bundle} {inHand : List Dispatch}
  {loop : DeliveryLoop}

/-- A note that calls nothing. -/
theorem note (h : Underway notifiers direct inHand loop) {what : Note String Event Float Dispatch}
    (output : ∀ output, what ≠ .emitted output) (call : ∀ key events, what ≠ .called key events) :
    Underway notifiers direct inHand (loop.note what) where
  rule := h.rule
  ticketed := h.ticketed.of_same rfl rfl rfl
  waiting := h.waiting
  handed := by
    have calls : (loop.note what).calls = loop.calls := by
      cases what with
      | called key events => exact absurd rfl (call key events)
      | _ => simp [Loop.calls, Loop.note]
    rw [calls, Loop.told_note inHand loop output]
    exact h.handed

/-- Outputs in hand are emitted. -/
theorem emitAll {outputs left : List Dispatch}
    (h : Underway notifiers direct (outputs ++ left) loop) :
    Underway notifiers direct left (loop.emitAll outputs) where
  rule := h.rule
  ticketed := h.ticketed.of_same rfl rfl rfl
  waiting := h.waiting
  handed := by
    rw [Loop.told_emitAll, show (loop.emitAll outputs).calls = loop.calls from
      congrArg Books.calls (Loop.books_emitAll loop outputs)]
    exact h.handed

/-- Lines of the log are no part of the accounts. -/
theorem log (h : Underway notifiers direct inHand loop) (lines : List LogLine) :
    Underway notifiers direct inHand (loop.emitAll (lines.map .logged)) where
  rule := h.rule
  ticketed := h.ticketed.of_same rfl rfl rfl
  waiting := h.waiting
  handed := by
    have calls : (loop.emitAll (lines.map .logged)).calls = loop.calls :=
      congrArg Books.calls (Loop.books_emitAll loop _)
    rw [Loop.told_emitAll, calls]
    refine h.handed.of_receipts (fun position => ?_) ?_
    · simp [Loop.told]
    · simp [Loop.told]

/-- What is left of a delivery in hand waits for a deadline. -/
theorem arm {job : Job String Event Float Dispatch} (h : Underway notifiers direct job.owed loop)
    (own : Job.Delivers notifiers job) (opened : openings job.owed = []) (deadline : Float) :
    Underway notifiers direct [] (loop.arm deadline job) where
  rule := h.rule.arm own
  ticketed := h.ticketed.arm deadline job
  waiting := by
    intro handle member
    rcases List.mem_append.1 member with old | new
    · exact h.waiting handle old
    · rw [List.mem_singleton.1 new]
      exact opened
  handed := by
    refine h.handed.of_perm ?_ ?_
    · rw [Loop.told_arm]
      simpa [Loop.told] using List.perm_append_comm.append_left loop.emitted
    · rw [Loop.told_arm]
      simp [Loop.told, opened]

/-- What is left of a delivery in hand goes on in the next round. -/
theorem soon {job : Job String Event Float Dispatch} (h : Underway notifiers direct job.owed loop)
    (own : Job.Delivers notifiers job) (opened : openings job.owed = []) :
    Underway notifiers direct [] (loop.soon job) where
  rule := h.rule.soon own
  ticketed := h.ticketed.soon job
  waiting := h.waiting
  handed := by
    refine h.handed.of_perm ?_ ?_
    · refine (Loop.told_soon_perm loop job).trans ?_
      simpa [Loop.told] using List.perm_append_comm.append_left loop.emitted
    · have told := Loop.filterMap_told_soon job h.waiting
      unfold openings at opened ⊢
      rw [told, opened]
      simp [Loop.told, opened]

/-- A delivery that has not begun. -/
def fresh (notifiers : List Notifier) (origin : Origin) (bundle : Bundle) :
    Job String Event Float Dispatch :=
  .resume ⟨origin, bundle.1, Notifier.deliver notifiers bundle.1 bundle.2, false⟩

theorem delivers_fresh {origin : Origin} (served : origin ≠ .caller) (bundle : Bundle) :
    Job.Delivers notifiers (fresh notifiers origin bundle) :=
  ⟨fun _ _ => Notifier.openings_of_untilPause_deliver notifiers bundle, served⟩

theorem openings_fresh (h : Underway notifiers direct [] loop) (origin : Origin) (bundle : Bundle) :
    openings ((loop.soon (fresh notifiers origin bundle)).told []) =
      openings (loop.told []) ++ [bundle] := by
  have told := Loop.filterMap_told_soon (fresh notifiers origin bundle) h.waiting
  have own := Notifier.openings_deliver notifiers bundle
  exact told.trans (congrArg _ own)

/-- A batch is handed over. -/
theorem invoke (h : Underway notifiers direct [] loop) (ticker : String) (events : List Event) :
    Underway notifiers direct [] (loop.invoke (Notifier.delivery notifiers) ticker events) := by
  -- The call is noted first, but the note and the new delivery touch different accounts.
  have silent :
      (loop.note (.called ticker events)).emitAll [] = loop.note (.called ticker events) := by
    simp [Loop.emitAll]
  have spawned : loop.invoke (Notifier.delivery notifiers) ticker events =
      (loop.soon (fresh notifiers .batch (ticker, events))).note (.called ticker events) := by
    change ((loop.note (.called ticker events)).emitAll []).soon _ = _
    rw [silent]
    rfl
  have calls : (loop.invoke (Notifier.delivery notifiers) ticker events).calls =
      loop.calls ++ [(ticker, events)] :=
    congrArg Books.calls (Loop.books_invoke loop _ ticker events)
  have own : Job.Delivers notifiers (fresh notifiers .batch (ticker, events)) :=
    delivers_fresh (by decide) _
  have ticketed := h.ticketed.soon (fresh notifiers .batch (ticker, events))
  rw [spawned] at calls ⊢
  refine ⟨h.rule.soon own, ?_, h.waiting, ?_⟩
  · exact ticketed.of_same rfl rfl rfl
  · rw [calls, Loop.told_note _ _ (by simp)]
    exact h.handed.call (Loop.told_soon_perm loop _) (h.openings_fresh .batch _)

/-- An event is sent by itself. -/
theorem spawn (h : Underway notifiers direct [] loop) (ticker : String) (event : Event) :
    Underway notifiers (direct ++ [(ticker, [event])]) []
      (loop.spawn .direct ticker (Notifier.deliver notifiers ticker [event]) false) where
  rule := h.rule.soon (delivers_fresh (by decide) (ticker, [event]))
  ticketed := h.ticketed.soon _
  waiting := h.waiting
  handed := h.handed.single (Loop.told_soon_perm loop (fresh notifiers .direct (ticker, [event])))
    (h.openings_fresh .direct (ticker, [event]))

/-- Queues may change and timers may be forgotten without any delivery being touched. -/
theorem setBatcher (h : Underway notifiers direct inHand loop)
    {batcher : Batcher String Event Float}
    (timers : ∀ entry ∈ batcher.timers, entry ∈ loop.batcher.timers) :
    Underway notifiers direct inHand { loop with batcher } where
  rule := h.rule
  ticketed := h.ticketed.of_subset rfl (fun _ member => member) timers
  waiting := h.waiting
  handed := h.handed

theorem cancel (h : Underway notifiers direct inHand loop) {entry : String × Timer Float}
    (timer : entry ∈ loop.batcher.timers) :
    Underway notifiers direct inHand (loop.cancel entry.2.ticket) where
  rule := h.rule.cancel _
  ticketed := h.ticketed.cancel _
  waiting := fun handle member => h.waiting handle (List.mem_filter.1 member).1
  handed := by
    rw [Loop.told_cancel h.ticketed timer]
    exact h.handed

theorem dropTimer (h : Underway notifiers direct inHand loop) (key : String) :
    Underway notifiers direct inHand (loop.dropTimer key) := by
  unfold Loop.dropTimer
  split
  · next timer found =>
    obtain ⟨before, after, entries, _⟩ := List.lookup_eq_some_iff.1 found
    have member : (key, timer) ∈ loop.batcher.timers := by simp [entries]
    exact (h.cancel member).setBatcher fun entry kept => (List.mem_filter.1 kept).1
  · exact h

theorem add (h : Underway notifiers direct [] loop) (key : String) (event : Event)
    (window : Float) :
    Underway notifiers direct [] (loop.add key event window (Notifier.delivery notifiers)) := by
  have joined : Underway notifiers direct [] ((loop.dropTimer key).note (.joined key event)) :=
    (h.dropTimer key).note (by simp) (by simp)
  generalize loopEq : (loop.dropTimer key).note (.joined key event) = noted at joined
  unfold Loop.add
  dsimp only
  rw [loopEq]
  split
  · refine Underway.note ?_ (by simp) (by simp)
    refine ⟨joined.rule.arm rfl, joined.ticketed.armTimer key _ _ _, ?_, ?_⟩
    · intro handle member
      rcases List.mem_append.1 member with old | new
      · exact joined.waiting handle old
      · rw [List.mem_singleton.1 new]
        rfl
    · have told := Loop.told_arm noted (Timescale.after noted.clock (Timescale.ofMinutes window))
        (.expire key (Notifier.delivery notifiers))
      rw [show (Job.expire key (Notifier.delivery notifiers)).owed = ([] : List Dispatch) from rfl,
        List.append_nil] at told
      exact told ▸ joined.handed
  · exact joined.setBatcher fun entry member => member

/-- The queue of a key that has run out is handed over. -/
theorem expire (h : Underway notifiers direct [] loop) (key : String) :
    Underway notifiers direct [] (loop.expire key (Notifier.delivery notifiers)) := by
  have taken : Underway notifiers direct [] { loop with batcher :=
      ⟨loop.batcher.queues.filter (·.1 ≠ key), loop.batcher.timers.filter (·.1 ≠ key)⟩ } :=
    h.setBatcher fun entry kept => (List.mem_filter.1 kept).1
  unfold Loop.expire
  dsimp only
  split
  · exact taken
  · exact taken.invoke key _

theorem flushed (notifiers : List Notifier) (direct : List Bundle) :
    Loop.Flushed (Notifier.delivery notifiers) (Underway notifiers direct [])
      fun _ => Underway notifiers direct [] where
  cancel := fun timer h => h.cancel timer
  clear := fun h => h.setBatcher fun _ absent => absurd absent List.not_mem_nil
  skip := fun h => h
  invoke := fun _ h => h.invoke _ _
  note := fun _ h => h.note (by simp) (by simp)

/-- A delivery in hand runs up to its next pause. -/
theorem resume {task : Task String Float Dispatch}
    (h : Underway notifiers direct (said task.actions) loop)
    (own : Job.Delivers notifiers (.resume task)) :
    Underway notifiers direct [] (loop.resume task) := by
  have parts := said_untilPause task.actions
  obtain ⟨later, served⟩ := own
  unfold Loop.resume
  dsimp only
  split
  · next seconds rest left =>
    rw [left] at parts
    rw [parts] at h
    have paused : Underway notifiers direct (said rest)
        (loop.emitAll (Loop.untilPause task.actions).1) := h.emitAll
    have opened : openings (said rest) = [] := later seconds rest left
    split
    · have own : Job.Delivers notifiers (.wake { task with actions := rest }) := ⟨opened, served⟩
      exact paused.arm own opened _
    · have own : Job.Delivers notifiers (.resume { task with actions := rest }) := by
        refine ⟨?_, served⟩
        intro again last left
        have all := said_untilPause rest
        rw [left] at all
        rw [all, openings_append] at opened
        exact (List.append_eq_nil_iff.1 opened).2
      exact paused.soon own opened
  · next left =>
    rw [left] at parts
    rw [parts] at h
    have ended : Underway notifiers direct [] (loop.emitAll (Loop.untilPause task.actions).1) :=
      h.emitAll
    split
    · exact ended.note (by simp) (by simp)
    · exact ended

/-- The next job of the round is done. -/
theorem perform {handle : Handle String Event Float Dispatch}
    {rest : List (Handle String Event Float Dispatch)} (h : Underway notifiers direct [] loop)
    (agenda : loop.agenda = handle :: rest) :
    Underway notifiers direct [] ({ loop with agenda := rest }.perform handle.job) := by
  have fewer : ∀ other ∈ ({ loop with agenda := rest } : DeliveryLoop).handles,
      other ∈ loop.handles :=
    fun _ => Loop.mem_handles_takeUp agenda
  have own := h.rule.next agenda
  have inHand : Underway notifiers direct handle.job.owed { loop with agenda := rest } :=
    ⟨fun other member => h.rule other (fewer other member),
      h.ticketed.of_subset rfl fewer fun _ member => member, h.waiting,
      Loop.told_takeUp agenda ▸ h.handed⟩
  cases job : handle.job with
  | expire key callback =>
    rw [job] at own inHand
    obtain rfl : callback = Notifier.delivery notifiers := own
    exact inHand.expire key
  | wake task =>
    rw [job] at own inHand
    have woken : Job.Delivers notifiers (.resume task) := by
      refine ⟨?_, own.2⟩
      intro seconds left paused
      -- What is said after the next pause is a part of what the whole delivery still says.
      have all := said_untilPause task.actions
      have opened := own.1
      rw [all, paused, openings_append] at opened
      exact (List.append_eq_nil_iff.1 opened).2
    have moved : Underway notifiers direct (said task.actions) { loop with agenda := rest } :=
      inHand
    exact moved.soon woken own.1
  | resume task =>
    rw [job] at own inHand
    exact inHand.resume own

theorem beginRound (h : Underway notifiers direct [] loop) (clock : Float)
    (runs : Handle String Event Float Dispatch → Bool) (done : loop.agenda = []) :
    Underway notifiers direct [] (loop.beginRound clock runs) where
  rule := fun handle member => h.rule handle ((Loop.mem_handles_beginRound done).1 member)
  ticketed := h.ticketed.of_subset rfl (fun _ => (Loop.mem_handles_beginRound done).1)
    fun _ member => member
  waiting := fun handle member => h.waiting handle (List.mem_filter.1 member).1
  handed := h.handed.of_perm (Loop.told_beginRound_perm clock runs done)
    (Loop.filterMap_told_beginRound clock runs done h.waiting)

/-- Whatever the loop runs, the accounts stay right. -/
theorem kept (notifiers : List Notifier) (direct : List Bundle) :
    Loop.Kept (Underway notifiers direct []) where
  perform := fun agenda h => h.perform agenda
  beginRound := fun clock runs done h => h.beginRound clock runs done
  setClock := fun _ h => ⟨h.rule, h.ticketed.of_same rfl rfl rfl, h.waiting, h.handed⟩

end Underway

end MarketAlerts
