import Mathlib.Data.List.Basic
import MarketAlerts.Calendar.ZoneRule
import MarketAlerts.Proofs.Delivery.Conservation
import MarketAlerts.Proofs.Desk.Run
import MarketAlerts.Proofs.Engine.Handover

/-!
From the ticks of a run to the channels: every event that fires is delivered once, whichever of the
two ways it goes. The loop's accounts hold at every moment of a run, and a shutdown closes them.
-/
namespace MarketAlerts

open Delivery

namespace Delivery

/-- A loop on which nothing has happened. -/
structure Loop.Unused {κ ε τ ω : Type} (loop : Loop κ ε τ ω) : Prop where
  handles : loop.handles = []
  batcher : loop.batcher = ⟨[], []⟩
  journal : loop.journal = []

/-- The events of batches, each with the key of its batch. -/
def entriesOf {κ ε : Type} (calls : List (κ × List ε)) : List (κ × ε) :=
  calls.flatMap fun (key, events) => events.map (key, ·)

section Entries

variable {κ ε : Type}

theorem map_entriesOf (calls : List (κ × List ε)) :
    (entriesOf calls).map (·.2) = calls.flatMap (·.2) := by
  simp [entriesOf, List.map_flatMap, Function.comp_def]

variable [DecidableEq κ]

theorem filter_entriesOf (calls : List (κ × List ε)) (key : κ) :
    (entriesOf calls).filter (·.1 = key) =
      ((calls.filter (·.1 = key)).flatMap (·.2)).map (key, ·) := by
  induction calls with
  | nil => rfl
  | cons call rest ih =>
    obtain ⟨other, events⟩ := call
    have first : entriesOf ((other, events) :: rest) = events.map (other, ·) ++ entriesOf rest :=
      rfl
    rw [first, List.filter_append, ih]
    by_cases same : other = key
    · have all : (events.map (other, ·)).filter (·.1 = key) = events.map (other, ·) := by
        apply List.filter_eq_self.2
        simp [same]
      rw [all, List.filter_cons_of_pos (by simpa using same), List.flatMap_cons, List.map_append,
        same]
    · have nothing : (events.map (other, ·)).filter (·.1 = key) = [] := by
        apply List.filter_eq_nil_iff.2
        simp [same]
      rw [nothing, List.filter_cons_of_neg (by simpa using same), List.nil_append]

/-- Lists that have the same entries under each key, in whatever order the keys come. -/
theorem perm_of_filter_eq {a b : List (κ × ε)}
    (same : ∀ key, a.filter (·.1 = key) = b.filter (·.1 = key)) : a.Perm b := by
  classical
  apply List.perm_iff_count.2
  intro entry
  have here := congrArg (List.count entry) (same entry.1)
  rwa [List.count_filter (by simp), List.count_filter (by simp)] at here

/-- The batches handed over and the queues hold what joined, each event once. -/
theorem Books.Balanced.perm {books : Books κ ε} (h : books.Balanced []) :
    (entriesOf books.calls ++ entriesOf books.queues).Perm books.arrivals := by
  apply perm_of_filter_eq
  intro key
  have pending : (books.queues.filter (·.1 = key)).flatMap (·.2) = books.pending key :=
    flatMap_filter_eq_lookup h.nodup_keys key
  have handed : (books.calls.filter (·.1 = key)).flatMap (·.2) = books.handed key := rfl
  rw [List.filter_append, filter_entriesOf, filter_entriesOf, ← List.map_append, handed, pending,
    h.handed_append_pending, Books.joined, List.map_map]
  have whole : ∀ entry ∈ books.arrivals.filter (·.1 = key), (key, entry.2) = entry := by
    intro entry member
    rw [← of_decide_eq_true (List.mem_filter.1 member).2]
  exact (List.map_congr_left whole).trans (List.map_id _)

end Entries

end Delivery

/-- The accounts of a loop on which events were sent in batches and by themselves. -/
structure Posted (notifiers : List Notifier) (batched : List (String × Event))
    (singles : List Bundle) (loop : DeliveryLoop) : Prop where
  underway : Underway notifiers singles [] loop
  balanced : loop.books.Balanced []
  arrivals : loop.arrivals = batched

namespace Posted

variable {notifiers : List Notifier} {batched : List (String × Event)} {singles : List Bundle}
  {loop : DeliveryLoop}

theorem of_unused (unused : loop.Unused) : Posted notifiers [] [] loop where
  underway := by
    have told : loop.told [] = [] := by
      simp [Loop.told, Loop.emitted, unused.journal, unused.handles]
    have scheduled : loop.scheduled = [] := by
      have all := unused.handles
      simp only [Loop.handles, List.append_eq_nil_iff] at all
      exact all.2
    have calls : loop.calls = [] := by simp [Loop.calls, unused.journal]
    refine ⟨?_, ⟨?_, ?_, ?_⟩, ?_, ?_⟩
    · simp [Loop.Follows, unused.handles]
    · simp [unused.handles]
    · simp [unused.batcher]
    · simp [unused.handles]
    · simp [scheduled]
    · rw [told, calls]
      exact ⟨List.Sublist.refl _, List.Perm.refl _, fun _ => List.Perm.refl _⟩
  balanced := by
    have books : loop.books = ⟨[], [], []⟩ := by
      simp [Loop.books, Loop.calls, Loop.arrivals, unused.journal, unused.batcher]
    rw [books]
    exact Books.Balanced.opened
  arrivals := by simp [Loop.arrivals, unused.journal]

/-- The jobs of an engine queue nothing of their own. -/
theorem isPlain (h : Posted notifiers batched singles loop) : loop.Follows Job.IsPlain := by
  intro handle member
  have own := h.underway.rule handle member
  cases job : handle.job with
  | expire key callback =>
    rw [job] at own
    obtain rfl : callback = Notifier.delivery notifiers := own
    trivial
  | wake task => trivial
  | resume task => trivial

theorem kept (notifiers : List Notifier) (batched : List (String × Event)) (singles : List Bundle) :
    Loop.Kept (Posted notifiers batched singles) where
  perform :=
    fun agenda h =>
      ⟨h.underway.perform agenda, Loop.balanced_kept.perform agenda h.balanced,
        ((Loop.arrivals_kept batched).perform agenda ⟨h.isPlain, h.arrivals⟩).2⟩
  beginRound :=
    fun clock runs done h => ⟨h.underway.beginRound clock runs done, h.balanced, h.arrivals⟩
  setClock := fun clock h =>
    ⟨(Underway.kept notifiers singles).setClock clock h.underway, h.balanced, h.arrivals⟩

theorem log (h : Posted notifiers batched singles loop) (lines : List LogLine) :
    Posted notifiers batched singles (loop.emitAll (lines.map .logged)) := by
  have same := Loop.books_emitAll loop (lines.map Dispatch.logged)
  exact ⟨h.underway.log lines, same ▸ h.balanced, (congrArg Books.arrivals same).trans h.arrivals⟩

theorem add (h : Posted notifiers batched singles loop) (ticker : String) (event : Event)
    (window : Float) :
    Posted notifiers (batched ++ [(ticker, event)]) singles
      (loop.add ticker event window (Notifier.delivery notifiers)) := by
  have entry := Loop.books_add loop ticker event window (Notifier.delivery notifiers)
  refine ⟨h.underway.add ticker event window, ?_, ?_⟩
  · rw [entry]
    exact h.balanced.add ticker event
  · rw [← h.arrivals]
    exact congrArg Books.arrivals entry

theorem spawn (h : Posted notifiers batched singles loop) (ticker : String) (event : Event) :
    Posted notifiers batched (singles ++ [(ticker, [event])])
      (loop.spawn .direct ticker (Notifier.deliver notifiers ticker [event]) false) :=
  ⟨h.underway.spawn ticker event, h.balanced, h.arrivals⟩

theorem flush (h : Posted notifiers batched singles loop) :
    Posted notifiers batched singles (loop.flush (Notifier.delivery notifiers)) where
  underway := (Underway.flushed notifiers singles).flush h.underway
  balanced := (Loop.balanced_flushed _).flush h.balanced
  arrivals := by
    have plain : (Notifier.delivery notifiers).IsPlain := trivial
    exact (Loop.arrivals_flushed plain batched).flush h.arrivals

end Posted

/-- Channels make notifications that name the events of the batch. -/
theorem Notifier.named_of_answer? {notifier : Notifier} {bundle : Bundle} {template : Template}
    (standard : notifier.compose = Template.compose)
    (answer : notifier.answer? bundle = some template) :
    template.ticker = bundle.1 ∧ template.eventIds = bundle.2.map (·.id) := by
  unfold answer? at answer
  rw [standard] at answer
  unfold Template.compose at answer
  cases last : bundle.2.getLast? with
  | none =>
    rw [last] at answer
    cases answer
  | some latest =>
    rw [last] at answer
    dsimp only at answer
    split at answer
    · cases answer
    · cases answer
      exact ⟨rfl, rfl⟩

theorem Notifier.map_filterMap_answer? {notifier : Notifier} {bundles : List Bundle}
    (standard : notifier.compose = Template.compose)
    (works : ∀ bundle ∈ bundles, (notifier.answer? bundle).isSome) :
    (bundles.filterMap notifier.answer?).map
      (fun template => (template.ticker, template.eventIds)) =
      bundles.map fun bundle => (bundle.1, bundle.2.map (·.id)) := by
  rw [List.map_filterMap, ← List.filterMap_eq_map]
  apply List.filterMap_congr
  intro bundle member
  obtain ⟨template, answer⟩ := Option.isSome_iff_exists.1 (works bundle member)
  obtain ⟨ticker, names⟩ := named_of_answer? standard answer
  rw [answer, Option.map_some, ticker, names]
  rfl

namespace Engine

/-- Jobs that run leave an empty batcher empty. -/
theorem empty_kept : Loop.Kept fun loop : DeliveryLoop => loop.batcher = ⟨[], []⟩ where
  perform := by
    intro loop handle rest agenda empty
    cases handle.job with
    | expire key callback => simp [Loop.perform, Loop.expire, empty, Batcher.queue]
    | wake task => exact empty
    | resume task =>
      rw [Loop.perform, Loop.resume]
      dsimp only
      split
      · split <;> exact empty
      · split <;> exact empty
  beginRound := fun _ _ _ empty => empty
  setClock := fun _ empty => empty

/-- A flush clears the batcher before any batch is handed over, and a delivery queues nothing. -/
theorem empty_flushed (notifiers : List Notifier) :
    Loop.Flushed (Notifier.delivery notifiers) (fun _ : DeliveryLoop => True) fun _ loop =>
      loop.batcher = ⟨[], []⟩ where
  cancel := fun _ _ => trivial
  clear := fun _ => rfl
  skip := fun empty => empty
  invoke := fun _ empty => empty
  note := fun _ empty => empty

end Engine

namespace Desk

/-- Where no delivery is under way, nothing is owed. -/
theorem told_of_idle {loop : DeliveryLoop} (idle : loop.outstanding = []) :
    loop.told [] = loop.emitted := by
  have settled : owedBy loop.handles = [] := by
    apply List.flatMap_eq_nil_iff.2
    intro handle member
    have no := List.filterMap_eq_nil_iff.1 idle handle member
    cases job : handle.job with
    | expire key callback => rfl
    | wake task => simp [job, Loop.Job.task?] at no
    | resume task => simp [job, Loop.Job.task?] at no
  rw [Loop.told, settled, List.append_nil, List.append_nil]

end Desk

section

variable [Installation]

/-- The way of an event: into the batch of its ticker, or out by itself. -/
def Alert.send (alert : Alert) (notifiers : List Notifier) (event : Event) (loop : DeliveryLoop) :
    DeliveryLoop :=
  if alert.frequency.batching then
    loop.add alert.ticker event alert.frequency.windowMinutes (Notifier.delivery notifiers)
  else loop.spawn .direct alert.ticker (Notifier.deliver notifiers alert.ticker [event]) false

theorem Alert.send_of_alike {a b : Alert} (alike : Alike a b) : a.send = b.send := by
  funext notifiers event loop
  rw [send, send, alike.frequency, alike.ticker]

theorem Posted.shutdown {engine : Engine} {batched : List (String × Event)} {singles : List Bundle}
    (h : Posted engine.notifiers batched singles engine.loop) :
    Posted engine.notifiers batched singles engine.shutdown.loop :=
  ((kept _ _ _).finish h.flush [.batch, .direct]).log [⟨.info, "Alert engine stopped"⟩]

namespace Engine

/-- Nothing has happened on the loop of an engine that was built without one. -/
theorem unused_of_build {settings : Settings} {history : Option History}
    {notifiers : Option (List Notifier)} {nameEvent : Nat → Nat → String} {engine : Engine}
    (built : build settings history none notifiers nameEvent = .ok engine) :
    engine.loop.Unused := by
  unfold build at built
  split at built
  · obtain ⟨kept, _, rest⟩ := ok_of_bind built
    cases rest
    exact ⟨rfl, rfl, rfl⟩
  · obtain ⟨new, _, rest⟩ := ok_of_bind built
    cases rest
    exact ⟨rfl, rfl, rfl⟩

theorem batcher_shutdown (engine : Engine) : engine.shutdown.loop.batcher = ⟨[], []⟩ := by
  have flushed : (engine.loop.flush engine.delivery).batcher = ⟨[], []⟩ :=
    (empty_flushed engine.notifiers).flush trivial
  exact empty_kept.finish flushed [.batch, .direct]

end Engine

/-- After a shutdown no delivery is under way. -/
theorem Posted.outstanding_shutdown {engine : Engine} {batched : List (String × Event)}
    {singles : List Bundle} (h : Posted engine.notifiers batched singles engine.loop) :
    engine.shutdown.loop.outstanding = [] := by
  apply List.eq_nil_iff_forall_not_mem.2
  intro task member
  have ended (origin : Origin) (waited : origin ∈ [Origin.batch, .direct]) :
      task.origin ≠ origin := by
    intro same
    have stopped := Loop.awaits_finish (engine.loop.flush engine.delivery) waited
    exact absurd same (by simpa using List.any_eq_false.1 stopped task member)
  obtain ⟨handle, here, job⟩ := List.mem_filterMap.1 member
  have own := h.shutdown.underway.rule handle here
  cases origin : task.origin with
  | batch => exact ended .batch (by simp) origin
  | direct => exact ended .direct (by simp) origin
  | caller =>
    -- A shutdown waits for no caller; the rule for the jobs of an engine says that there is none.
    cases kind : handle.job with
    | expire key callback =>
      rw [kind] at job
      cases job
    | wake other =>
      rw [kind] at job own
      obtain rfl := Option.some.inj job
      exact own.2 origin
    | resume other =>
      rw [kind] at job own
      obtain rfl := Option.some.inj job
      exact own.2 origin

namespace Desk

/-- Whether the alert at a position has its events delivered in batches. -/
def batches (desk : Desk) (position : Nat) : Bool :=
  desk.alerts[position]?.any (·.frequency.batching)

/-- The events that go out in batches, with their tickers, in the order in which they fired. -/
def batched (desk : Desk) (firings : List Firing) : List (String × Event) :=
  (firings.filter fun firing => desk.batches firing.position).map fun firing =>
    (firing.event.ticker, firing.event)

/-- The events that go out by themselves. -/
def singles (desk : Desk) (firings : List Firing) : List Bundle :=
  (firings.filter fun firing => !desk.batches firing.position).map fun firing =>
    (firing.event.ticker, [firing.event])

section Concat

variable {desk : Desk} {position : Nat} {alert : Alert} {event : Event}
  (found : desk.alerts[position]? = some alert) (ticker : event.ticker = alert.ticker)

include found ticker

theorem batched_concat (firings : List Firing) :
    desk.batched (firings ++ [⟨position, event⟩]) =
      desk.batched firings ++ if alert.frequency.batching then [(alert.ticker, event)] else [] := by
  have way : desk.batches position = alert.frequency.batching := by
    rw [batches, found, Option.any_some]
  rw [batched, List.filter_append, List.map_append, batched]
  cases batching : alert.frequency.batching <;> simp [way, batching, ticker]

theorem singles_concat (firings : List Firing) :
    desk.singles (firings ++ [⟨position, event⟩]) =
      desk.singles firings ++ if alert.frequency.batching then []
      else [(alert.ticker, [event])] := by
  have way : desk.batches position = alert.frequency.batching := by
    rw [batches, found, Option.any_some]
  rw [singles, List.filter_append, List.map_append, singles]
  cases batching : alert.frequency.batching <;> simp [way, batching, ticker]

end Concat

/-- A desk in the middle of a run, with something that holds of its loop after what has fired so
far. -/
structure Reached (origin : Desk) (Q : List Firing → DeliveryLoop → Prop) (firings : List Firing)
    (desk : Desk) : Prop where
  written : desk.alerts.map Alert.written = origin.alerts.map Alert.written
  notifiers : desk.engine.notifiers = origin.engine.notifiers
  posted : Q firings desk.engine.loop

/-- A property of the loop that lines of the log, jobs that run and flushes leave as it is, and that
goes along with every event that is sent on its way. -/
structure Sustained (origin : Desk) (Q : List Firing → DeliveryLoop → Prop) : Prop where
  log : ∀ {firings loop} (lines : List LogLine), Q firings loop →
    Q firings (loop.emitAll (lines.map .logged))
  send : ∀ {firings loop position alert event}, origin.alerts[position]? = some alert →
    event.ticker = alert.ticker → Q firings loop →
      Q (firings ++ [⟨position, event⟩]) (alert.send origin.engine.notifiers event loop)
  turns : ∀ firings, Loop.Kept (Q firings)
  flush : ∀ {firings loop}, Q firings loop →
    Q firings (loop.flush (Notifier.delivery origin.engine.notifiers))

namespace Reached

variable {origin desk : Desk} {Q : List Firing → DeliveryLoop → Prop} {firings : List Firing}

theorem append_nil (h : Reached origin Q firings desk) : Reached origin Q (firings ++ []) desk := by
  rwa [List.append_nil]

theorem quiet (sustained : Sustained origin Q) (h : Reached origin Q firings desk) {after : Desk}
    (quiet : Quiet desk after) : Reached origin Q firings after where
  written := quiet.written.trans h.written
  notifiers := quiet.notifiers.trans h.notifiers
  posted := by
    obtain ⟨lines, loop⟩ := quiet.loop
    rw [loop]
    exact sustained.log lines h.posted

theorem fire (sustained : Sustained origin Q) (h : Reached origin Q firings desk) {position : Nat}
    {alert : Alert} {event : Event} (found : desk.alerts[position]? = some alert)
    (ticker : event.ticker = alert.ticker) :
    Reached origin Q (firings ++ [⟨position, event⟩]) (desk.fire position alert event) where
  written := by
    rw [← h.written]
    exact map_set_same found (Alert.written_recordTrigger alert event)
  notifiers := h.notifiers
  posted := by
    obtain ⟨first, there, alike⟩ := exists_written h.written found
    have same := Alert.of_written alike
    have sent : (desk.fire position alert event).engine.loop =
        alert.send desk.engine.notifiers event
          (desk.engine.loop.emitAll ([Engine.triggerLine alert event].map .logged)) := rfl
    rw [sent, h.notifiers, Alert.send_of_alike same]
    exact sustained.send there (ticker.trans same.ticker) (sustained.log _ h.posted)

theorem course (sustained : Sustained origin Q) {after : Desk} {more : List Firing}
    (course : Course desk more after) (h : Reached origin Q firings desk)
    (own : ∀ firing ∈ more, ∃ alert, origin.alerts[firing.position]? = some alert ∧
      firing.event.ticker = alert.ticker) :
    Reached origin Q (firings ++ more) after := by
  induction course generalizing firings with
  | done desk => simpa using h
  | quiet change _ ih => exact ih (h.quiet sustained change) own
  | @fire start finish position alert event rest found _ ih =>
    obtain ⟨first, there, ticker⟩ := own ⟨position, event⟩ List.mem_cons_self
    obtain ⟨same, here, alike⟩ := exists_written h.written found
    obtain rfl : same = first := Option.some.inj (here.symm.trans there)
    have fired := h.fire sustained found (ticker.trans (Alert.of_written alike).ticker.symm)
    have later := ih fired fun firing member => own firing (List.mem_cons_of_mem _ member)
    rwa [List.append_assoc] at later

theorem move (sustained : Sustained origin Q) (h : Reached origin Q firings desk) (move : Move) :
    Reached origin Q (firings ++ desk.fired move) (desk.move move) := by
  have turns := sustained.turns firings
  cases move with
  | tick listed market now =>
    apply h.course sustained (course_tick desk listed market now)
    intro firing member
    obtain ⟨alert, woken, _, here, lasting, fires⟩ := fires_of_mem_fired member
    obtain ⟨first, there, alike⟩ := exists_written h.written here
    have ticker := (Alert.of_lasting lasting).ticker.trans (Alert.of_written alike).ticker
    exact ⟨first, there, fires.ticker.trans ticker⟩
  | command position command now =>
    exact (h.quiet sustained (Quiet.obey desk position now command)).append_nil
  | advance seconds =>
    have run := turns.advance h.posted seconds
    exact append_nil ⟨h.written, h.notifiers, run⟩
  | settle =>
    have run := turns.settle h.posted
    exact append_nil ⟨h.written, h.notifiers, run⟩
  | shutdown =>
    have flushed := sustained.flush h.posted
    rw [← h.notifiers] at flushed
    have closed := sustained.log [⟨.info, "Alert engine stopped"⟩]
      (turns.finish flushed [.batch, .direct])
    exact append_nil ⟨h.written, h.notifiers, closed⟩
  | clearHistory => exact append_nil ⟨h.written, h.notifiers, h.posted⟩

theorem run (sustained : Sustained origin Q) (moves : List Move)
    (h : Reached origin Q firings desk) :
    Reached origin Q (firings ++ desk.firings moves) (desk.run moves) := by
  induction moves generalizing desk firings with
  | nil => exact h.append_nil
  | cons move rest ih =>
    have later := ih (h.move sustained move)
    rwa [List.append_assoc] at later

end Reached

/-- A desk in the middle of a run, with the accounts of what has fired since the run began. -/
abbrev Accounted (origin : Desk) : List Firing → Desk → Prop :=
  Reached origin fun firings =>
    Posted origin.engine.notifiers (origin.batched firings) (origin.singles firings)

theorem sustained_posted (origin : Desk) : Sustained origin fun firings =>
    Posted origin.engine.notifiers (origin.batched firings) (origin.singles firings) where
  log := fun lines h => h.log lines
  send := by
    intro firings loop position alert event found ticker h
    rw [batched_concat found ticker, singles_concat found ticker, Alert.send]
    split
    · rw [List.append_nil]
      exact h.add alert.ticker event alert.frequency.windowMinutes
    · rw [List.append_nil]
      exact h.spawn alert.ticker event
  turns := fun firings => Posted.kept _ _ _
  flush := fun h => h.flush

theorem Accounted.run {origin desk : Desk} {firings : List Firing} (moves : List Move)
    (h : Accounted origin firings desk) :
    Accounted origin (firings ++ desk.firings moves) (desk.run moves) :=
  Reached.run (sustained_posted origin) moves h

end Desk

/-- Every event that fired has gone out once, and nothing is left to go out. -/
structure Delivered (desk : Desk) (firings : List Firing) (loop : DeliveryLoop) : Prop where
  /-- Each event is in one of the batches that were opened, once. -/
  once : ((openings loop.emitted).flatMap (·.2)).Perm (firings.map (·.event))
  /-- No batch is empty, and its events have its ticker. -/
  bundled : ∀ bundle ∈ openings loop.emitted,
    bundle.2 ≠ [] ∧ ∀ event ∈ bundle.2, event.ticker = bundle.1
  /-- Batches come from the batcher, in the order in which it handed them over, or hold one
  event. -/
  ordered : loop.calls.Sublist (openings loop.emitted)
  routes : (openings loop.emitted).Perm (loop.calls ++ desk.singles firings)
  /-- The batches of a ticker, one after the other, are its batched events as they fired. -/
  sequence : ∀ ticker,
    loop.books.handed ticker = ((desk.batched firings).filter (·.1 = ticker)).map (·.2)
  /-- A channel gets a notification of every batch for which it does not fail. -/
  served : ∀ position notifier, desk.engine.notifiers[position]? = some notifier →
    (receipts position loop.emitted).Perm ((openings loop.emitted).filterMap notifier.answer?)
  /-- One that never fails gets one for each batch, with the names of its events in order. -/
  named : ∀ position notifier, desk.engine.notifiers[position]? = some notifier →
    notifier.compose = Template.compose →
    (∀ bundle ∈ openings loop.emitted, (notifier.answer? bundle).isSome) →
    ((receipts position loop.emitted).map fun template => (template.ticker, template.eventIds)).Perm
      ((openings loop.emitted).map fun bundle => (bundle.1, bundle.2.map (·.id)))
  empty : loop.batcher = ⟨[], []⟩
  idle : loop.outstanding = []

namespace Desk

variable {desk : Desk} {firings : List Firing} {loop : DeliveryLoop}

/-- The events of all batches and all single events are what fired. -/
theorem perm_events (desk : Desk) (firings : List Firing) :
    ((desk.batched firings).map (·.2) ++ (desk.singles firings).flatMap (·.2)).Perm
      (firings.map (·.event)) := by
  have parts := (List.filter_append_perm (fun firing : Firing => desk.batches firing.position)
    firings).map (·.event)
  have alone : (desk.singles firings).flatMap (·.2) =
      (firings.filter fun firing => !desk.batches firing.position).map (·.event) := by
    rw [singles, List.flatMap_map, List.map_eq_flatMap]
  rw [List.map_append] at parts
  rw [alone, batched, List.map_map]
  exact parts

theorem ticker_of_batched {entry : String × Event} (member : entry ∈ desk.batched firings) :
    entry.2.ticker = entry.1 := by
  obtain ⟨firing, _, rfl⟩ := List.mem_map.1 member
  rfl

/-- Accounts in which nothing is left open. -/
theorem delivered_of_posted
    (posted : Posted desk.engine.notifiers (desk.batched firings) (desk.singles firings) loop)
    (empty : loop.batcher = ⟨[], []⟩) (idle : loop.outstanding = []) :
    Delivered desk firings loop := by
  have handed := posted.underway.handed
  rw [told_of_idle idle] at handed
  have queues : loop.books.queues = [] := by rw [Loop.books, empty]
  have entries : (entriesOf loop.calls).Perm (desk.batched firings) := by
    have all := posted.balanced.perm
    rw [queues, show entriesOf ([] : List Bundle) = [] from rfl, List.append_nil] at all
    exact posted.arrivals ▸ all
  have served : ∀ position notifier, desk.engine.notifiers[position]? = some notifier →
      (receipts position loop.emitted).Perm
        ((openings loop.emitted).filterMap notifier.answer?) := by
    intro position notifier found
    have answers : Notifier.answerAt? desk.engine.notifiers position = notifier.answer? := by
      funext bundle
      rw [Notifier.answerAt?, found, Option.bind_some]
    rw [← answers]
    exact handed.answered position
  constructor
  case once =>
    have events : (loop.calls.flatMap (·.2)).Perm ((desk.batched firings).map (·.2)) := by
      rw [← map_entriesOf]
      exact entries.map _
    refine (handed.complete.flatMap_right _).trans ?_
    rw [List.flatMap_append]
    exact (events.append_right _).trans (perm_events desk firings)
  case bundled =>
    intro bundle member
    rcases List.mem_append.1 (handed.complete.mem_iff.1 member) with call | single
    · refine ⟨posted.balanced.calls_ne_nil bundle call, ?_⟩
      intro event within
      have entry : (bundle.1, event) ∈ entriesOf loop.calls :=
        List.mem_flatMap.2 ⟨bundle, call, List.mem_map.2 ⟨event, within, rfl⟩⟩
      exact ticker_of_batched (entries.mem_iff.1 entry)
    · obtain ⟨firing, _, rfl⟩ := List.mem_map.1 single
      simp
  case ordered => exact handed.ordered
  case routes => exact handed.complete
  case sequence =>
    intro ticker
    rw [posted.balanced.handed_eq queues, Books.joined]
    exact congrArg (fun arrivals => (arrivals.filter (·.1 = ticker)).map (·.2)) posted.arrivals
  case served => exact served
  case named =>
    intro position notifier found standard works
    rw [← Notifier.map_filterMap_answer? standard works]
    exact (served position notifier found).map _
  case empty => exact empty
  case idle => exact idle

/-- Whatever happens in a run, and whichever channels fail: once the engine is shut down, every
event that fired was delivered exactly once, in a batch of its ticker and in its turn, every channel
that does not fail was told of every batch, and nothing waits or is under way. -/
theorem delivered_once (desk : Desk) (unused : desk.engine.loop.Unused) (moves : List Move) :
    Delivered desk (desk.firings moves) (desk.run moves).engine.shutdown.loop := by
  have opened : Accounted desk [] desk := ⟨rfl, rfl, Posted.of_unused unused⟩
  have ran := opened.run moves
  rw [List.nil_append] at ran
  have posted := ran.posted
  rw [← ran.notifiers] at posted
  have idle := posted.outstanding_shutdown
  have closed := posted.shutdown
  rw [ran.notifiers] at closed
  exact delivered_of_posted closed (Engine.batcher_shutdown _) idle

end Desk

end

namespace Desk

/-- Two ticks with a batch that is handed over between them and one that waits for the shutdown. -/
def twoTicks : List Move :=
  [.tick [0, 1] .steady ⟨700 * Calendar.day, none, by decide⟩, .advance 1000,
    .tick [1, 0] .steady ⟨700 * Calendar.day + 2 * Calendar.hour, none, by decide⟩, .settle]

theorem delivered_twoTicks :
    ((pair.firings twoTicks).map fun firing => (firing.position, firing.event.id)) =
      [(0, "1-0"), (1, "1-1"), (1, "2-0"), (0, "2-1")] ∧
    Delivered pair (pair.firings twoTicks) (pair.run twoTicks).engine.shutdown.loop := by
  have unused : pair.engine.loop.Unused := ⟨rfl, rfl, rfl⟩
  exact ⟨by decide +kernel, delivered_once pair unused twoTicks⟩

end Desk

end MarketAlerts
