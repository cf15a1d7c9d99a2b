import MarketAlerts.Proofs.Delivery.Lane
import MarketAlerts.Proofs.Delivery.Timers

/-!
What a loop shows of one key: its queue, its timer with the timer's job, and what the journal says
of its batches. Nothing that is done for another key, and no delivery, changes what is shown.
-/
namespace MarketAlerts.Delivery

variable {κ ε τ ω : Type}

/-- What the journal says when a batch goes to a callback. -/
def Handover.notes (key : κ) (handover : Handover κ ε τ ω) : List (τ × Note κ ε τ ω) :=
  let reply := handover.callback.reply key handover.events
  (handover.time, .called key handover.events) ::
    reply.outputs.map (fun output => (handover.time, .emitted output)) ++
    match reply.outcome with
    | .raised => [(handover.time, .callbackFailed key)]
    | _ => []

/-- A journal in which the batches of a key go to callbacks one after the other as told. -/
inductive Chronicle (key : κ) : List (τ × Note κ ε τ ω) → List (Handover κ ε τ ω) → Prop
  | nil : Chronicle key [] []
  | note {journal handed what} (other : ∀ events, what.2 ≠ .called key events) :
      Chronicle key journal handed → Chronicle key (journal ++ [what]) handed
  | handOver {journal handed} (next : Handover κ ε τ ω) :
      Chronicle key journal handed → Chronicle key (journal ++ next.notes key) (handed ++ [next])

namespace Chronicle

variable {key : κ} {journal more : List (τ × Note κ ε τ ω)} {handed : List (Handover κ ε τ ω)}

theorem append (h : Chronicle key journal handed)
    (others : ∀ what ∈ more, ∀ events, what.2 ≠ .called key events) :
    Chronicle key (journal ++ more) handed := by
  induction more generalizing journal with
  | nil => rwa [List.append_nil]
  | cons what rest ih =>
    obtain ⟨first, later⟩ := List.forall_mem_cons.1 others
    rw [List.append_cons]
    exact ih (h.note first) later

theorem append_notes {other : κ} (h : Chronicle key journal handed) (apart : other ≠ key)
    (handover : Handover κ ε τ ω) : Chronicle key (journal ++ handover.notes other) handed := by
  apply h.append
  intro what member events same
  rcases List.mem_append.1 member with called | failed
  · rcases List.mem_cons.1 called with rfl | emitted
    · injection same with same
      exact apart same
    · obtain ⟨output, -, rfl⟩ := List.mem_map.1 emitted
      contradiction
  · split at failed
    · rw [List.mem_singleton.1 failed] at same
      contradiction
    · contradiction

end Chronicle

namespace Loop

variable [DecidableEq κ] {key : κ} {loop : Loop κ ε τ ω}

/-- The calls of the key in a chronicle's journal are those of its batches. -/
theorem filter_calls_of_chronicle {handed : List (Handover κ ε τ ω)}
    (h : Chronicle key loop.journal handed) :
    loop.calls.filter (·.1 = key) = handed.map fun handover => (key, handover.events) := by
  unfold calls
  generalize loop.journal = journal at h
  induction h with
  | nil => rfl
  | @note journal handed what other _ ih =>
    rw [List.filterMap_append, List.filter_append, ih]
    obtain ⟨time, what⟩ := what
    cases what with
    | called other' events =>
      have apart : other' ≠ key := by
        rintro rfl
        exact other events rfl
      simp [apart]
    | _ => simp
  | @handOver journal handed next _ ih =>
    rw [List.filterMap_append, List.filter_append, ih, Handover.notes]
    split <;> simp [List.filterMap_map]

/-- One loop shows no less of a key than another did: its queue, its timer, the jobs of its batches
and their story are the same. -/
structure SameAt (key : κ) (a b : Loop κ ε τ ω) : Prop where
  clock : b.clock = a.clock
  queue : b.batcher.queues.lookup key = a.batcher.queues.lookup key
  timer : b.batcher.timers.lookup key = a.batcher.timers.lookup key
  agenda : ∀ {handle callback}, handle ∈ a.agenda → handle.job = .expire key callback →
    handle ∈ b.agenda
  scheduled : ∀ {handle callback}, handle ∈ a.scheduled → handle.job = .expire key callback →
    handle ∈ b.scheduled
  chronicle : ∀ {handed}, Chronicle key a.journal handed → Chronicle key b.journal handed

namespace SameAt

variable {a b c : Loop κ ε τ ω} {other : κ}

theorem refl (loop : Loop κ ε τ ω) : SameAt key loop loop :=
  ⟨rfl, rfl, rfl, fun member _ => member, fun member _ => member, id⟩

theorem trans (h : SameAt key a b) (h' : SameAt key b c) : SameAt key a c where
  clock := h'.clock.trans h.clock
  queue := h'.queue.trans h.queue
  timer := h'.timer.trans h.timer
  agenda := fun member job => h'.agenda (h.agenda member job) job
  scheduled := fun member job => h'.scheduled (h.scheduled member job) job
  chronicle := h'.chronicle ∘ h.chronicle

theorem note {what : Note κ ε τ ω} (apart : ∀ events, what ≠ .called key events) :
    SameAt key loop (loop.note what) :=
  { refl loop with chronicle := fun h => h.note apart }

theorem emitAll (outputs : List ω) : SameAt key loop (loop.emitAll outputs) := by
  refine { refl loop with chronicle := fun h => h.append ?_ }
  intro what member events same
  obtain ⟨output, -, rfl⟩ := List.mem_map.1 member
  contradiction

theorem arm (deadline : τ) (job : Job κ ε τ ω) : SameAt key loop (loop.arm deadline job) :=
  { refl loop with scheduled := fun member _ => List.mem_append_left _ member }

theorem soon (job : Job κ ε τ ω) : SameAt key loop (loop.soon job) :=
  { refl loop with clock := rfl }

theorem resume [Timescale τ] (task : Task κ τ ω) : SameAt key loop (loop.resume task) := by
  unfold Loop.resume
  dsimp only
  split
  · split
    · exact (emitAll _).trans (arm _ _)
    · exact (emitAll _).trans (soon _)
  · split
    · exact (emitAll _).trans (note fun _ same => nomatch same)
    · exact emitAll _

/-- The timer of another key goes with a job of that key. -/
theorem dropTimer (registered : Registered loop) (apart : other ≠ key) :
    SameAt key loop (loop.dropTimer other) := by
  have timers := timers_dropTimer loop other key
  rw [if_neg (Ne.symm apart)] at timers
  unfold Loop.dropTimer at timers ⊢
  split
  case h_2 => exact refl loop
  case h_1 timer found =>
  rw [found] at timers
  have kept {handle : Handle κ ε τ ω} {callback : Callback κ ε τ ω} (member : handle ∈ loop.handles)
      (job : handle.job = .expire key callback) : (handle.ticket != timer.ticket) = true := by
    obtain ⟨own, armed⟩ := registered.armed found
    refine bne_iff_ne.2 fun same => apart ?_
    rw [registered.eq_of_ticket member armed same] at job
    injection job
  exact {
    clock := rfl
    queue := rfl
    timer := timers
    agenda := fun member job =>
      List.mem_filter.2 ⟨member, kept (mem_handles.2 (.inl member)) job⟩
    scheduled := fun member job =>
      List.mem_filter.2 ⟨member, kept (mem_handles.2 (.inr (.inr member))) job⟩
    chronicle := id }

variable [Timescale τ]

theorem add (registered : Registered loop) (apart : other ≠ key) (event : ε) (window : τ)
    (callback : Callback κ ε τ ω) : SameAt key loop (loop.add other event window callback) := by
  have dropped : SameAt key loop ((loop.dropTimer other).note (.joined other event)) :=
    (dropTimer registered apart).trans (note fun _ same => by cases same)
  have queue : (Batcher.push loop.batcher.queues other event).lookup key =
      loop.batcher.queues.lookup key := by
    rw [lookup_push, if_neg (Ne.symm apart)]
  unfold Loop.add
  dsimp only
  split
  · refine SameAt.trans ?_ (note fun _ same => by cases same)
    refine { dropped.trans (arm _ _) with queue, timer := ?_ }
    rw [← dropped.timer, List.lookup_append, lookup_cons_eq_ite, if_neg (Ne.symm apart),
      List.lookup_nil, Option.or_none]
  · exact { dropped with queue }

end SameAt

section Add

theorem clock_dropTimer (loop : Loop κ ε τ ω) (key : κ) :
    (loop.dropTimer key).clock = loop.clock := by
  unfold dropTimer
  split <;> rfl

theorem journal_dropTimer (loop : Loop κ ε τ ω) (key : κ) :
    (loop.dropTimer key).journal = loop.journal := by
  unfold dropTimer
  split <;> rfl

theorem agenda_dropTimer_sublist (loop : Loop κ ε τ ω) (key : κ) :
    (loop.dropTimer key).agenda.Sublist loop.agenda := by
  unfold dropTimer
  split
  · exact List.filter_sublist
  · exact List.Sublist.refl _

variable [Timescale τ]

theorem clock_add (loop : Loop κ ε τ ω) (key : κ) (event : ε) (window : τ)
    (callback : Callback κ ε τ ω) : (loop.add key event window callback).clock = loop.clock := by
  unfold add
  dsimp only
  split <;> exact clock_dropTimer loop key

theorem agenda_add_sublist (loop : Loop κ ε τ ω) (key : κ) (event : ε) (window : τ)
    (callback : Callback κ ε τ ω) :
    (loop.add key event window callback).agenda.Sublist loop.agenda := by
  unfold add
  dsimp only
  split <;> exact agenda_dropTimer_sublist loop key

/-- Adding an event is no part of the story of any batch. -/
theorem chronicle_add {handed : List (Handover κ ε τ ω)} (h : Chronicle key loop.journal handed)
    (added : κ) (event : ε) (window : τ) (callback : Callback κ ε τ ω) :
    Chronicle key (loop.add added event window callback).journal handed := by
  rw [← journal_dropTimer loop added] at h
  have joined : Chronicle key ((loop.dropTimer added).note (.joined added event)).journal handed :=
    h.note fun _ same => by cases same
  unfold add
  dsimp only
  split
  · exact joined.note fun _ same => by cases same
  · exact joined

/-- Where a timer can be set its job waits for the window to pass. -/
theorem exists_mem_scheduled_add (loop : Loop κ ε τ ω) (key : κ) (event : ε) {window : τ}
    (can : canSet window = true) (callback : Callback κ ε τ ω) : ∃ ticket,
    ⟨ticket, Timescale.after loop.clock (Timescale.ofMinutes window), .expire key callback⟩ ∈
      (loop.add key event window callback).scheduled := by
  rw [← clock_dropTimer loop key]
  unfold add
  dsimp only
  rw [if_pos can]
  exact ⟨_, List.mem_append_right _ (List.mem_singleton_self _)⟩

end Add

section Plain

variable {callback : Callback κ ε τ ω} [Timescale τ]

/-- A callback that queues nothing of its own leaves a story and perhaps a delivery. -/
theorem invoke_of_isPlain (plain : callback.IsPlain) (loop : Loop κ ε τ ω) (key : κ)
    (events : List ε) : ∃ nextTicket ready, loop.invoke callback key events =
      { loop with
        nextTicket, ready
        journal := loop.journal ++ Handover.notes key ⟨loop.clock, events, callback⟩ } := by
  cases callback with
  | requeue => exact plain.elim
  | plain reply =>
    cases outcome : (reply key events).outcome with
    | returned =>
      exact ⟨loop.nextTicket, loop.ready, by
        simp [invoke, Callback.reply, outcome, settleOutcome, note, emitAll, Handover.notes]⟩
    | raised =>
      exact ⟨loop.nextTicket, loop.ready, by
        simp [invoke, Callback.reply, outcome, settleOutcome, note, emitAll, Handover.notes]⟩
    | awaiting actions fails =>
      exact ⟨loop.nextTicket + 1,
        loop.ready ++ [⟨loop.nextTicket, loop.clock, .resume ⟨.batch, key, actions, fails⟩⟩], by
          simp [invoke, Callback.reply, outcome, settleOutcome, note, emitAll, Handover.notes,
            spawn, soon]⟩

theorem SameAt.invoke {other : κ} (apart : other ≠ key) (plain : callback.IsPlain)
    (events : List ε) : SameAt key loop (loop.invoke callback other events) := by
  obtain ⟨nextTicket, ready, same⟩ := invoke_of_isPlain plain loop other events
  rw [same]
  exact { SameAt.refl loop with chronicle := fun h => h.append_notes apart _ }

theorem SameAt.expire {other : κ} (apart : other ≠ key) (plain : callback.IsPlain) :
    SameAt key loop (loop.expire other callback) := by
  have taken : SameAt key loop { loop with batcher :=
      ⟨loop.batcher.queues.filter (·.1 ≠ other), loop.batcher.timers.filter (·.1 ≠ other)⟩ } := by
    refine { SameAt.refl loop with queue := ?_, timer := ?_ }
    · rw [lookup_filter_ne, if_neg (Ne.symm apart)]
    · rw [lookup_filter_ne, if_neg (Ne.symm apart)]
  unfold Loop.expire
  dsimp only
  split
  · exact taken
  · exact taken.trans (SameAt.invoke apart plain _)

/-- A job that is not the key's own leaves the key as it is. -/
theorem SameAt.perform {job : Job κ ε τ ω} (apart : ∀ callback, job ≠ .expire key callback)
    (plain : job.IsPlain) : SameAt key loop (loop.perform job) := by
  cases job with
  | expire other callback =>
    have apart : other ≠ key := by
      rintro rfl
      exact apart callback rfl
    exact SameAt.expire apart plain
  | wake task => exact SameAt.soon _
  | resume task => exact SameAt.resume task

theorem clock_perform (loop : Loop κ ε τ ω) {job : Job κ ε τ ω} (plain : job.IsPlain) :
    (loop.perform job).clock = loop.clock := by
  cases job with
  | expire other callback =>
    unfold Loop.perform Loop.expire
    dsimp only
    split
    · rfl
    · obtain ⟨nextTicket, ready, same⟩ := invoke_of_isPlain plain
        { loop with batcher :=
          ⟨loop.batcher.queues.filter (·.1 ≠ other), loop.batcher.timers.filter (·.1 ≠ other)⟩ }
        other (loop.batcher.queue other)
      rw [same]
  | wake task => rfl
  | resume task =>
    have same : SameAt task.key loop (loop.resume task) := SameAt.resume task
    exact same.clock

end Plain

end Loop

end MarketAlerts.Delivery
