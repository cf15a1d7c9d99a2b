import MarketAlerts.Proofs.Delivery.Frame
import MarketAlerts.Proofs.Delivery.Interleaving

/-!
The three places in which a batcher keeps what it knows: the queues, the timers, and the jobs of its
loop. Timers and jobs agree in every state, and no key has a timer without an event. The other half,
that no event waits without a timer, rests on the windows: where no timer can be set for a window,
the event is in the queue all the same and the timer that its key had before is gone.
-/
namespace MarketAlerts.Delivery

variable {κ ε τ ω : Type}

namespace Batcher

variable [DecidableEq κ]

/-- An event joins the queue of its key, whose timer is replaced, or taken away. -/
def put (batcher : Batcher κ ε τ) (key : κ) (event : ε) (timer? : Option (Timer τ)) :
    Batcher κ ε τ :=
  ⟨push batcher.queues key event, batcher.timers.filter (·.1 ≠ key) ++ timer?.toList.map (key, ·)⟩

def takeOut (batcher : Batcher κ ε τ) (key : κ) : Batcher κ ε τ :=
  ⟨batcher.queues.filter (·.1 ≠ key), batcher.timers.filter (·.1 ≠ key)⟩

variable {batcher : Batcher κ ε τ} {key other : κ}

theorem lookup_isSome_iff {α : Type} {entries : List (κ × α)} {key : κ} :
    (entries.lookup key).isSome = true ↔ key ∈ entries.map (·.1) := by
  induction entries with
  | nil => simp
  | cons entry rest ih =>
    obtain ⟨k, a⟩ := entry
    rw [lookup_cons_eq_ite, List.map_cons, List.mem_cons, ← ih]
    split <;> simp_all

theorem mem_pendingKeys : key ∈ batcher.pendingKeys ↔ (batcher.queues.lookup key).isSome = true :=
  lookup_isSome_iff.symm

theorem mem_pendingKeys_put {event : ε} {timer? : Option (Timer τ)} :
    other ∈ (batcher.put key event timer?).pendingKeys ↔ other = key ∨
    other ∈ batcher.pendingKeys := by
  rw [mem_pendingKeys, mem_pendingKeys, put, lookup_push]
  split <;> simp_all

theorem lookup_timers_put {event : ε} {timer? : Option (Timer τ)} :
    (batcher.put key event timer?).timers.lookup other =
      if other = key then timer? else batcher.timers.lookup other := by
  rw [put, List.lookup_append, lookup_filter_ne]
  cases timer? <;> by_cases same : other = key <;> simp [lookup_cons_eq_ite, same]

theorem hasTimer_put {event : ε} {timer? : Option (Timer τ)} :
    (batcher.put key event timer?).hasTimer other =
      if other = key then timer?.isSome else batcher.hasTimer other := by
  rw [hasTimer, lookup_timers_put, hasTimer]
  split <;> rfl

theorem mem_pendingKeys_takeOut :
    other ∈ (batcher.takeOut key).pendingKeys ↔ other ≠ key ∧ other ∈ batcher.pendingKeys := by
  rw [mem_pendingKeys, mem_pendingKeys, takeOut, lookup_filter_ne]
  split <;> simp_all

theorem hasTimer_takeOut :
    (batcher.takeOut key).hasTimer other = (!decide (other = key) && batcher.hasTimer other) := by
  rw [hasTimer, takeOut, lookup_filter_ne, hasTimer]
  by_cases same : other = key <;> simp [same]

end Batcher

/-- Whether a job is to hand over the batch of a key. -/
def Job.expires [DecidableEq κ] (key : κ) : Job κ ε τ ω → Bool
  | expire other _ => other = key
  | _ => false

theorem Job.expires_iff [DecidableEq κ] {job : Job κ ε τ ω} {key : κ} :
    job.expires key = true ↔ ∃ callback, job = .expire key callback := by
  cases job <;> simp [Job.expires]

/-- Every window that a callback gives, now or in a later batch, is permitted for its key. -/
def Callback.Within (permitted : κ → τ → Prop) : Callback κ ε τ ω → Prop
  | plain _ => True
  | requeue _ key _ window next => permitted key window ∧ next.Within permitted

def Job.Within (permitted : κ → τ → Prop) : Job κ ε τ ω → Prop
  | expire _ callback => callback.Within permitted
  | _ => True

def Step.Within (permitted : κ → τ → Prop) : Step κ ε τ ω → Prop
  | add key _ window callback => permitted key window ∧ callback.Within permitted
  | flush callback => callback.Within permitted
  | _ => True

section Within

variable {permitted : κ → τ → Prop}

theorem Job.hereditary_within : Job.Hereditary (Job.Within permitted : Job κ ε τ ω → Prop) where
  wake := fun _ => trivial
  pause := fun _ _ => ⟨trivial, trivial⟩
  start := fun _ _ => trivial
  requeue := And.right

theorem Callback.within_of_forall (all : ∀ key window, permitted key window)
    (callback : Callback κ ε τ ω) : callback.Within permitted := by
  induction callback with
  | plain _ => trivial
  | requeue _ key _ window next ih => exact ⟨all key window, ih⟩

theorem Step.within_of_forall (all : ∀ key window, permitted key window) (step : Step κ ε τ ω) :
    step.Within permitted := by
  cases step with
  | add key event window callback => exact ⟨all key window, callback.within_of_forall all⟩
  | flush callback => exact callback.within_of_forall all
  | turn mayWait => trivial
  | pass clock => trivial

end Within

namespace Loop

variable [DecidableEq κ]

/-- The timers that jobs of the loop stand for under a key. -/
def expiries (loop : Loop κ ε τ ω) (key : κ) : List (Timer τ) :=
  (loop.handles.filter (·.job.expires key)).map fun handle => ⟨handle.ticket, handle.deadline⟩

theorem mem_expiries {loop : Loop κ ε τ ω} {key : κ} {timer : Timer τ} :
    timer ∈ loop.expiries key ↔
      ∃ callback, ⟨timer.ticket, timer.deadline, .expire key callback⟩ ∈ loop.handles := by
  rw [expiries, List.mem_map]
  constructor
  · rintro ⟨⟨ticket, deadline, job⟩, member, rfl⟩
    obtain ⟨member, expires⟩ := List.mem_filter.1 member
    obtain ⟨callback, rfl⟩ := Job.expires_iff.1 expires
    exact ⟨callback, member⟩
  · rintro ⟨callback, member⟩
    exact ⟨_, List.mem_filter.2 ⟨member, Job.expires_iff.2 ⟨callback, rfl⟩⟩, rfl⟩

theorem nodup_expiries {loop : Loop κ ε τ ω} (distinct : (loop.handles.map (·.ticket)).Nodup)
    (key : κ) : (loop.expiries key).Nodup := by
  refine List.Nodup.of_map (·.ticket) ?_
  rw [expiries, List.map_map]
  exact distinct.sublist (List.filter_sublist.map _)

/-- The jobs that stand for a key's timer are the one that the batcher knows, if it knows one. -/
theorem Registered.expiries_eq {loop : Loop κ ε τ ω} (h : Registered loop) (key : κ) :
    loop.expiries key = (loop.batcher.timers.lookup key).toList := by
  have mem {timer : Timer τ} : timer ∈ loop.expiries key ↔
      loop.batcher.timers.lookup key = some timer := by
    rw [mem_expiries]
    exact ⟨fun ⟨_, member⟩ => h.known member rfl, h.armed⟩
  cases found : loop.batcher.timers.lookup key with
  | none =>
    refine List.eq_nil_iff_forall_not_mem.2 fun timer member => ?_
    rw [mem, found] at member
    contradiction
  | some timer =>
    refine List.perm_singleton.1 ((List.perm_ext_iff_of_nodup (nodup_expiries h.distinct key)
      (List.nodup_singleton timer)).2 fun other => ?_)
    rw [mem, found, Option.some.injEq, List.mem_singleton, eq_comm]

theorem batcher_dropTimer (loop : Loop κ ε τ ω) (key : κ) :
    (loop.dropTimer key).batcher =
      { loop.batcher with timers := loop.batcher.timers.filter (·.1 ≠ key) } := by
  unfold dropTimer
  split
  · rfl
  · next absent =>
    have untouched : loop.batcher.timers.filter (·.1 ≠ key) = loop.batcher.timers := by
      refine List.filter_eq_self.2 fun entry member => ?_
      have apart : key ≠ entry.1 := bne_iff_ne.1 (List.lookup_eq_none_iff.1 absent entry member)
      exact decide_eq_true apart.symm
    rw [untouched]

theorem nextTicket_dropTimer (loop : Loop κ ε τ ω) (key : κ) :
    (loop.dropTimer key).nextTicket = loop.nextTicket := by
  unfold dropTimer
  split <;> rfl

variable [Timescale τ]

theorem batcher_add (loop : Loop κ ε τ ω) (key : κ) (event : ε) (window : τ)
    (callback : Callback κ ε τ ω) :
    (loop.add key event window callback).batcher = loop.batcher.put key event
      (if canSet window then
        some ⟨loop.nextTicket, Timescale.after loop.clock (Timescale.ofMinutes window)⟩
          else none) := by
  have timers : ((loop.dropTimer key).note (.joined key event)).batcher.timers =
      loop.batcher.timers.filter (·.1 ≠ key) := congrArg Batcher.timers (batcher_dropTimer loop key)
  have ticket : ((loop.dropTimer key).note (.joined key event)).nextTicket = loop.nextTicket :=
    nextTicket_dropTimer loop key
  have clock : ((loop.dropTimer key).note (.joined key event)).clock = loop.clock :=
    clock_dropTimer loop key
  unfold add
  dsimp only
  split
  · rw [timers, ticket, clock]
    rfl
  · rw [timers]
    simp [Batcher.put]

omit [DecidableEq κ] [Timescale τ] in
theorem batcher_settleOutcome (loop : Loop κ ε τ ω) (key : κ) (outcome : Outcome τ ω) :
    (loop.settleOutcome key outcome).batcher = loop.batcher := by
  cases outcome <;> rfl

omit [DecidableEq κ] in
theorem batcher_resume (loop : Loop κ ε τ ω) (task : Task κ τ ω) :
    (loop.resume task).batcher = loop.batcher := by
  unfold resume
  dsimp only
  split
  · split <;> rfl
  · split <;> rfl

/-- A property of batchers that is kept when an event joins with a window that is permitted and when
a key is taken out. -/
structure Maintained (permitted : κ → τ → Prop) (P : Batcher κ ε τ → Prop) : Prop where
  empty : P ⟨[], []⟩
  put : ∀ {batcher key event window timer?}, permitted key window →
    timer?.isSome = (canSet window : Bool) → P batcher → P (batcher.put key event timer?)
  takeOut : ∀ {batcher} key, P batcher → P (batcher.takeOut key)

namespace Maintained

variable {permitted : κ → τ → Prop} {P : Batcher κ ε τ → Prop} {loop : Loop κ ε τ ω}

theorem add (maintained : Maintained permitted P) (h : P loop.batcher) {key : κ} {window : τ}
    (allowed : permitted key window) (event : ε) (callback : Callback κ ε τ ω) :
    P (loop.add key event window callback).batcher := by
  rw [batcher_add]
  refine maintained.put allowed ?_ h
  split <;> simp_all

theorem invoke (maintained : Maintained permitted P) (h : P loop.batcher)
    {callback : Callback κ ε τ ω} (within : callback.Within permitted) (key : κ) (events : List ε) :
    P (loop.invoke callback key events).batcher := by
  cases callback with
  | plain reply =>
    unfold Loop.invoke
    rw [batcher_settleOutcome]
    exact h
  | requeue reply other event window next =>
    have said : P ((loop.note (.called key events)).emitAll (reply key events).outputs).batcher := h
    unfold Loop.invoke
    rw [batcher_settleOutcome]
    exact maintained.add said within.1 event next

theorem perform (maintained : Maintained permitted P) (h : P loop.batcher) {job : Job κ ε τ ω}
    (within : job.Within permitted) : P (loop.perform job).batcher := by
  cases job with
  | expire key callback =>
    have taken := maintained.takeOut key h
    unfold Loop.perform Loop.expire
    dsimp only
    split
    · exact taken
    · exact maintained.invoke taken within key _
  | wake task => exact h
  | resume task =>
    rw [Loop.perform, batcher_resume]
    exact h

theorem kept (maintained : Maintained permitted P) :
    Kept fun loop : Loop κ ε τ ω => Follows (Job.Within permitted) loop ∧ P loop.batcher where
  perform := by
    rintro loop handle rest agenda ⟨within, h⟩
    have begun : P ({ loop with agenda := rest } : Loop κ ε τ ω).batcher := h
    exact ⟨(follows_kept Job.hereditary_within).perform agenda within,
      maintained.perform begun (within.next agenda)⟩
  beginRound := fun clock runs done h =>
    ⟨(follows_kept Job.hereditary_within).beginRound clock runs done h.1, h.2⟩
  setClock := fun _ h => h

theorem flushed (maintained : Maintained permitted P) {callback : Callback κ ε τ ω}
    (within : callback.Within permitted) :
    Flushed callback (fun loop => P loop.batcher) fun _ loop => P loop.batcher where
  cancel := fun _ h => h
  clear := fun _ => maintained.empty
  skip := fun h => h
  invoke := fun _ h => maintained.invoke h within _ _
  note := fun _ h => h

/-- What is kept holds in every state that steps with permitted windows lead to. -/
theorem reach (maintained : Maintained permitted P) {steps : List (Step κ ε τ ω)}
    (within : ∀ step ∈ steps, step.Within permitted) :
    P ((start : Loop κ ε τ ω).reach steps).batcher := by
  have begun : Follows (Job.Within permitted) (start : Loop κ ε τ ω) ∧
      P (start : Loop κ ε τ ω).batcher := ⟨fun _ absent => (nomatch absent), maintained.empty⟩
  refine (maintained.kept.reach ?_ ?_ begun).2
  · rintro loop key event window callback member ⟨rule, h⟩
    obtain ⟨allowed, later⟩ := within _ member
    exact ⟨rule.add later event window, maintained.add h allowed event callback⟩
  · rintro loop callback member ⟨rule, h⟩
    have own : callback.Within permitted := within _ member
    exact ⟨(follows_flushed Job.hereditary_within fun _ => own).flush rule,
      (maintained.flushed own).flush h⟩

end Maintained

/-- Whatever windows are given, no key has two timers, and none a timer without an event. -/
theorem maintained_timers : Maintained (fun _ _ => True) fun batcher : Batcher κ ε τ =>
    (batcher.timers.map (·.1)).Nodup ∧ ∀ key, batcher.hasTimer key = true →
    key ∈ batcher.pendingKeys where
  empty := ⟨List.nodup_nil, fun _ absent => nomatch absent⟩
  put := by
    rintro batcher key event window timer? - - ⟨distinct, pending⟩
    refine ⟨?_, fun other timed => ?_⟩
    · have rest : ((batcher.timers.filter (·.1 ≠ key)).map (·.1)).Nodup :=
        distinct.sublist (List.filter_sublist.map _)
      rw [Batcher.put, List.map_append]
      refine List.nodup_append.2 ⟨rest, by cases timer? <;> simp, ?_⟩
      intro other member own new same
      obtain ⟨entry, there, rfl⟩ := List.mem_map.1 member
      have apart : entry.1 ≠ key := by simpa using (List.mem_filter.1 there).2
      cases timer? with
      | none => simp at new
      | some timer => exact apart (same.trans (by simpa using new))
    · rw [Batcher.mem_pendingKeys_put]
      rw [Batcher.hasTimer_put] at timed
      split at timed
      · next same => exact .inl same
      · exact .inr (pending other timed)
  takeOut := by
    rintro batcher key ⟨distinct, pending⟩
    refine ⟨distinct.sublist (List.filter_sublist.map _), fun other timed => ?_⟩
    rw [Batcher.hasTimer_takeOut, Bool.and_eq_true] at timed
    exact Batcher.mem_pendingKeys_takeOut.2 ⟨by simpa using timed.1, pending other timed.2⟩

/-- Where a timer can be set for every window that is given for a key, the key has no event without
a timer. -/
theorem maintained_pending (key : κ) :
    Maintained (fun other window => other = key → canSet window = true)
      fun batcher : Batcher κ ε τ =>
        key ∈ batcher.pendingKeys → batcher.hasTimer key = true where
  empty := fun absent => nomatch absent
  put := by
    intro batcher other event window timer? allowed timer h pending
    rw [Batcher.hasTimer_put]
    split
    · next same => rw [timer, allowed same.symm]
    · next apart => exact h ((Batcher.mem_pendingKeys_put.1 pending).resolve_left apart)
  takeOut := by
    intro batcher other h pending
    obtain ⟨apart, pending⟩ := Batcher.mem_pendingKeys_takeOut.1 pending
    rw [Batcher.hasTimer_takeOut, h pending]
    simpa using apart

/-- What the queues, the timers and the jobs of a loop always agree on. -/
structure InStep (loop : Loop κ ε τ ω) : Prop where
  pendingKeys_nodup : loop.batcher.pendingKeys.Nodup
  queues_ne_nil : ∀ entry ∈ loop.batcher.queues, entry.2 ≠ []
  size : loop.batcher.size = loop.batcher.pendingKeys.length
  pendingCount : ∀ key, 0 < loop.batcher.pendingCount key ↔ key ∈ loop.batcher.pendingKeys
  timers_nodup : (loop.batcher.timers.map (·.1)).Nodup
  pending : ∀ key, loop.batcher.hasTimer key = true → key ∈ loop.batcher.pendingKeys
  /-- A timer that is known has its one job, with its deadline, and no other key has any. -/
  expiries : ∀ key, loop.expiries key = (loop.batcher.timers.lookup key).toList

/-- A key is pending exactly if it has a timer, a deadline, and one job in the loop. -/
structure Agrees (key : κ) (loop : Loop κ ε τ ω) : Prop where
  hasTimer_iff : loop.batcher.hasTimer key = true ↔ key ∈ loop.batcher.pendingKeys
  deadline_iff : loop.batcher.deadline? key = none ↔ loop.batcher.queue key = []
  length_expiries : (loop.expiries key).length = if key ∈ loop.batcher.pendingKeys then 1 else 0

omit [Timescale τ] in
/-- The queue of a key is what waits under it, and none that is there is empty. -/
theorem queue_eq_nil_iff {batcher : Batcher κ ε τ} (filled : ∀ entry ∈ batcher.queues, entry.2 ≠ [])
    (key : κ) : batcher.queue key = [] ↔ key ∉ batcher.pendingKeys := by
  rw [Batcher.mem_pendingKeys, Batcher.queue]
  cases found : batcher.queues.lookup key with
  | none => simp
  | some events =>
    obtain ⟨before, after, queues, -⟩ := List.lookup_eq_some_iff.1 found
    simpa using filled (key, events) (by simp [queues])

omit [Timescale τ] in
/-- Where the key has no event without a timer, all that is told of it agrees. -/
theorem InStep.agrees {loop : Loop κ ε τ ω} (h : InStep loop) {key : κ}
    (timed : key ∈ loop.batcher.pendingKeys → loop.batcher.hasTimer key = true) :
    Agrees key loop := by
  have hasTimer_iff : loop.batcher.hasTimer key = true ↔ key ∈ loop.batcher.pendingKeys :=
    ⟨h.pending key, timed⟩
  refine ⟨hasTimer_iff, ?_, ?_⟩
  · rw [queue_eq_nil_iff h.queues_ne_nil, ← hasTimer_iff, Batcher.deadline?, Batcher.hasTimer]
    cases loop.batcher.timers.lookup key <;> simp
  · rw [h.expiries]
    simp only [← hasTimer_iff, Batcher.hasTimer]
    cases loop.batcher.timers.lookup key <;> rfl

theorem inStep_reach (steps : List (Step κ ε τ ω)) :
    InStep ((start : Loop κ ε τ ω).reach steps) := by
  have balanced := balanced_reach steps
  have timers := maintained_timers.reach fun step (_ : step ∈ steps) =>
    step.within_of_forall fun _ _ => trivial
  exact {
    pendingKeys_nodup := balanced.nodup_keys
    queues_ne_nil := balanced.queues_ne_nil
    size := (List.length_map _).symm
    pendingCount := by
      intro key
      rw [Batcher.pendingCount, List.length_pos_iff, ne_eq, queue_eq_nil_iff balanced.queues_ne_nil,
        not_not]
    timers_nodup := timers.1
    pending := timers.2
    expiries := (Registered.start.reach steps).expiries_eq }

/-- A timer can be set for every window that the step gives for a key. -/
def Step.Sets (key : κ) (step : Step κ ε τ ω) : Prop :=
  step.Within fun other window => other = key → canSet window = true

theorem agrees_reach {key : κ} {steps : List (Step κ ε τ ω)}
    (sets : ∀ step ∈ steps, Step.Sets key step) : Agrees key ((start : Loop κ ε τ ω).reach steps) :=
  (inStep_reach steps).agrees ((maintained_pending key).reach sets)

/-- For every double a timer can be set, so no event waits without one. -/
theorem agrees_reach_double (steps : List (Step κ ε Float ω)) (key : κ) :
    Agrees key ((start : Loop κ ε Float ω).reach steps) :=
  agrees_reach fun step _ => step.within_of_forall fun _ _ _ => rfl

omit [Timescale τ] in
theorem calls_requeue (books : Books κ ε) (callback : Callback κ ε τ ω) :
    (books.requeue callback).calls = books.calls := by
  cases callback <;> rfl

/-- What a turn hands over is the whole queue of a key whose timer has run out, and it is the timer
that the batcher knows for the key. -/
theorem Registered.calls_turn {loop after : Loop κ ε τ ω} (h : Registered loop)
    {permit : Loop κ ε τ ω → τ → Bool} (turn : loop.turn? permit = some after) :
    after.calls = loop.calls ∨ ∃ handle rest key callback, loop.agenda = handle :: rest ∧
      handle.job = .expire key callback ∧
      loop.batcher.timers.lookup key = some ⟨handle.ticket, handle.deadline⟩ ∧
      after.calls = loop.calls ++ [(key, loop.batcher.queue key)] := by
  rcases turn?_cases turn with ⟨handle, rest, agenda, rfl⟩ | ⟨-, rfl⟩ | ⟨-, -, first, -, -, rfl⟩
  case inr.inl => exact .inl rfl
  case inr.inr => exact .inl rfl
  have member : handle ∈ loop.handles := mem_handles.2 (.inl (agenda ▸ List.mem_cons_self))
  cases job : handle.job with
  | wake task => exact .inl rfl
  | resume task => exact .inl (congrArg Books.calls (books_resume _ task))
  | expire key callback =>
    unfold perform expire
    dsimp only
    split
    · exact .inl rfl
    · refine .inr ⟨handle, rest, key, callback, agenda, job, h.known member job, ?_⟩
      have books := congrArg Books.calls (books_invoke { loop with
        agenda := rest
        batcher :=
          ⟨loop.batcher.queues.filter (·.1 ≠ key), loop.batcher.timers.filter (·.1 ≠ key)⟩ }
        callback key (loop.batcher.queue key))
      rw [calls_requeue] at books
      exact books

/-- A new event of a key, like a flush, replaces the timer that the key had. -/
theorem Registered.lookup_add_ne {loop : Loop κ ε τ ω} (h : Registered loop) {key : κ}
    {timer : Timer τ} (known : loop.batcher.timers.lookup key = some timer) (event : ε) (window : τ)
    (callback : Callback κ ε τ ω) :
    (loop.add key event window callback).batcher.timers.lookup key ≠ some timer := by
  obtain ⟨old, armed⟩ := h.armed known
  have earlier : timer.ticket < loop.nextTicket := h.fresh _ armed
  rw [batcher_add, Batcher.lookup_timers_put, if_pos rfl]
  split
  · rintro ⟨rfl⟩
    exact Nat.lt_irrefl _ earlier
  · exact nofun

/-- The queues, the timers and the jobs of a batcher in every state that events, flushes, turns of
the loop and time lead to, whatever callbacks do. They are in step, but that an event waits without
a timer if none can be set for its window; of a key for which that never happens all that is told
agrees. A batch goes to its callback by the timer that is known for its key, and a timer that was
restarted, taken back or has run out has no job any more, then or later. -/
theorem timers_in_step (steps : List (Step κ ε τ ω)) :
    let loop := (start : Loop κ ε τ ω).reach steps
    InStep loop ∧
    (∀ key, (∀ step ∈ steps, Step.Sets key step) → Agrees key loop) ∧
    ((∀ key, ∀ step ∈ steps, Step.Sets key step) →
      (loop.batcher.timers.map (·.1)).Perm loop.batcher.pendingKeys ∧
        loop.batcher.timers.length = loop.batcher.size) ∧
    (∀ permit after, loop.turn? permit = some after →
      after.calls = loop.calls ∨ ∃ handle rest key callback, loop.agenda = handle :: rest ∧
        handle.job = .expire key callback ∧
        loop.batcher.timers.lookup key = some ⟨handle.ticket, handle.deadline⟩ ∧
        after.calls = loop.calls ++ [(key, loop.batcher.queue key)]) ∧
    ∀ key timer, loop.batcher.timers.lookup key = some timer →
      (∀ event window callback,
        (loop.add key event window callback).batcher.timers.lookup key ≠ some timer) ∧
      (∀ callback, (loop.flush callback).batcher.timers.lookup key ≠ some timer) ∧
      ∀ more, (loop.reach more).batcher.timers.lookup key ≠ some timer →
        ∀ later, ∀ handle ∈ ((loop.reach more).reach later).handles,
          handle.ticket ≠ timer.ticket := by
  intro loop
  have inStep : InStep loop := inStep_reach steps
  have registered : Registered loop := Registered.start.reach steps
  refine ⟨inStep, fun key sets => agrees_reach sets, fun sets => ?_,
    fun permit after turn => registered.calls_turn turn, fun key timer known => ?_⟩
  · have keys : (loop.batcher.timers.map (·.1)).Perm loop.batcher.pendingKeys := by
      refine (List.perm_ext_iff_of_nodup inStep.timers_nodup inStep.pendingKeys_nodup).2 fun key =>
        ?_
      rw [← Batcher.lookup_isSome_iff]
      exact (agrees_reach (sets key)).hasTimer_iff
    refine ⟨keys, ?_⟩
    rw [inStep.size, ← keys.length_eq, List.length_map]
  · exact ⟨registered.lookup_add_ne known, registered.lookup_flush_ne known,
      fun more forgotten later => registered.ne_ticket_reach known forgotten later⟩

/-- The callback of an event whose batch fails. -/
def failing : Callback String Nat τ String := .plain fun _ _ => ⟨[], .raised⟩

/-- A timer that was restarted has run out, its round has begun, and another key still waits. -/
def roundBegun : List (Step String Nat Rat String) :=
  [.add "A" 1 5 failing, .add "A" 2 1 failing, .add "B" 3 5 failing, .pass 60, .turn false]

theorem timers_in_step_roundBegun :
    let loop := (start : Loop String Nat Rat String).reach roundBegun
    (∀ key, ∀ step ∈ roundBegun, Step.Sets key step) ∧ Agrees "A" loop ∧
    loop.batcher.timers.length = 2 ∧
    (∃ after, loop.turn? (fun _ _ => false) = some after ∧ ∃ handle ∈ loop.agenda,
      loop.batcher.timers.lookup "A" = some ⟨handle.ticket, handle.deadline⟩ ∧
        after.calls = [("A", [1, 2])]) ∧
    ∃ timer, loop.batcher.timers.lookup "A" = some timer ∧
      ∀ handle ∈ ((loop.reach [.flush failing]).reach [.add "A" 4 5 failing, .turn true]).handles,
        handle.ticket ≠ timer.ticket := by
  intro loop
  have sets (key : String) : ∀ step ∈ roundBegun, Step.Sets key step :=
    fun step _ => step.within_of_forall fun _ _ _ => rfl
  obtain ⟨-, agrees, same, turns, timers⟩ := timers_in_step roundBegun
  refine ⟨sets, agrees "A" (sets "A"), ?_, ?_, ?_⟩
  · rw [(same sets).2]
    decide +kernel
  · obtain ⟨after, turn⟩ := Option.isSome_iff_exists.1
      (show (loop.turn? fun _ _ => false).isSome = true by decide +kernel)
    have calls : (loop.turn? fun _ _ => false).map (·.calls) = some [("A", [1, 2])] := by
      decide +kernel
    have quiet : loop.calls = [] := by decide +kernel
    rw [turn, Option.map_some, Option.some.injEq] at calls
    rcases turns _ after turn with same | ⟨handle, rest, key, callback, agenda, -, known, called⟩
    · rw [calls, quiet] at same
      contradiction
    · rw [calls, quiet, List.nil_append] at called
      injection called with called
      injection called with own
      refine ⟨after, turn, handle, ?_, own ▸ known, calls⟩
      rw [agenda]
      exact List.mem_cons_self
  · obtain ⟨timer, known⟩ := Option.isSome_iff_exists.1
      (show (loop.batcher.timers.lookup "A").isSome = true by decide +kernel)
    obtain ⟨-, flushed, gone⟩ := timers "A" timer known
    exact ⟨timer, known, gone [.flush failing] (flushed failing) _⟩

open Number in
/-- A whole number of minutes that is too large for a double. -/
def endless : List (Step String Nat Quantity String) :=
  [.add "A" 1 (.whole 5) failing, .add "A" 2 (.whole (10 ^ 400)) failing]

/-- The second event waits without a timer, and so does the first, whose own timer is gone. -/
theorem endless_untimed :
    let loop := (start : Loop String Nat Number.Quantity String).reach endless
    loop.batcher.pendingKeys = ["A"] ∧ loop.batcher.queue "A" = [1, 2] ∧
      loop.batcher.hasTimer "A" = false ∧ (loop.batcher.deadline? "A").isNone = true ∧
      (loop.expiries "A").length = 0 := by
  decide +kernel

end Loop

end MarketAlerts.Delivery
