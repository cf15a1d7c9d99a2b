import Mathlib.Data.List.Nodup
import MarketAlerts.Proofs.Delivery.Conservation

/-!
The timers that a batcher knows and the jobs of its loop. Every timer known has one job that is
still to run, and that job alone hands over the batch of its key; so a timer that was taken back or
restarted hands over nothing.
-/
namespace MarketAlerts.Delivery.Loop

variable {κ ε τ ω : Type}

/-- Each ticket is given to one job, and the jobs that hand batches over are those of the timers
known. -/
structure Registered [DecidableEq κ] (loop : Loop κ ε τ ω) : Prop where
  fresh : ∀ handle ∈ loop.handles, handle.ticket < loop.nextTicket
  distinct : (loop.handles.map (·.ticket)).Nodup
  armed : ∀ {key timer}, loop.batcher.timers.lookup key = some timer →
    ∃ callback, ⟨timer.ticket, timer.deadline, .expire key callback⟩ ∈ loop.handles
  known : ∀ {handle key callback}, handle ∈ loop.handles → handle.job = .expire key callback →
    loop.batcher.timers.lookup key = some ⟨handle.ticket, handle.deadline⟩
  /-- Only deliveries are made ready. -/
  ready : ∀ handle ∈ loop.ready, ∀ key callback, handle.job ≠ .expire key callback

section Handles

variable {loop : Loop κ ε τ ω}

theorem mem_handles_cancel_of_ne {ticket : Nat} {handle : Handle κ ε τ ω}
    (h : handle ∈ loop.handles) (other : handle.ticket ≠ ticket) :
    handle ∈ (loop.cancel ticket).handles := by
  rw [mem_handles] at h ⊢
  simpa [cancel, other] using h

theorem cancelAll_eq (timers : List (κ × Timer τ)) (loop : Loop κ ε τ ω) :
    timers.foldl (fun loop (_, timer) => loop.cancel timer.ticket) loop =
      { loop with
        scheduled := loop.scheduled.filter fun handle => timers.all (handle.ticket != ·.2.ticket)
        agenda := loop.agenda.filter fun handle => timers.all (handle.ticket != ·.2.ticket) } := by
  induction timers generalizing loop with
  | nil => simp
  | cons entry rest ih =>
    rw [List.foldl_cons, ih]
    simp [cancel, List.filter_filter, Bool.and_comm]

end Handles

variable [DecidableEq κ]

theorem timers_dropTimer (loop : Loop κ ε τ ω) (key other : κ) :
    (loop.dropTimer key).batcher.timers.lookup other =
      if other = key then none else loop.batcher.timers.lookup other := by
  unfold dropTimer
  split
  · exact lookup_filter_ne _ key other
  · next absent =>
    split
    · next same => rw [same, absent]
    · rfl

namespace Registered

variable {loop : Loop κ ε τ ω}

theorem start [Timescale τ] : Registered (Loop.start : Loop κ ε τ ω) where
  fresh := fun _ absent => nomatch absent
  distinct := List.nodup_nil
  armed := fun absent => nomatch absent
  known := fun absent => nomatch absent
  ready := fun _ absent => nomatch absent

/-- A ticket tells a job from all others. -/
theorem eq_of_ticket (h : Registered loop) {a b : Handle κ ε τ ω} (left : a ∈ loop.handles)
    (right : b ∈ loop.handles) (same : a.ticket = b.ticket) : a = b :=
  List.inj_on_of_nodup_map h.distinct left right same

/-- No key has more than one job. -/
theorem eq_of_key (h : Registered loop) {a b : Handle κ ε τ ω} {key : κ}
    {callback callback' : Callback κ ε τ ω} (left : a ∈ loop.handles) (right : b ∈ loop.handles)
    (job : a.job = .expire key callback) (job' : b.job = .expire key callback') : a = b := by
  have same := (h.known left job).symm.trans (h.known right job')
  injection same with same
  injection same with ticket
  exact h.eq_of_ticket left right ticket

/-- A job of the present round is not among those that wait. -/
theorem not_mem_scheduled (h : Registered loop) {handle : Handle κ ε τ ω}
    (due : handle ∈ loop.agenda) : handle ∉ loop.scheduled :=
  fun waits =>
    (List.nodup_append.1 h.distinct.of_map).2.2 handle (List.mem_append_left _ due) handle
    waits rfl

/-- Jobs may change their order and leave the ready ones. -/
theorem of_perm (h : Registered loop) {other : Loop κ ε τ ω}
    (next : other.nextTicket = loop.nextTicket) (jobs : other.handles.Perm loop.handles)
    (timers : other.batcher.timers = loop.batcher.timers)
    (ready : ∀ handle ∈ other.ready, handle ∈ loop.ready) : Registered other where
  fresh := fun handle member => next ▸ h.fresh handle (jobs.mem_iff.1 member)
  distinct := (jobs.map _).nodup_iff.2 h.distinct
  armed := by
    intro key timer found
    obtain ⟨callback, member⟩ := h.armed (timers ▸ found)
    exact ⟨callback, jobs.mem_iff.2 member⟩
  known := fun member job => timers ▸ h.known (jobs.mem_iff.1 member) job
  ready := fun handle member => h.ready handle (ready handle member)

theorem note (h : Registered loop) (what : Note κ ε τ ω) : Registered (loop.note what) :=
  h.of_perm rfl (.refl _) rfl fun _ member => member

theorem emitAll (h : Registered loop) (outputs : List ω) : Registered (loop.emitAll outputs) :=
  h.of_perm rfl (.refl _) rfl fun _ member => member

theorem setQueues (h : Registered loop) (queues : List (κ × List ε)) :
    Registered { loop with batcher := { loop.batcher with queues } } :=
  h.of_perm rfl (.refl _) rfl fun _ member => member

theorem nodup_append_next (h : Registered loop) (deadline : τ) (job : Job κ ε τ ω) :
    ((loop.handles ++ [(⟨loop.nextTicket, deadline, job⟩ : Handle κ ε τ ω)]).map
      (·.ticket)).Nodup := by
  rw [List.map_append]
  refine List.nodup_append.2 ⟨h.distinct, List.nodup_singleton _, ?_⟩
  intro ticket member next new
  obtain ⟨handle, old, rfl⟩ := List.mem_map.1 member
  rw [List.mem_singleton.1 new]
  exact Nat.ne_of_lt (h.fresh handle old)

/-- A delivery with the next ticket, armed or made ready. -/
theorem of_new (h : Registered loop) {more : Loop κ ε τ ω} {job : Job κ ε τ ω} {deadline : τ}
    (delivery : ∀ key callback, job ≠ .expire key callback)
    (next : more.nextTicket = loop.nextTicket + 1)
    (jobs : more.handles.Perm (loop.handles ++ [⟨loop.nextTicket, deadline, job⟩]))
    (timers : more.batcher.timers = loop.batcher.timers)
    (ready : ∀ handle ∈ more.ready, handle ∈ loop.ready ∨ handle.job = job) : Registered more where
  fresh := by
    intro handle member
    rcases List.mem_append.1 (jobs.mem_iff.1 member) with old | new
    · exact next ▸ Nat.lt_succ_of_lt (h.fresh handle old)
    · rw [List.mem_singleton.1 new, next]
      exact Nat.lt_succ_self _
  distinct := (jobs.map _).nodup_iff.2 (h.nodup_append_next deadline job)
  armed := by
    intro key timer found
    obtain ⟨callback, member⟩ := h.armed (timers ▸ found)
    exact ⟨callback, jobs.mem_iff.2 (List.mem_append_left _ member)⟩
  known := by
    intro handle key callback member own
    rcases List.mem_append.1 (jobs.mem_iff.1 member) with old | new
    · exact timers ▸ h.known old own
    · rw [List.mem_singleton.1 new] at own
      exact absurd own (delivery key callback)
  ready := by
    intro handle member key callback own
    rcases ready handle member with old | rfl
    · exact h.ready handle old key callback own
    · exact delivery key callback own

theorem arm (h : Registered loop) (deadline : τ) {job : Job κ ε τ ω}
    (delivery : ∀ key callback, job ≠ .expire key callback) : Registered (loop.arm deadline job) :=
  h.of_new delivery rfl (.of_eq (handles_arm deadline job)) rfl fun _ member => .inl member

theorem soon (h : Registered loop) {job : Job κ ε τ ω}
    (delivery : ∀ key callback, job ≠ .expire key callback) : Registered (loop.soon job) := by
  refine h.of_new delivery rfl (handles_soon_perm job) rfl fun handle member => ?_
  rcases List.mem_append.1 member with old | new
  · exact .inl old
  · exact .inr (by rw [List.mem_singleton.1 new])

theorem settleOutcome (h : Registered loop) (key : κ) (outcome : Outcome τ ω) :
    Registered (loop.settleOutcome key outcome) := by
  cases outcome with
  | returned => exact h
  | raised => exact h.note _
  | awaiting actions fails => exact h.soon fun _ _ job => nomatch job

/-- A key without a timer gets one, with its job. -/
theorem of_timer (h : Registered loop) {more : Loop κ ε τ ω} {key : κ}
    {deadline : τ} (callback : Callback κ ε τ ω) (absent : loop.batcher.timers.lookup key = none)
    (next : more.nextTicket = loop.nextTicket + 1)
    (jobs : more.handles = loop.handles ++ [⟨loop.nextTicket, deadline, .expire key callback⟩])
    (timers : more.batcher.timers = loop.batcher.timers ++ [(key, ⟨loop.nextTicket, deadline⟩)])
    (ready : more.ready = loop.ready) : Registered more := by
  have lookup (other : κ) : more.batcher.timers.lookup other =
      if other = key then some ⟨loop.nextTicket, deadline⟩
        else loop.batcher.timers.lookup other := by
    rw [timers, List.lookup_append, lookup_cons_eq_ite]
    by_cases same : other = key <;> simp [same, absent]
  exact {
    fresh := by
      intro handle member
      rcases List.mem_append.1 (jobs ▸ member) with old | new
      · exact next ▸ Nat.lt_succ_of_lt (h.fresh handle old)
      · rw [List.mem_singleton.1 new, next]
        exact Nat.lt_succ_self _
    distinct := jobs ▸ h.nodup_append_next deadline (.expire key callback)
    armed := by
      intro other timer found
      rw [lookup] at found
      rw [jobs]
      split at found
      · next same =>
        obtain rfl := Option.some.inj found
        rw [same]
        exact ⟨callback, List.mem_append_right _ (List.mem_singleton_self _)⟩
      · obtain ⟨others, member⟩ := h.armed found
        exact ⟨others, List.mem_append_left _ member⟩
    known := by
      intro handle other others member own
      rw [lookup]
      rcases List.mem_append.1 (jobs ▸ member) with old | new
      · have apart : other ≠ key := by
          rintro rfl
          rw [h.known old own] at absent
          contradiction
        rw [if_neg apart]
        exact h.known old own
      · rw [List.mem_singleton.1 new] at own ⊢
        injection own with same
        rw [if_pos same.symm]
    ready := fun handle member => h.ready handle (ready ▸ member) }

/-- The job of a key's timer goes with the timer. -/
theorem dropTimer (h : Registered loop) (key : κ) : Registered (loop.dropTimer key) := by
  have lookup := timers_dropTimer loop key
  unfold Loop.dropTimer at lookup ⊢
  split
  case h_2 => exact h
  case h_1 timer found =>
  rw [found] at lookup
  dsimp only at lookup
  exact {
    fresh := fun handle member => h.fresh handle (mem_handles_cancel member)
    distinct := h.distinct.sublist ((handles_cancel_sublist timer.ticket).map _)
    armed := by
      intro other timer' found'
      rw [lookup] at found'
      split at found'
      · contradiction
      next apart =>
      obtain ⟨callback, member⟩ := h.armed found'
      refine ⟨callback, mem_handles_cancel_of_ne member fun same => ?_⟩
      obtain ⟨own, registered⟩ := h.armed found
      have job := congrArg (·.job) (h.eq_of_ticket member registered same)
      exact apart (by injection job)
    known := by
      intro handle other callback member own
      have old := mem_handles_cancel member
      have entry := h.known old own
      rw [lookup]
      split
      · next same =>
        -- The key has one timer, and its job was taken back.
        rw [same, found] at entry
        obtain rfl := Option.some.inj entry
        rcases mem_handles.1 member with agenda | ready | scheduled
        · simpa using (List.mem_filter.1 agenda).2
        · exact absurd own (h.ready handle ready _ _)
        · simpa using (List.mem_filter.1 scheduled).2
      · exact entry
    ready := h.ready }

/-- A timer that is taken up leaves the batcher. -/
theorem takeUpTimer (h : Registered loop) {handle : Handle κ ε τ ω} {rest : List (Handle κ ε τ ω)}
    (agenda : loop.agenda = handle :: rest) {key : κ} {callback : Callback κ ε τ ω}
    (job : handle.job = .expire key callback) (queues : List (κ × List ε)) :
    Registered { loop with
      agenda := rest, batcher := ⟨queues, loop.batcher.timers.filter (·.1 ≠ key)⟩ } := by
  have handles := handles_takeUp agenda
  have distinct := h.distinct
  rw [handles, List.map_cons, List.nodup_cons] at distinct
  have first : handle ∈ loop.handles := handles ▸ List.mem_cons_self
  have old {other : Handle κ ε τ ω}
      (member : other ∈ ({ loop with agenda := rest } : Loop κ ε τ ω).handles) :
      other ∈ loop.handles := handles ▸ List.mem_cons_of_mem _ member
  exact {
    fresh := fun other member => h.fresh other (old member)
    distinct := distinct.2
    armed := by
      intro other timer found
      rw [lookup_filter_ne] at found
      split at found
      · contradiction
      next apart =>
      obtain ⟨others, member⟩ := h.armed found
      rw [handles] at member
      rcases List.mem_cons.1 member with rfl | later
      · injection job with same
        exact absurd same apart
      · exact ⟨others, later⟩
    known := by
      intro other key' callback' member own
      rw [lookup_filter_ne]
      have entry := h.known (old member) own
      split
      · next same =>
        rw [same, h.known first job] at entry
        injection entry with entry
        injection entry with ticket
        exact absurd (List.mem_map.2 ⟨other, member, ticket.symm⟩) distinct.1
      · exact entry
    ready := h.ready }

/-- A delivery that is taken up leaves the others. -/
theorem takeUp (h : Registered loop) {handle : Handle κ ε τ ω} {rest : List (Handle κ ε τ ω)}
    (agenda : loop.agenda = handle :: rest)
    (delivery : ∀ key callback, handle.job ≠ .expire key callback) :
    Registered { loop with agenda := rest } := by
  have handles := handles_takeUp agenda
  have old {other : Handle κ ε τ ω}
      (member : other ∈ ({ loop with agenda := rest } : Loop κ ε τ ω).handles) :
      other ∈ loop.handles := handles ▸ List.mem_cons_of_mem _ member
  have distinct := h.distinct
  rw [handles, List.map_cons, List.nodup_cons] at distinct
  exact {
    fresh := fun other member => h.fresh other (old member)
    distinct := distinct.2
    armed := by
      intro key timer found
      obtain ⟨callback, member⟩ := h.armed found
      rw [handles] at member
      rcases List.mem_cons.1 member with rfl | later
      · exact absurd rfl (delivery key callback)
      · exact ⟨callback, later⟩
    known := fun member own => h.known (old member) own
    ready := h.ready }

/-- With every timer taken back no job hands anything over any more. -/
theorem cleared (h : Registered loop) :
    Registered
      { loop.batcher.timers.foldl (fun loop (_, timer) => loop.cancel timer.ticket) loop with
      batcher := ⟨[], []⟩ } := by
  rw [cancelAll_eq]
  exact {
    fresh := by
      intro handle member
      apply h.fresh
      simp only [mem_handles, List.mem_filter] at member ⊢
      exact member.imp And.left (Or.imp_right And.left)
    distinct := by
      refine h.distinct.sublist (List.Sublist.map _ ?_)
      exact (List.filter_sublist.append (List.Sublist.refl _)).append List.filter_sublist
    armed := fun absent => nomatch absent
    known := by
      intro handle key callback member own
      -- The job's own timer is among those taken back.
      have gone (old : handle ∈ loop.handles) :
          loop.batcher.timers.all (handle.ticket != ·.2.ticket) ≠ true := by
        obtain ⟨before, after, timers, _⟩ := List.lookup_eq_some_iff.1 (h.known old own)
        simp [timers]
      rcases mem_handles.1 member with agenda | ready | scheduled
      · have ⟨old, kept⟩ := List.mem_filter.1 agenda
        exact absurd kept (gone (mem_handles.2 (.inl old)))
      · exact absurd own (h.ready handle ready key callback)
      · have ⟨old, kept⟩ := List.mem_filter.1 scheduled
        exact absurd kept (gone (mem_handles.2 (.inr (.inr old))))
    ready := h.ready }

variable [Timescale τ]

theorem resume (h : Registered loop) (task : Task κ τ ω) : Registered (loop.resume task) := by
  unfold Loop.resume
  dsimp only
  split
  · split
    · exact (h.emitAll _).arm _ fun _ _ job => nomatch job
    · exact (h.emitAll _).soon fun _ _ job => nomatch job
  · split
    · exact (h.emitAll _).note _
    · exact h.emitAll _

theorem add (h : Registered loop) (key : κ) (event : ε) (window : τ) (callback : Callback κ ε τ ω) :
    Registered (loop.add key event window callback) := by
  have dropped := (h.dropTimer key).note (.joined key event)
  have absent : ((loop.dropTimer key).note (.joined key event)).batcher.timers.lookup key =
      none := by
    rw [show ((loop.dropTimer key).note (.joined key event)).batcher = (loop.dropTimer key).batcher
      from rfl, timers_dropTimer, if_pos rfl]
  unfold Loop.add
  dsimp only
  split
  · apply Registered.note
    exact dropped.of_timer callback absent rfl (by simp [handles, Loop.arm]) rfl rfl
  · exact dropped.setQueues _

theorem invoke (h : Registered loop) (callback : Callback κ ε τ ω) (key : κ) (events : List ε) :
    Registered (loop.invoke callback key events) := by
  have said := (h.note (.called key events)).emitAll (callback.reply key events).outputs
  cases callback with
  | plain reply => exact said.settleOutcome key _
  | requeue reply other event window next =>
    exact (said.add other event window next).settleOutcome key _

theorem handsOver (callback : Callback κ ε τ ω) :
    HandsOver callback fun _ loop => Registered loop where
  skip := fun h => h
  invoke := fun _ h => h.invoke callback _ _
  note := fun _ h => h.note _

theorem flush (h : Registered loop) (callback : Callback κ ε τ ω) :
    Registered (loop.flush callback) :=
  (handsOver callback).flush h.cleared

theorem kept : Kept (Registered : Loop κ ε τ ω → Prop) where
  perform := by
    intro loop handle rest agenda h
    cases job : handle.job with
    | expire key callback =>
      have taken := h.takeUpTimer agenda job (loop.batcher.queues.filter (·.1 ≠ key))
      unfold perform expire
      dsimp only
      split
      · exact taken
      · exact taken.invoke callback key _
    | wake task =>
      have taken := h.takeUp agenda fun _ _ own => by rw [job] at own; contradiction
      exact taken.soon fun _ _ own => by cases own
    | resume task =>
      have taken := h.takeUp agenda fun _ _ own => by rw [job] at own; contradiction
      exact taken.resume task
  beginRound := fun clock runs done h =>
    h.of_perm rfl (handles_beginRound_perm clock runs done) rfl fun _ absent => nomatch absent
  setClock := fun _ h => h.of_perm rfl (.refl _) rfl fun _ member => member

end Registered

end MarketAlerts.Delivery.Loop
