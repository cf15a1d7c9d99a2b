import MarketAlerts.Delivery.Batch

/-!
The work that a loop still has before it: batches that may come, then steps of deliveries, then jobs
that are in no round yet. An operation adds no more than the share of the job it makes, and running
a job uses its share up.
-/
namespace MarketAlerts.Delivery

variable {κ ε τ ω : Type}

namespace Job

/-- Batches that a job can still give rise to. -/
def depth : Job κ ε τ ω → Nat
  | expire _ callback => callback.depth
  | _ => 0

/-- Steps that a delivery still has to take. -/
def steps : Job κ ε τ ω → Nat
  | expire _ _ => 0
  | wake task => 2 * task.actions.length + 2
  | resume task => 2 * task.actions.length + 1

end Job

namespace Loop

/-- Adds up a measure over jobs. -/
def total (measure : Job κ ε τ ω → Nat) : List (Handle κ ε τ ω) → Nat
  | [] => 0
  | handle :: rest => measure handle.job + total measure rest

/-- Batches to come, then steps to come, then jobs not yet in a round. -/
def effort (loop : Loop κ ε τ ω) : Nat × Nat × Nat :=
  (total Job.depth loop.handles, total Job.steps loop.handles,
    loop.ready.length + loop.scheduled.length)

@[simp] theorem total_nil (f : Job κ ε τ ω → Nat) : total f [] = 0 := rfl

@[simp] theorem total_cons (f : Job κ ε τ ω → Nat) (h : Handle κ ε τ ω)
    (rest : List (Handle κ ε τ ω)) : total f (h :: rest) = f h.job + total f rest := rfl

@[simp] theorem total_append (f : Job κ ε τ ω → Nat) (a b : List (Handle κ ε τ ω)) :
    total f (a ++ b) = total f a + total f b := by
  induction a with
  | nil => simp
  | cons h rest ih => simp [ih, Nat.add_assoc]

theorem total_perm (f : Job κ ε τ ω → Nat) {a b : List (Handle κ ε τ ω)} (h : a.Perm b) :
    total f a = total f b := by
  induction h with
  | nil => rfl
  | cons h _ ih => rw [total_cons, total_cons, ih]
  | swap h h' rest => simp only [total_cons]; omega
  | trans _ _ ih ih' => exact ih.trans ih'

theorem total_filter_le (f : Job κ ε τ ω → Nat) (p : Handle κ ε τ ω → Bool)
    (handles : List (Handle κ ε τ ω)) : total f (handles.filter p) ≤ total f handles := by
  induction handles with
  | nil => simp
  | cons h rest ih =>
    by_cases hp : p h <;> simp [hp, total_cons] <;> omega

theorem total_split (f : Job κ ε τ ω → Nat) (p : Handle κ ε τ ω → Bool)
    (handles : List (Handle κ ε τ ω)) :
    total f (handles.filter p) + total f (handles.filter (!p ·)) = total f handles := by
  induction handles with
  | nil => rfl
  | cons h rest ih =>
    by_cases hp : p h <;> simp [hp, total_cons] <;> omega

theorem length_filter_not_lt (p : Handle κ ε τ ω → Bool) {handles : List (Handle κ ε τ ω)}
    (h : handles.any p) : (handles.filter (!p ·)).length < handles.length := by
  apply List.length_filter_lt_length_iff_exists.2
  simpa using h

theorem total_handles_cancel_le (f : Job κ ε τ ω → Nat) (loop : Loop κ ε τ ω) (ticket : Nat) :
    total f (loop.cancel ticket).handles ≤ total f loop.handles := by
  have ha := total_filter_le f (·.ticket != ticket) loop.agenda
  have hs := total_filter_le f (·.ticket != ticket) loop.scheduled
  simp only [handles, cancel, total_append]
  omega

theorem depth_settleOutcome (loop : Loop κ ε τ ω) (key : κ) (outcome : Outcome τ ω) :
    total Job.depth (loop.settleOutcome key outcome).handles = total Job.depth loop.handles := by
  cases outcome <;> simp [settleOutcome, note, spawn, soon, handles, Job.depth]

theorem length_untilPause (actions : List (Action τ ω)) {seconds : τ} {rest : List (Action τ ω)}
    (h : (untilPause actions).2 = some (seconds, rest)) : rest.length < actions.length := by
  induction actions with
  | nil => simp [untilPause] at h
  | cons action actions ih =>
    cases action with
    | pause s => simp [untilPause] at h; simp [h.2]
    | emit output =>
      have := ih (by simpa [untilPause] using h)
      simp; omega

section Clock

variable [Timescale τ]

theorem resume_effort (loop : Loop κ ε τ ω) (task : Task κ τ ω) :
    total Job.depth (loop.resume task).handles = total Job.depth loop.handles ∧
      total Job.steps (loop.resume task).handles
        < total Job.steps loop.handles + (2 * task.actions.length + 1) := by
  unfold resume
  simp only
  split
  · next seconds rest h =>
    have hlen := length_untilPause task.actions h
    split <;>
      simp [arm, soon, emitAll, handles, Job.depth, Job.steps] <;> omega
  · split <;> simp [note, emitAll, handles]

end Clock

variable [DecidableEq κ]

theorem total_handles_dropTimer_le (f : Job κ ε τ ω → Nat) (loop : Loop κ ε τ ω) (key : κ) :
    total f (loop.dropTimer key).handles ≤ total f loop.handles := by
  unfold dropTimer
  split
  · exact total_handles_cancel_le f loop _
  · exact Nat.le_refl _

variable [Timescale τ]

theorem depth_add_le (loop : Loop κ ε τ ω) (key : κ) (event : ε) (window : τ)
    (callback : Callback κ ε τ ω) :
    total Job.depth (loop.add key event window callback).handles
      ≤ total Job.depth loop.handles + callback.depth := by
  have h := total_handles_dropTimer_le Job.depth loop key
  unfold add
  split <;>
    simp only [handles, note, arm, total_append, total_cons, total_nil, Job.depth] at h ⊢ <;>
    omega

theorem depth_invoke_lt (loop : Loop κ ε τ ω) (callback : Callback κ ε τ ω) (key : κ)
    (events : List ε) :
    total Job.depth (loop.invoke callback key events).handles
      < total Job.depth loop.handles + callback.depth := by
  cases callback with
  | plain reply =>
    simp only [invoke, depth_settleOutcome]
    simp [note, emitAll, handles, Callback.depth]
  | requeue reply other event window next =>
    simp only [invoke, depth_settleOutcome]
    refine Nat.lt_of_le_of_lt (depth_add_le _ other event window next) ?_
    simp [note, emitAll, handles, Callback.depth]

theorem depth_expire_lt (loop : Loop κ ε τ ω) (key : κ) (callback : Callback κ ε τ ω) :
    total Job.depth (loop.expire key callback).handles
      < total Job.depth loop.handles + callback.depth := by
  have pos : 0 < callback.depth := by cases callback <;> simp [Callback.depth]
  unfold expire
  simp only
  split
  · simp only [handles]; omega
  · exact depth_invoke_lt _ callback key _

end Loop

end MarketAlerts.Delivery
