import MarketAlerts.Proofs.Delivery.Turns

/-!
Rules for the jobs of a loop. A rule that passes from a job to the jobs it gives rise to holds of
everything the loop will ever run, if it holds of what the loop is given.
-/
namespace MarketAlerts.Delivery

variable {κ ε τ ω : Type}

/-- A rule that passes from every job to those that it gives rise to. -/
structure Job.Hereditary (R : Job κ ε τ ω → Prop) : Prop where
  wake : ∀ {task}, R (.wake task) → R (.resume task)
  pause : ∀ {task seconds rest}, R (.resume task) →
    (Loop.untilPause task.actions).2 = some (seconds, rest) →
      R (.wake { task with actions := rest }) ∧ R (.resume { task with actions := rest })
  start : ∀ {key callback events actions fails}, R (.expire key callback) →
    (callback.reply key events).outcome = .awaiting actions fails →
      R (.resume ⟨.batch, key, actions, fails⟩)
  requeue : ∀ {key reply other event window next},
    R (.expire key (.requeue reply other event window next)) → R (.expire other next)

namespace Loop

def Follows (R : Job κ ε τ ω → Prop) (loop : Loop κ ε τ ω) : Prop :=
  ∀ handle ∈ loop.handles, R handle.job

variable {R : Job κ ε τ ω → Prop} {loop : Loop κ ε τ ω}

theorem mem_handles {handle : Handle κ ε τ ω} :
    handle ∈ loop.handles ↔
      handle ∈ loop.agenda ∨ handle ∈ loop.ready ∨ handle ∈ loop.scheduled := by
  simp [handles]

theorem handles_arm (deadline : τ) (job : Job κ ε τ ω) :
    (loop.arm deadline job).handles = loop.handles ++ [⟨loop.nextTicket, deadline, job⟩] := by
  simp [handles, arm]

theorem handles_soon_perm (job : Job κ ε τ ω) :
    (loop.soon job).handles.Perm (loop.handles ++ [⟨loop.nextTicket, loop.clock, job⟩]) := by
  simp only [handles, soon, List.append_assoc]
  exact (List.perm_append_comm.append_left _).append_left _

theorem handles_beginRound_perm [Timescale τ] (clock : τ) (runs : Handle κ ε τ ω → Bool)
    (done : loop.agenda = []) : (loop.beginRound clock runs).handles.Perm loop.handles := by
  have due : (byDeadline (loop.scheduled.filter runs) ++ loop.scheduled.filter (!runs ·)).Perm
      loop.scheduled :=
    ((List.mergeSort_perm _ _).append_right _).trans (List.filter_append_perm runs loop.scheduled)
  simp only [handles, beginRound, done, List.nil_append, List.append_nil, List.append_assoc]
  exact due.append_left _

theorem handles_takeUp {handle : Handle κ ε τ ω} {rest : List (Handle κ ε τ ω)}
    (agenda : loop.agenda = handle :: rest) :
    loop.handles = handle :: ({ loop with agenda := rest } : Loop κ ε τ ω).handles := by
  simp [handles, agenda]

/-- Taking up the next job of the round leaves the others. -/
theorem mem_handles_takeUp {next handle : Handle κ ε τ ω} {rest : List (Handle κ ε τ ω)}
    (agenda : loop.agenda = next :: rest)
    (h : handle ∈ ({ loop with agenda := rest } : Loop κ ε τ ω).handles) :
    handle ∈ loop.handles := by
  rw [handles_takeUp agenda]
  exact List.mem_cons_of_mem next h

theorem handles_cancel_sublist (ticket : Nat) : (loop.cancel ticket).handles.Sublist loop.handles :=
  (List.filter_sublist.append (List.Sublist.refl _)).append List.filter_sublist

theorem mem_handles_cancel {ticket : Nat} {handle : Handle κ ε τ ω}
    (h : handle ∈ (loop.cancel ticket).handles) : handle ∈ loop.handles :=
  (handles_cancel_sublist ticket).subset h

theorem mem_handles_arm {deadline : τ} {job : Job κ ε τ ω} {handle : Handle κ ε τ ω} :
    handle ∈ (loop.arm deadline job).handles ↔
      handle ∈ loop.handles ∨ handle = ⟨loop.nextTicket, deadline, job⟩ := by
  simp [handles_arm]

theorem mem_handles_soon {job : Job κ ε τ ω} {handle : Handle κ ε τ ω} :
    handle ∈ (loop.soon job).handles ↔
      handle ∈ loop.handles ∨ handle = ⟨loop.nextTicket, loop.clock, job⟩ := by
  simp [(handles_soon_perm job).mem_iff]

theorem mem_handles_beginRound [Timescale τ] {clock : τ} {runs : Handle κ ε τ ω → Bool}
    {handle : Handle κ ε τ ω} (done : loop.agenda = []) :
    handle ∈ (loop.beginRound clock runs).handles ↔ handle ∈ loop.handles :=
  (handles_beginRound_perm clock runs done).mem_iff

theorem Follows.next {next : Handle κ ε τ ω} {rest : List (Handle κ ε τ ω)} (h : Follows R loop)
    (agenda : loop.agenda = next :: rest) : R next.job := by
  apply h
  simp [mem_handles, agenda]

theorem Follows.arm (h : Follows R loop) {deadline : τ} {job : Job κ ε τ ω} (new : R job) :
    Follows R (loop.arm deadline job) := by
  intro handle member
  rcases mem_handles_arm.1 member with old | rfl
  · exact h handle old
  · exact new

theorem Follows.soon (h : Follows R loop) {job : Job κ ε τ ω} (new : R job) :
    Follows R (loop.soon job) := by
  intro handle member
  rcases mem_handles_soon.1 member with old | rfl
  · exact h handle old
  · exact new

theorem Follows.cancel (h : Follows R loop) (ticket : Nat) : Follows R (loop.cancel ticket) :=
  fun handle member => h handle (mem_handles_cancel member)

theorem Follows.settleOutcome (h : Follows R loop) {key : κ} {outcome : Outcome τ ω}
    (start : ∀ actions fails, outcome = .awaiting actions fails →
      R (.resume ⟨.batch, key, actions, fails⟩)) :
    Follows R (loop.settleOutcome key outcome) := by
  cases outcome with
  | returned => exact h
  | raised => exact h
  | awaiting actions fails => exact h.soon (start actions fails rfl)

theorem Follows.dropTimer [DecidableEq κ] (h : Follows R loop) (key : κ) :
    Follows R (loop.dropTimer key) := by
  unfold Loop.dropTimer
  split
  · exact h.cancel _
  · exact h

section Clock

variable [Timescale τ]

theorem Follows.resume (rule : Job.Hereditary R) (h : Follows R loop) {task : Task κ τ ω}
    (own : R (.resume task)) : Follows R (loop.resume task) := by
  unfold Loop.resume
  dsimp only
  split
  · next seconds rest left =>
    obtain ⟨wake, resume⟩ := rule.pause own left
    have said : Follows R (loop.emitAll (untilPause task.actions).1) := h
    split
    · exact said.arm wake
    · exact said.soon resume
  · split <;> exact h

variable [DecidableEq κ]

theorem Follows.add (h : Follows R loop) {key : κ} {callback : Callback κ ε τ ω}
    (own : R (.expire key callback)) (event : ε) (window : τ) :
    Follows R (loop.add key event window callback) := by
  have noted : Follows R ((loop.dropTimer key).note (.joined key event)) := h.dropTimer key
  unfold Loop.add
  dsimp only
  split
  · exact noted.arm own
  · exact noted

theorem Follows.invoke (rule : Job.Hereditary R) (h : Follows R loop) {key : κ}
    {callback : Callback κ ε τ ω} (own : R (.expire key callback)) (events : List ε) :
    Follows R (loop.invoke callback key events) := by
  have said : Follows R
      ((loop.note (.called key events)).emitAll (callback.reply key events).outputs) := h
  cases callback with
  | plain reply => exact said.settleOutcome fun _ _ => rule.start own
  | requeue reply other event window next =>
    have added := said.add (rule.requeue own) event window
    refine added.settleOutcome fun actions fails awaiting => ?_
    split at awaiting
    · exact rule.start own awaiting
    · contradiction

theorem Follows.expire (rule : Job.Hereditary R) (h : Follows R loop) {key : κ}
    {callback : Callback κ ε τ ω} (own : R (.expire key callback)) :
    Follows R (loop.expire key callback) := by
  have taken : Follows R { loop with batcher :=
      ⟨loop.batcher.queues.filter (·.1 ≠ key), loop.batcher.timers.filter (·.1 ≠ key)⟩ } := h
  unfold Loop.expire
  dsimp only
  split
  · exact h
  · exact taken.invoke rule own _

theorem follows_flushed (rule : Job.Hereditary R) {callback : Callback κ ε τ ω}
    (own : ∀ key, R (.expire key callback)) :
    Flushed callback (Follows R) fun _ => Follows R where
  cancel := fun _ h => h.cancel _
  clear := fun h => h
  skip := fun h => h
  invoke := fun _ h => h.invoke rule (own _) _
  note := fun _ h => h

theorem Follows.perform (rule : Job.Hereditary R) (h : Follows R loop) {job : Job κ ε τ ω}
    (own : R job) : Follows R (loop.perform job) := by
  cases job with
  | expire key callback => exact h.expire rule own
  | wake task => exact h.soon (rule.wake own)
  | resume task => exact h.resume rule own

theorem follows_kept (rule : Job.Hereditary R) : Kept (Follows (κ := κ) R) where
  perform := by
    intro loop handle rest agenda h
    have others : Follows R { loop with agenda := rest } :=
      fun other member => h other (mem_handles_takeUp agenda member)
    exact others.perform rule (h.next agenda)
  beginRound := by
    intro loop clock runs done h handle member
    exact h handle ((mem_handles_beginRound done).1 member)
  setClock := fun _ h => h

end Clock

end Loop

end MarketAlerts.Delivery
