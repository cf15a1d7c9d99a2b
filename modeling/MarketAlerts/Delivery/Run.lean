import MarketAlerts.Delivery.Effort

/-!
Running the loop. A round first runs what was made ready, then the timers that are due, by deadline
and within one deadline in the order armed; what a round makes ready waits for the next. When
nothing is left to do the clock may be moved to the next deadline, if that is permitted. Every step
leaves less to do, so a run ends.
-/
namespace MarketAlerts.Delivery

variable {κ ε τ ω : Type} [Timescale τ]

namespace Loop

/-- By deadline, and in the order armed within one deadline. -/
def byDeadline (handles : List (Handle κ ε τ ω)) : List (Handle κ ε τ ω) :=
  handles.mergeSort fun a b => !Timescale.isBefore b.deadline a.deadline

theorem total_byDeadline (f : Job κ ε τ ω → Nat) (handles : List (Handle κ ε τ ω)) :
    total f (byDeadline handles) = total f handles :=
  total_perm f (List.mergeSort_perm handles _)

/-- The job that comes first, the one armed first among equals. -/
def next? : List (Handle κ ε τ ω) → Option (Handle κ ε τ ω)
  | [] => none
  | handle :: rest =>
    match next? rest with
    | none => some handle
    | some other =>
      if Timescale.isBefore other.deadline handle.deadline then some other else some handle

theorem next?_mem {handles : List (Handle κ ε τ ω)} {first : Handle κ ε τ ω}
    (h : next? handles = some first) : first ∈ handles := by
  induction handles generalizing first with
  | nil => simp [next?] at h
  | cons handle rest ih =>
    unfold next? at h
    split at h
    · simp_all
    · next other ho =>
      split at h
      · obtain rfl := Option.some.inj h
        exact List.mem_cons_of_mem _ (ih ho)
      · obtain rfl := Option.some.inj h
        exact List.mem_cons_self

/-- Whether nothing is ready and no timer is due. -/
def isIdle (loop : Loop κ ε τ ω) : Bool :=
  loop.ready.isEmpty && !loop.scheduled.any fun handle => Timescale.isDue handle.deadline loop.clock

/-- Begins a round at a time, with the timers that are to run in it. -/
def beginRound (loop : Loop κ ε τ ω) (clock : τ) (runs : Handle κ ε τ ω → Bool) : Loop κ ε τ ω :=
  { loop with
    clock
    agenda := loop.ready ++ byDeadline (loop.scheduled.filter runs)
    ready := []
    scheduled := loop.scheduled.filter (!runs ·) }

theorem total_handles_beginRound (f : Job κ ε τ ω → Nat) {loop : Loop κ ε τ ω} (clock : τ)
    (runs : Handle κ ε τ ω → Bool) (done : loop.agenda = []) :
    total f (loop.beginRound clock runs).handles = total f loop.handles := by
  have split := total_split f runs loop.scheduled
  simp only [handles, beginRound, done, total_append, total_byDeadline, total_nil]
  omega

/-- A round that takes something up leaves less to do. -/
theorem beginRound_effort {loop : Loop κ ε τ ω} (clock : τ) (runs : Handle κ ε τ ω → Bool)
    (done : loop.agenda = []) (busy : loop.ready ≠ [] ∨ loop.scheduled.any runs) :
    Prod.Lex (· < ·) (Prod.Lex (· < ·) (· < ·))
      (loop.beginRound clock runs).effort loop.effort := by
  have fewer :
      (loop.scheduled.filter (!runs ·)).length < loop.ready.length + loop.scheduled.length := by
    rcases busy with ready | timers
    · have := List.length_pos_iff.2 ready
      have := List.length_filter_le (!runs ·) loop.scheduled
      omega
    · have := length_filter_not_lt runs timers
      omega
  unfold effort
  rw [total_handles_beginRound _ clock runs done, total_handles_beginRound _ clock runs done]
  exact .right _ (.right _ (by simpa [beginRound] using fewer))

variable [DecidableEq κ]

def perform (loop : Loop κ ε τ ω) : Job κ ε τ ω → Loop κ ε τ ω
  | .expire key callback => loop.expire key callback
  | .wake task => loop.soon (.resume task)
  | .resume task => loop.resume task

/-- The measures of the jobs after one of the round has been done. -/
theorem perform_effort (loop : Loop κ ε τ ω) (job : Job κ ε τ ω) :
    total Job.depth (loop.perform job).handles < total Job.depth loop.handles + job.depth ∨
      (total Job.depth (loop.perform job).handles = total Job.depth loop.handles + job.depth ∧
        total Job.steps (loop.perform job).handles < total Job.steps loop.handles + job.steps) := by
  cases job with
  | expire key callback => exact .inl (depth_expire_lt loop key callback)
  | wake task =>
    right
    constructor
    · simp [perform, soon, handles, Job.depth]
    · simp [perform, soon, handles, Job.steps]; omega
  | resume task =>
    right
    have := resume_effort loop task
    simpa [perform, Job.depth, Job.steps] using this

/-- One step: the next job of the round, the next round, or a move of the clock. -/
def turn? (permit : Loop κ ε τ ω → τ → Bool) (loop : Loop κ ε τ ω) : Option (Loop κ ε τ ω) :=
  match loop.agenda with
  | handle :: rest => some ({ loop with agenda := rest }.perform handle.job)
  | [] =>
    if loop.isIdle then
      match next? loop.scheduled with
      | none => none
      | some first =>
        if permit loop first.deadline then
          some (loop.beginRound first.deadline fun handle =>
            Timescale.isDue handle.deadline first.deadline || handle.ticket == first.ticket)
        else none
    else some (loop.beginRound loop.clock fun handle => Timescale.isDue handle.deadline loop.clock)

theorem turn?_effort (permit : Loop κ ε τ ω → τ → Bool) {loop after : Loop κ ε τ ω}
    (h : loop.turn? permit = some after) :
    Prod.Lex (· < ·) (Prod.Lex (· < ·) (· < ·)) after.effort loop.effort := by
  unfold turn? at h
  split at h
  · next handle rest agenda =>
    obtain rfl := Option.some.inj h
    have split (f : Job κ ε τ ω → Nat) :
        total f loop.handles = total f { loop with agenda := rest }.handles + f handle.job := by
      simp only [handles, agenda, List.cons_append, total_cons]
      omega
    unfold effort
    rw [split, split]
    rcases perform_effort { loop with agenda := rest } handle.job with fewer | ⟨same, fewer⟩
    · exact .left _ _ fewer
    · rw [same]; exact .right _ (.left _ _ fewer)
  · next done =>
    split at h
    · split at h
      · simp at h
      · next first found =>
        split at h
        · obtain rfl := Option.some.inj h
          refine beginRound_effort _ _ done (.inr (List.any_eq_true.2 ⟨first, next?_mem found, ?_⟩))
          simp
        · simp at h
    · next busy =>
      obtain rfl := Option.some.inj h
      refine beginRound_effort _ _ done ?_
      simpa [isIdle, Classical.or_iff_not_imp_left] using busy

/-- Runs until nothing is left to do at the present time and the clock may not be moved. -/
def run (permit : Loop κ ε τ ω → τ → Bool) (loop : Loop κ ε τ ω) : Loop κ ε τ ω :=
  match _h : loop.turn? permit with
  | none => loop
  | some after => run permit after
termination_by loop.effort
decreasing_by exact turn?_effort permit _h

/-- Runs everything that is due at the present time. -/
def settle (loop : Loop κ ε τ ω) : Loop κ ε τ ω :=
  loop.run fun _ _ => false

/-- Moves the clock by a number of seconds and runs what falls due on the way. -/
def advance (loop : Loop κ ε τ ω) (seconds : τ) : Loop κ ε τ ω :=
  let limit := Timescale.after loop.clock seconds
  let before := loop.run fun _ deadline => Timescale.isUpTo deadline limit
  { before with clock := limit }.settle

/-- Moves the clock from deadline to deadline while a delivery of one of the origins is under
way. -/
def finish (loop : Loop κ ε τ ω) (origins : List Origin) : Loop κ ε τ ω :=
  loop.run fun loop _ => origins.any fun origin => loop.awaits origin

end Loop

end MarketAlerts.Delivery
