import MarketAlerts.Proofs.Delivery.Jobs

/-!
What deliveries give out. An output is owed while its delivery is under way and is then emitted
once, so that jobs that run only move outputs from the one account to the other. A timer that is
taken back takes no output with it, since no delivery has the ticket of a timer.
-/
namespace MarketAlerts.Delivery

variable {κ ε τ ω α : Type}

def Action.output? : Action τ ω → Option ω
  | pause _ => none
  | emit output => some output

/-- The outputs among the steps of a delivery. -/
def said (actions : List (Action τ ω)) : List ω := actions.filterMap Action.output?

@[simp] theorem said_append (a b : List (Action τ ω)) : said (a ++ b) = said a ++ said b :=
  List.filterMap_append

@[simp] theorem said_emit (output : ω) (rest : List (Action τ ω)) :
    said (.emit output :: rest) = output :: said rest := rfl

/-- What is said before the next pause, then what is said after it. -/
theorem said_untilPause (actions : List (Action τ ω)) :
    said actions = (Loop.untilPause actions).1 ++
      (Loop.untilPause actions).2.elim [] fun left => said left.2 := by
  induction actions with
  | nil => rfl
  | cons action rest ih =>
    cases action with
    | pause seconds => rfl
    | emit output => rw [said_emit, ih]; rfl

/-- The outputs that a job has still to give. -/
def Job.owed : Job κ ε τ ω → List ω
  | expire _ _ => []
  | wake task => said task.actions
  | resume task => said task.actions

def owedBy (handles : List (Handle κ ε τ ω)) : List ω :=
  handles.flatMap fun handle => handle.job.owed

@[simp] theorem owedBy_nil : owedBy ([] : List (Handle κ ε τ ω)) = [] := rfl

@[simp] theorem owedBy_append (a b : List (Handle κ ε τ ω)) :
    owedBy (a ++ b) = owedBy a ++ owedBy b :=
  List.flatMap_append

theorem owedBy_cons (handle : Handle κ ε τ ω) (rest : List (Handle κ ε τ ω)) :
    owedBy (handle :: rest) = handle.job.owed ++ owedBy rest :=
  List.flatMap_cons

/-- Jobs that owe nothing may be left out. -/
theorem owedBy_filter {handles : List (Handle κ ε τ ω)} {p : Handle κ ε τ ω → Bool}
    (h : ∀ handle ∈ handles, p handle = false → handle.job.owed = []) :
    owedBy (handles.filter p) = owedBy handles := by
  induction handles with
  | nil => rfl
  | cons handle rest ih =>
    have later := ih fun other member => h other (List.mem_cons_of_mem _ member)
    cases keep : p handle with
    | true => rw [List.filter_cons_of_pos keep, owedBy_cons, owedBy_cons, later]
    | false =>
      have nothing := h handle List.mem_cons_self keep
      rw [List.filter_cons_of_neg (by simp [keep]), owedBy_cons, nothing, List.nil_append, later]

/-- A choice among outputs that finds nothing in any job finds nothing in them all. -/
theorem filterMap_owedBy_eq_nil {f : ω → Option α} {handles : List (Handle κ ε τ ω)}
    (h : ∀ handle ∈ handles, handle.job.owed.filterMap f = []) :
    (owedBy handles).filterMap f = [] := by
  rw [owedBy, List.filterMap_flatMap]
  exact List.flatMap_eq_nil_iff.2 h

namespace Loop

def emitted (loop : Loop κ ε τ ω) : List ω :=
  loop.journal.filterMap fun
    | (_, .emitted output) => some output
    | _ => none

/-- Outputs emitted, those of a job in hand, and those still owed. -/
def told (inHand : List ω) (loop : Loop κ ε τ ω) : List ω :=
  loop.emitted ++ inHand ++ owedBy loop.handles

@[simp] theorem emitted_emitAll (loop : Loop κ ε τ ω) (outputs : List ω) :
    (loop.emitAll outputs).emitted = loop.emitted ++ outputs := by
  unfold emitted emitAll
  rw [List.filterMap_append, List.filterMap_map]
  exact congrArg _ List.filterMap_some

theorem emitted_note (loop : Loop κ ε τ ω) {what : Note κ ε τ ω}
    (h : ∀ output, what ≠ .emitted output) : (loop.note what).emitted = loop.emitted := by
  cases what with
  | emitted output => exact absurd rfl (h output)
  | _ => simp [emitted, note]

theorem told_note (inHand : List ω) (loop : Loop κ ε τ ω) {what : Note κ ε τ ω}
    (h : ∀ output, what ≠ .emitted output) : (loop.note what).told inHand = loop.told inHand := by
  unfold told
  rw [emitted_note loop h]
  rfl

/-- What is in hand is emitted. -/
theorem told_emitAll (outputs left : List ω) (loop : Loop κ ε τ ω) :
    (loop.emitAll outputs).told left = loop.told (outputs ++ left) := by
  unfold told
  rw [emitted_emitAll, List.append_assoc loop.emitted]
  rfl

/-- The outputs of a job that is taken up are in hand. -/
theorem told_takeUp {loop : Loop κ ε τ ω} {handle : Handle κ ε τ ω} {rest : List (Handle κ ε τ ω)}
    (agenda : loop.agenda = handle :: rest) :
    ({ loop with agenda := rest } : Loop κ ε τ ω).told handle.job.owed = loop.told [] := by
  unfold told
  rw [handles_takeUp agenda, owedBy_cons, List.append_nil, List.append_assoc]
  rfl

theorem told_arm (loop : Loop κ ε τ ω) (deadline : τ) (job : Job κ ε τ ω) :
    (loop.arm deadline job).told [] = loop.told [] ++ job.owed := by
  simp [told, arm, handles, emitted, owedBy]

theorem told_soon_perm (loop : Loop κ ε τ ω) (job : Job κ ε τ ω) :
    ((loop.soon job).told []).Perm (loop.told [] ++ job.owed) := by
  have swap : (job.owed ++ owedBy loop.scheduled).Perm (owedBy loop.scheduled ++ job.owed) :=
    List.perm_append_comm
  simp only [told, soon, handles, emitted, owedBy_append, owedBy_cons, owedBy_nil, List.append_nil,
    List.append_assoc]
  exact ((swap.append_left _).append_left _).append_left _

/-- A job of the next round comes before those that wait for a deadline, which does not show in
outputs that those do not owe. -/
theorem filterMap_told_soon {f : ω → Option α} {loop : Loop κ ε τ ω} (job : Job κ ε τ ω)
    (waiting : ∀ handle ∈ loop.scheduled, handle.job.owed.filterMap f = []) :
    ((loop.soon job).told []).filterMap f = (loop.told []).filterMap f ++ job.owed.filterMap f := by
  have silent := filterMap_owedBy_eq_nil waiting
  simp [told, soon, handles, emitted, owedBy_cons, silent]

/-- A new round puts jobs in another order. -/
theorem told_beginRound_perm [Timescale τ] {loop : Loop κ ε τ ω} (clock : τ)
    (runs : Handle κ ε τ ω → Bool) (done : loop.agenda = []) :
    ((loop.beginRound clock runs).told []).Perm (loop.told []) :=
  ((handles_beginRound_perm clock runs done).flatMap_right _).append_left _

theorem filterMap_told_beginRound [Timescale τ] {f : ω → Option α} {loop : Loop κ ε τ ω} (clock : τ)
    (runs : Handle κ ε τ ω → Bool) (done : loop.agenda = [])
    (waiting : ∀ handle ∈ loop.scheduled, handle.job.owed.filterMap f = []) :
    ((loop.beginRound clock runs).told []).filterMap f = (loop.told []).filterMap f := by
  have silent := filterMap_owedBy_eq_nil waiting
  have due : (owedBy (byDeadline (loop.scheduled.filter runs))).filterMap f = [] := by
    apply filterMap_owedBy_eq_nil
    intro handle member
    rw [byDeadline, (List.mergeSort_perm _ _).mem_iff] at member
    exact waiting handle (List.mem_filter.1 member).1
  have rest : (owedBy (loop.scheduled.filter (!runs ·))).filterMap f = [] :=
    filterMap_owedBy_eq_nil fun handle member => waiting handle (List.mem_filter.1 member).1
  simp [told, beginRound, handles, emitted, done, silent, due, rest]

/-- Tickets are given once, and no delivery has the ticket of a batch's timer. -/
structure Ticketed (loop : Loop κ ε τ ω) : Prop where
  jobs : ∀ handle ∈ loop.handles, handle.ticket < loop.nextTicket
  timers : ∀ entry ∈ loop.batcher.timers, entry.2.ticket < loop.nextTicket
  apart : ∀ handle ∈ loop.handles, ∀ entry ∈ loop.batcher.timers,
    handle.ticket = entry.2.ticket → handle.job.owed = []

namespace Ticketed

variable {loop : Loop κ ε τ ω}

/-- Jobs and timers may be given up. -/
theorem of_subset (h : Ticketed loop) {fewer : Loop κ ε τ ω}
    (next : fewer.nextTicket = loop.nextTicket)
    (jobs : ∀ handle ∈ fewer.handles, handle ∈ loop.handles)
    (timers : ∀ entry ∈ fewer.batcher.timers, entry ∈ loop.batcher.timers) : Ticketed fewer where
  jobs := fun handle member => next ▸ h.jobs handle (jobs handle member)
  timers := fun entry member => next ▸ h.timers entry (timers entry member)
  apart := fun handle member entry timer =>
    h.apart handle (jobs handle member) entry (timers entry timer)

theorem of_same (h : Ticketed loop) {other : Loop κ ε τ ω}
    (next : other.nextTicket = loop.nextTicket) (jobs : other.handles = loop.handles)
    (timers : other.batcher.timers = loop.batcher.timers) : Ticketed other := by
  apply h.of_subset next
  · simp [jobs]
  · simp [timers]

/-- A job with the next ticket, armed or made ready. -/
theorem of_new (h : Ticketed loop) {more : Loop κ ε τ ω} {job : Job κ ε τ ω} {deadline : τ}
    (next : more.nextTicket = loop.nextTicket + 1)
    (jobs : ∀ handle ∈ more.handles, handle ∈ loop.handles ∨
    handle = ⟨loop.nextTicket, deadline, job⟩)
    (timers : more.batcher.timers = loop.batcher.timers) : Ticketed more where
  jobs := by
    intro handle member
    rcases jobs handle member with old | rfl
    · exact next ▸ Nat.lt_succ_of_lt (h.jobs handle old)
    · exact next ▸ Nat.lt_succ_self _
  timers := by
    intro entry member
    exact next ▸ Nat.lt_succ_of_lt (h.timers entry (timers ▸ member))
  apart := by
    intro handle member entry timer same
    rcases jobs handle member with old | rfl
    · exact h.apart handle old entry (timers ▸ timer) same
    · exact absurd same (Nat.ne_of_gt (h.timers entry (timers ▸ timer)))

theorem arm (h : Ticketed loop) (deadline : τ) (job : Job κ ε τ ω) :
    Ticketed (loop.arm deadline job) :=
  h.of_new rfl (fun _ => mem_handles_arm.1) rfl

theorem soon (h : Ticketed loop) (job : Job κ ε τ ω) : Ticketed (loop.soon job) :=
  h.of_new rfl (fun _ => mem_handles_soon.1) rfl

/-- The timer of a batch with its job. -/
theorem armTimer (h : Ticketed loop) (key : κ) (callback : Callback κ ε τ ω) (deadline : τ)
    (queues : List (κ × List ε)) :
    Ticketed { loop.arm deadline (.expire key callback) with
      batcher := ⟨queues, loop.batcher.timers ++ [(key, ⟨loop.nextTicket, deadline⟩)]⟩ } where
  jobs := (h.arm deadline (.expire key callback)).jobs
  timers := by
    intro entry member
    rcases List.mem_append.1 member with old | new
    · exact Nat.lt_succ_of_lt (h.timers entry old)
    · rw [List.mem_singleton.1 new]
      exact Nat.lt_succ_self _
  apart := by
    intro handle member entry timer same
    have armed : handle ∈ (loop.arm deadline (.expire key callback)).handles := member
    rcases mem_handles_arm.1 armed with old | rfl
    · rcases List.mem_append.1 timer with before | new
      · exact h.apart handle old entry before same
      · rw [List.mem_singleton.1 new] at same
        exact absurd same (Nat.ne_of_lt (h.jobs handle old))
    · -- The new timer and the new job share a ticket, and that job owes nothing.
      rfl

theorem cancel (h : Ticketed loop) (ticket : Nat) : Ticketed (loop.cancel ticket) :=
  h.of_subset rfl (fun _ => mem_handles_cancel) fun _ member => member

end Ticketed

/-- Taking back the timer of a batch takes back no delivery. -/
theorem told_cancel {loop : Loop κ ε τ ω} (h : Ticketed loop) {entry : κ × Timer τ}
    (timer : entry ∈ loop.batcher.timers) (inHand : List ω) :
    (loop.cancel entry.2.ticket).told inHand = loop.told inHand := by
  have idle : ∀ handle ∈ loop.handles, (handle.ticket != entry.2.ticket) = false →
      handle.job.owed = [] := by
    intro handle member same
    exact h.apart handle member entry timer (by simpa using same)
  have agenda : owedBy (loop.agenda.filter (·.ticket != entry.2.ticket)) = owedBy loop.agenda :=
    owedBy_filter fun handle member => idle handle (mem_handles.2 (.inl member))
  have scheduled : owedBy (loop.scheduled.filter (·.ticket != entry.2.ticket)) =
      owedBy loop.scheduled :=
    owedBy_filter fun handle member => idle handle (mem_handles.2 (.inr (.inr member)))
  simp only [told, cancel, handles, emitted, owedBy_append, agenda, scheduled]

end Loop

end MarketAlerts.Delivery
