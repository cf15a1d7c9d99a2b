import MarketAlerts.Proofs.Delivery.Timers

/-!
A batcher in the middle of everything: events come in, all is flushed and timers run out in any
order, also while a round of the loop is half done. What each of these keeps, every interleaving
keeps. Of the jobs of an earlier state a later one has at most those that are left; all others are
new.
-/
namespace MarketAlerts.Delivery

variable {κ ε τ ω : Type}

/-- What can come next: an event, a flush, a turn of the loop, which may have to wait for the next
deadline, or time that goes by. -/
inductive Step (κ ε τ ω : Type)
  | add (key : κ) (event : ε) (window : τ) (callback : Callback κ ε τ ω)
  | flush (callback : Callback κ ε τ ω)
  | turn (mayWait : Bool)
  | pass (clock : τ)

namespace Loop

/-- No job of an earlier state comes back, and every other job has a new ticket. -/
structure Later (a b : Loop κ ε τ ω) : Prop where
  next : a.nextTicket ≤ b.nextTicket
  jobs : ∀ handle ∈ b.handles, handle ∈ a.handles ∨ a.nextTicket ≤ handle.ticket

namespace Later

variable {a b c loop : Loop κ ε τ ω}

theorem refl (loop : Loop κ ε τ ω) : Later loop loop :=
  ⟨Nat.le_refl _, fun _ member => .inl member⟩

theorem trans (h : Later a b) (h' : Later b c) : Later a c where
  next := Nat.le_trans h.next h'.next
  jobs := by
    intro handle member
    rcases h'.jobs handle member with old | new
    · exact h.jobs handle old
    · exact .inr (Nat.le_trans h.next new)

/-- What is neither a job nor a ticket may change. -/
theorem of_eq (h : Later a b) (next : c.nextTicket = b.nextTicket) (jobs : c.handles = b.handles) :
    Later a c where
  next := next ▸ h.next
  jobs := jobs ▸ h.jobs

theorem note (what : Note κ ε τ ω) : Later loop (loop.note what) := (refl loop).of_eq rfl rfl

theorem emitAll (outputs : List ω) : Later loop (loop.emitAll outputs) := (refl loop).of_eq rfl rfl

theorem cancel (ticket : Nat) : Later loop (loop.cancel ticket) :=
  ⟨Nat.le_refl _, fun _ member => .inl (mem_handles_cancel member)⟩

theorem arm (deadline : τ) (job : Job κ ε τ ω) : Later loop (loop.arm deadline job) where
  next := Nat.le_succ _
  jobs := by
    intro handle member
    rcases mem_handles_arm.1 member with old | rfl
    · exact .inl old
    · exact .inr (Nat.le_refl _)

theorem soon (job : Job κ ε τ ω) : Later loop (loop.soon job) where
  next := Nat.le_succ _
  jobs := by
    intro handle member
    rcases mem_handles_soon.1 member with old | rfl
    · exact .inl old
    · exact .inr (Nat.le_refl _)

theorem settleOutcome (key : κ) (outcome : Outcome τ ω) :
    Later loop (loop.settleOutcome key outcome) := by
  cases outcome with
  | returned => exact refl loop
  | raised => exact note _
  | awaiting actions fails => exact soon _

theorem takeUp {handle : Handle κ ε τ ω} {rest : List (Handle κ ε τ ω)}
    (agenda : loop.agenda = handle :: rest) : Later loop { loop with agenda := rest } :=
  ⟨Nat.le_refl _, fun _ member => .inl (mem_handles_takeUp agenda member)⟩

theorem resume [Timescale τ] (task : Task κ τ ω) : Later loop (loop.resume task) := by
  unfold Loop.resume
  dsimp only
  split
  · split
    · exact (emitAll _).trans (arm _ _)
    · exact (emitAll _).trans (soon _)
  · split
    · exact (emitAll _).trans (note _)
    · exact emitAll _

variable [DecidableEq κ]

theorem dropTimer (key : κ) : Later loop (loop.dropTimer key) := by
  unfold Loop.dropTimer
  split
  · exact (cancel _).of_eq rfl rfl
  · exact refl loop

variable [Timescale τ]

theorem add (key : κ) (event : ε) (window : τ) (callback : Callback κ ε τ ω) :
    Later loop (loop.add key event window callback) := by
  have dropped : Later loop ((loop.dropTimer key).note (.joined key event)) :=
    (dropTimer key).trans (note _)
  unfold Loop.add
  dsimp only
  split
  · exact (dropped.trans (arm _ _)).of_eq rfl rfl
  · exact dropped.of_eq rfl rfl

theorem invoke (callback : Callback κ ε τ ω) (key : κ) (events : List ε) :
    Later loop (loop.invoke callback key events) := by
  cases callback with
  | plain reply => exact ((note _).trans (emitAll _)).trans (settleOutcome key _)
  | requeue reply other event window next =>
    exact (((note _).trans (emitAll _)).trans (add other event window next)).trans
      (settleOutcome key _)

theorem expire (key : κ) (callback : Callback κ ε τ ω) : Later loop (loop.expire key callback) := by
  have taken : Later loop { loop with batcher :=
      ⟨loop.batcher.queues.filter (·.1 ≠ key), loop.batcher.timers.filter (·.1 ≠ key)⟩ } :=
        (refl loop).of_eq rfl rfl
  unfold Loop.expire
  dsimp only
  split
  · exact taken
  · exact taken.trans (invoke callback key _)

theorem perform (job : Job κ ε τ ω) : Later loop (loop.perform job) := by
  cases job with
  | expire key callback => exact expire key callback
  | wake task => exact soon _
  | resume task => exact resume task

omit [DecidableEq κ] [Timescale τ] in
theorem cleared : Later loop
    { loop.batcher.timers.foldl (fun loop (_, timer) => loop.cancel timer.ticket) loop with
      batcher := ⟨[], []⟩ } := by
  rw [cancelAll_eq]
  refine ⟨Nat.le_refl _, fun handle member => .inl ?_⟩
  simp only [mem_handles, List.mem_filter] at member ⊢
  exact member.imp And.left (Or.imp_right And.left)

theorem handsOver (origin : Loop κ ε τ ω) (callback : Callback κ ε τ ω) :
    HandsOver callback fun _ loop => Later origin loop where
  skip := fun h => h
  invoke := fun _ h => h.trans (invoke callback _ _)
  note := fun _ h => h.of_eq rfl rfl

/-- After a flush only those jobs are left that its callbacks have not made. -/
theorem flush (callback : Callback κ ε τ ω) :
    Later { loop.batcher.timers.foldl (fun loop (_, timer) => loop.cancel timer.ticket) loop with
      batcher := ⟨[], []⟩ } (loop.flush callback) :=
  (handsOver _ callback).flush (refl _)

theorem kept (origin : Loop κ ε τ ω) : Kept (Later origin) where
  perform := fun agenda h => (h.trans (takeUp agenda)).trans (perform _)
  beginRound := fun _ _ done h =>
    h.trans ⟨Nat.le_refl _, fun _ member => .inl ((mem_handles_beginRound done).1 member)⟩
  setClock := fun _ h => h.of_eq rfl rfl

end Later

variable [DecidableEq κ] [Timescale τ]

def step (loop : Loop κ ε τ ω) : Step κ ε τ ω → Loop κ ε τ ω
  | .add key event window callback => loop.add key event window callback
  | .flush callback => loop.flush callback
  | .turn mayWait => (loop.turn? fun _ _ => mayWait).getD loop
  | .pass clock => { loop with clock }

/-- The state that a sequence of steps leads to. -/
def reach (loop : Loop κ ε τ ω) (steps : List (Step κ ε τ ω)) : Loop κ ε τ ω :=
  steps.foldl step loop

theorem Kept.turn_getD {P : Loop κ ε τ ω → Prop} (kept : Kept P) {loop : Loop κ ε τ ω} (h : P loop)
    (permit : Loop κ ε τ ω → τ → Bool) : P ((loop.turn? permit).getD loop) := by
  cases turn : loop.turn? permit with
  | none => exact h
  | some after => exact kept.turn h turn

/-- What turns keep, and what adding and flushing keep, every interleaving keeps. -/
theorem Kept.reach {P : Loop κ ε τ ω → Prop} (kept : Kept P) {steps : List (Step κ ε τ ω)}
    (add : ∀ {loop : Loop κ ε τ ω} {key event window callback},
      .add key event window callback ∈ steps → P loop → P (loop.add key event window callback))
    (flush : ∀ {loop : Loop κ ε τ ω} {callback}, .flush callback ∈ steps → P loop →
    P (loop.flush callback)) {loop : Loop κ ε τ ω} (h : P loop) : P (loop.reach steps) := by
  induction steps generalizing loop with
  | nil => exact h
  | cons step rest ih =>
    refine ih (fun member => add (List.mem_cons_of_mem _ member))
      (fun member => flush (List.mem_cons_of_mem _ member)) ?_
    cases step with
    | add key event window callback => exact add List.mem_cons_self h
    | flush callback => exact flush List.mem_cons_self h
    | turn mayWait => exact kept.turn_getD h _
    | pass clock => exact kept.setClock clock h

theorem Later.reach (loop : Loop κ ε τ ω) (steps : List (Step κ ε τ ω)) :
    Later loop (loop.reach steps) :=
  (Later.kept loop).reach (fun _ h => h.trans (Later.add _ _ _ _))
    (fun _ h => h.trans (Later.cleared.trans (Later.flush _))) (Later.refl loop)

theorem Registered.reach {loop : Loop κ ε τ ω} (h : Registered loop) (steps : List (Step κ ε τ ω)) :
    Registered (loop.reach steps) :=
  Registered.kept.reach (fun _ h => h.add _ _ _ _) (fun _ h => h.flush _) h

theorem balanced_reach (steps : List (Step κ ε τ ω)) :
    ((start : Loop κ ε τ ω).reach steps).books.Balanced [] := by
  refine balanced_kept.reach ?_ (fun _ h => (balanced_flushed _).flush h) Books.Balanced.opened
  intro loop key event window callback _ h
  rw [books_add]
  exact h.add key event

section Forgotten

variable {a b c : Loop κ ε τ ω} {key : κ} {timer : Timer τ}

omit [Timescale τ] in
/-- The job of a timer that the batcher no longer knows is gone. -/
theorem Registered.ne_ticket (before : Registered a)
    (known : a.batcher.timers.lookup key = some timer) (after : Registered b) (later : Later a b)
    (forgotten : b.batcher.timers.lookup key ≠ some timer) :
    ∀ handle ∈ b.handles, handle.ticket ≠ timer.ticket := by
  intro handle member same
  obtain ⟨callback, armed⟩ := before.armed known
  have old : handle ∈ a.handles := by
    refine (later.jobs handle member).resolve_right fun new => ?_
    have := before.fresh _ armed
    dsimp only at this
    omega
  have own := before.eq_of_ticket old armed same
  rw [own] at member
  exact forgotten (after.known member rfl)

omit [DecidableEq κ] [Timescale τ] in
/-- What is gone does not come back. -/
theorem Later.ne_ticket (later : Later b c) {ticket : Nat} (spent : ticket < b.nextTicket)
    (gone : ∀ handle ∈ b.handles, handle.ticket ≠ ticket) : ∀ handle ∈ c.handles,
    handle.ticket ≠ ticket := by
  intro handle member
  rcases later.jobs handle member with old | new
  · exact gone handle old
  · omega

/-- A timer that the batcher has forgotten has no job in any later state. -/
theorem Registered.ne_ticket_reach (before : Registered a)
    (known : a.batcher.timers.lookup key = some timer) {steps : List (Step κ ε τ ω)}
    (forgotten : (a.reach steps).batcher.timers.lookup key ≠ some timer)
    (more : List (Step κ ε τ ω)) :
    ∀ handle ∈ ((a.reach steps).reach more).handles, handle.ticket ≠ timer.ticket := by
  obtain ⟨callback, armed⟩ := before.armed known
  have later := Later.reach a steps
  exact (Later.reach _ more).ne_ticket (Nat.lt_of_lt_of_le (before.fresh _ armed) later.next)
    (before.ne_ticket known (before.reach steps) later forgotten)

/-- A flush leaves no timer that was known before it. -/
theorem Registered.lookup_flush_ne (h : Registered a)
    (known : a.batcher.timers.lookup key = some timer) (callback : Callback κ ε τ ω) :
    (a.flush callback).batcher.timers.lookup key ≠ some timer := by
  intro kept
  obtain ⟨old, armed⟩ := h.armed known
  obtain ⟨own, member⟩ := (h.flush callback).armed kept
  rcases (Later.flush callback).jobs _ member with left | new
  · exact nomatch h.cleared.known left rfl
  · rw [cancelAll_eq] at new
    exact absurd (h.fresh _ armed) (Nat.not_lt.2 new)

end Forgotten

end Loop

end MarketAlerts.Delivery
