import MarketAlerts.Delivery.Run

/-!
What a turn of the loop can be, and what a run therefore keeps. A property that every job keeps and
every new round keeps holds after any run, wherever the run stops. A flush goes through the timers
and then through the batches that it has taken out of the queues.
-/
namespace MarketAlerts.Delivery.Loop

variable {κ ε τ ω : Type} [Timescale τ] [DecidableEq κ] {permit : Loop κ ε τ ω → τ → Bool}

/-- A turn makes the next job of the round, or begins a round when the last one is over: at once
with what is due, or at the first deadline to come. -/
theorem turn?_cases {loop after : Loop κ ε τ ω} (h : loop.turn? permit = some after) :
    (∃ handle rest, loop.agenda = handle :: rest ∧
      after = { loop with agenda := rest }.perform handle.job) ∨
    (loop.agenda = [] ∧
      after = loop.beginRound loop.clock fun handle => Timescale.isDue handle.deadline loop.clock) ∨
    (loop.agenda = [] ∧ loop.isIdle = true ∧ ∃ first, next? loop.scheduled = some first ∧
      permit loop first.deadline = true ∧
      after = loop.beginRound first.deadline fun handle =>
        Timescale.isDue handle.deadline first.deadline || handle.ticket == first.ticket) := by
  unfold turn? at h
  split at h
  · next handle rest agenda =>
    left
    exact ⟨handle, rest, agenda, (Option.some.inj h).symm⟩
  · next done =>
    right
    split at h
    · next idle =>
      split at h
      · contradiction
      · next first found =>
        split at h
        · next permitted =>
            exact .inr ⟨done, idle, first, found, permitted, (Option.some.inj h).symm⟩
        · contradiction
    · exact .inl ⟨done, (Option.some.inj h).symm⟩

omit [DecidableEq κ] in
theorem next?_eq_none {handles : List (Handle κ ε τ ω)} (h : next? handles = none) :
    handles = [] := by
  cases handles with
  | nil => rfl
  | cons handle rest =>
    unfold next? at h
    split at h
    · contradiction
    · split at h <;> contradiction

/-- No turn is left where the round is over, nothing is ready or due, and the clock may not be moved
to the next deadline. -/
theorem turn?_eq_none_iff {loop : Loop κ ε τ ω} :
    loop.turn? permit = none ↔ loop.agenda = [] ∧ loop.isIdle = true ∧
      ∀ first, next? loop.scheduled = some first → permit loop first.deadline = false := by
  constructor
  · intro h
    unfold turn? at h
    split at h
    · contradiction
    · next done =>
      split at h
      · next idle =>
        refine ⟨done, idle, fun first found => ?_⟩
        rw [found] at h
        dsimp only at h
        split at h
        · contradiction
        · next refused => simpa using refused
      · contradiction
  · rintro ⟨done, idle, refused⟩
    unfold turn?
    rw [done]
    dsimp only
    rw [if_pos idle]
    split
    · rfl
    · next first found => rw [refused first found]; rfl

omit [DecidableEq κ] in
theorem isIdle_iff {loop : Loop κ ε τ ω} :
    loop.isIdle = true ↔ loop.ready = [] ∧
      ∀ handle ∈ loop.scheduled, Timescale.isDue handle.deadline loop.clock = false := by
  simp [isIdle]

/-- Nothing is left to do after a run. -/
theorem turn?_run (loop : Loop κ ε τ ω) : (loop.run permit).turn? permit = none := by
  induction loop using run.induct permit with
  | case1 loop stop => rw [run, stop]; exact stop
  | case2 loop after turn ih => rw [run, turn]; exact ih

/-- A run that has nothing to do changes nothing. -/
theorem run_of_turn?_eq_none {loop : Loop κ ε τ ω} (h : loop.turn? permit = none) :
    loop.run permit = loop := by
  rw [run, h]

/-- The induction over the turns of a run. -/
theorem run_induction {P : Loop κ ε τ ω → Prop}
    (turn : ∀ {loop after : Loop κ ε τ ω}, P loop → loop.turn? permit = some after → P after)
    {loop : Loop κ ε τ ω} (h : P loop) : P (loop.run permit) := by
  induction loop using run.induct permit with
  | case1 loop stop => rw [run, stop]; exact h
  | case2 loop after begun ih => rw [run, begun]; exact ih (turn h begun)

/-- A property of loops that no turn and no move of the clock destroys. -/
structure Kept (P : Loop κ ε τ ω → Prop) : Prop where
  perform : ∀ {loop : Loop κ ε τ ω} {handle rest}, loop.agenda = handle :: rest → P loop →
    P ({ loop with agenda := rest }.perform handle.job)
  beginRound : ∀ {loop : Loop κ ε τ ω} clock runs, loop.agenda = [] → P loop →
    P (loop.beginRound clock runs)
  setClock : ∀ {loop : Loop κ ε τ ω} clock, P loop → P { loop with clock }

namespace Kept

variable {P : Loop κ ε τ ω → Prop}

theorem turn (kept : Kept P) {loop after : Loop κ ε τ ω} (h : P loop)
    (turn : loop.turn? permit = some after) : P after := by
  rcases turn?_cases
    turn with ⟨handle, rest, agenda, rfl⟩ | ⟨done, rfl⟩ | ⟨done, -, first, -, -, rfl⟩
  · exact kept.perform agenda h
  · exact kept.beginRound _ _ done h
  · exact kept.beginRound _ _ done h

theorem run (kept : Kept P) {loop : Loop κ ε τ ω} (h : P loop) : P (loop.run permit) :=
  run_induction kept.turn h

theorem settle (kept : Kept P) {loop : Loop κ ε τ ω} (h : P loop) : P loop.settle :=
  kept.run h

theorem advance (kept : Kept P) {loop : Loop κ ε τ ω} (h : P loop) (seconds : τ) :
    P (loop.advance seconds) :=
  kept.settle (kept.setClock _ (kept.run h))

theorem finish (kept : Kept P) {loop : Loop κ ε τ ω} (h : P loop) (origins : List Origin) :
    P (loop.finish origins) :=
  kept.run h

end Kept

omit [Timescale τ] [DecidableEq κ] in
theorem batcher_cancelAll (timers : List (κ × Timer τ)) (loop : Loop κ ε τ ω) :
    (timers.foldl (fun loop (_, timer) => loop.cancel timer.ticket) loop).batcher =
    loop.batcher := by
  induction timers generalizing loop with
  | nil => rfl
  | cons entry rest ih => exact ih (loop.cancel entry.2.ticket)

/-- What handing batches over does to a property, with those that are still in hand. -/
structure HandsOver (callback : Callback κ ε τ ω) (Q : List (κ × List ε) → Loop κ ε τ ω → Prop) :
    Prop where
  skip : ∀ {loop : Loop κ ε τ ω} {key rest}, Q ((key, []) :: rest) loop → Q rest loop
  invoke : ∀ {loop : Loop κ ε τ ω} {key events rest}, events ≠ [] → Q ((key, events) :: rest) loop →
    Q rest (loop.invoke callback key events)
  note : ∀ {loop : Loop κ ε τ ω} count, Q [] loop → Q [] (loop.note (.flushed count))

namespace HandsOver

variable {callback : Callback κ ε τ ω} {Q : List (κ × List ε) → Loop κ ε τ ω → Prop}

theorem handOver (hands : HandsOver callback Q) (batches : List (κ × List ε))
    {loop : Loop κ ε τ ω} (h : Q batches loop) :
    Q [] (batches.foldl (fun loop (key, events) =>
      if events.isEmpty then loop else loop.invoke callback key events) loop) := by
  induction batches generalizing loop with
  | nil => exact h
  | cons batch rest ih =>
    obtain ⟨key, events⟩ := batch
    rw [List.foldl_cons]
    apply ih
    dsimp only
    split
    · next empty =>
      rw [List.isEmpty_iff.1 empty] at h
      exact hands.skip h
    · next filled => exact hands.invoke (by simpa using filled) h

/-- A flush has every queue in hand when all timers are taken back. -/
theorem flush (hands : HandsOver callback Q) {loop : Loop κ ε τ ω}
    (h : Q loop.batcher.queues
      { loop.batcher.timers.foldl (fun loop (_, timer) => loop.cancel timer.ticket) loop with
        batcher := ⟨[], []⟩ }) :
    Q [] (loop.flush callback) := by
  have handed := hands.handOver _ h
  unfold Loop.flush
  dsimp only
  split
  · exact handed
  · exact hands.note _ handed

end HandsOver

/-- What a flush does to a property: `P` holds while timers are taken back, `Q` while the batches
that it is given are in hand. -/
structure Flushed (callback : Callback κ ε τ ω) (P : Loop κ ε τ ω → Prop)
    (Q : List (κ × List ε) → Loop κ ε τ ω → Prop) : Prop where
  cancel : ∀ {loop : Loop κ ε τ ω} {entry}, entry ∈ loop.batcher.timers → P loop →
    P (loop.cancel entry.2.ticket)
  clear : ∀ {loop : Loop κ ε τ ω}, P loop → Q loop.batcher.queues { loop with batcher := ⟨[], []⟩ }
  skip : ∀ {loop : Loop κ ε τ ω} {key rest}, Q ((key, []) :: rest) loop → Q rest loop
  invoke : ∀ {loop : Loop κ ε τ ω} {key events rest}, events ≠ [] → Q ((key, events) :: rest) loop →
    Q rest (loop.invoke callback key events)
  note : ∀ {loop : Loop κ ε τ ω} count, Q [] loop → Q [] (loop.note (.flushed count))

namespace Flushed

variable {callback : Callback κ ε τ ω} {P : Loop κ ε τ ω → Prop}
  {Q : List (κ × List ε) → Loop κ ε τ ω → Prop}

theorem cancelAll (flushed : Flushed callback P Q) (timers : List (κ × Timer τ))
    {loop : Loop κ ε τ ω} (known : ∀ entry ∈ timers, entry ∈ loop.batcher.timers) (h : P loop) :
    P (timers.foldl (fun loop (_, timer) => loop.cancel timer.ticket) loop) := by
  induction timers generalizing loop with
  | nil => exact h
  | cons entry rest ih =>
    rw [List.foldl_cons]
    apply ih
    · intro other member
      exact known other (List.mem_cons_of_mem entry member)
    · exact flushed.cancel (known entry List.mem_cons_self) h

theorem handsOver (flushed : Flushed callback P Q) : HandsOver callback Q :=
  ⟨flushed.skip, flushed.invoke, flushed.note⟩

theorem flush (flushed : Flushed callback P Q) {loop : Loop κ ε τ ω} (h : P loop) :
    Q [] (loop.flush callback) := by
  have cancelled := flushed.cancelAll loop.batcher.timers (fun _ member => member) h
  have cleared := flushed.clear cancelled
  -- Taking timers back leaves the queues alone, so those in hand are those at the start.
  rw [batcher_cancelAll] at cleared
  exact flushed.handsOver.flush cleared

end Flushed

/-- A delivery that is waited for is over when the wait is. -/
theorem awaits_finish (loop : Loop κ ε τ ω) {origins : List Origin} {origin : Origin}
    (h : origin ∈ origins) : (loop.finish origins).awaits origin = false := by
  have stop :
      (loop.finish origins).turn? (fun loop _ => origins.any fun origin => loop.awaits origin)
      = none := turn?_run loop
  obtain ⟨agenda, idle, refused⟩ := turn?_eq_none_iff.1 stop
  cases found : next? (loop.finish origins).scheduled with
  | none => simp [awaits, outstanding, handles, agenda, (isIdle_iff.1 idle).1, next?_eq_none found]
  | some first => simpa using List.any_eq_false.1 (refused first found) origin h

end MarketAlerts.Delivery.Loop
