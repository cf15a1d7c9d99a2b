import MarketAlerts.Proofs.Delivery.Frame

/-!
Where one batch of a key ends and the next begins, on a clock of exact numbers. A loop runs the lane
of each of its keys: between operations it shows of the key what the lane holds, and while the clock
moves on the batch that waits in the lane either still waits for its deadline, or is about to be
handed over at it, or has been.
-/
namespace MarketAlerts.Delivery.Loop

variable {κ ε ω : Type} [DecidableEq κ] {key : κ} {lane : Lane κ ε ω} {loop other : Loop κ ε Rat ω}
  {batch : Waiting κ ε Rat ω}

omit [DecidableEq κ] in
/-- The job that comes first has the first deadline. -/
theorem next?_le {handles : List (Handle κ ε Rat ω)} {first : Handle κ ε Rat ω}
    (h : next? handles = some first) : ∀ handle ∈ handles, first.deadline ≤ handle.deadline := by
  induction handles generalizing first with
  | nil => exact fun _ absent => nomatch absent
  | cons handle rest ih =>
    unfold next? at h
    split at h
    · next absent =>
      obtain rfl := Option.some.inj h
      intro other member
      rw [next?_eq_none absent] at member
      rw [List.mem_singleton.1 member]
    · next later found =>
      have least := ih found
      split at h
      · next before =>
        obtain rfl := Option.some.inj h
        refine List.forall_mem_cons.2 ⟨?_, least⟩
        exact (of_decide_eq_true before).le
      · next before =>
        obtain rfl := Option.some.inj h
        refine List.forall_mem_cons.2 ⟨le_rfl, fun other member => ?_⟩
        exact (not_lt.1 fun sooner => before (decide_eq_true sooner)).trans (least other member)

/-- The loop shows of a key what its lane holds, apart from the job that will hand over the waiting
batch. -/
structure Tracks (key : κ) (lane : Lane κ ε ω) (loop : Loop κ ε Rat ω) : Prop where
  queue : loop.batcher.queues.lookup key = lane.waiting.map (·.events)
  stocked : ∀ batch ∈ lane.waiting, batch.events ≠ []
  timer : lane.waiting = none → loop.batcher.timers.lookup key = none
  chronicle : Chronicle key loop.journal lane.handed

theorem Tracks.of_sameAt (h : Tracks key lane loop) (same : SameAt key loop other) :
    Tracks key lane other where
  queue := same.queue.trans h.queue
  stocked := h.stocked
  timer := fun absent => same.timer.trans (h.timer absent)
  chronicle := same.chronicle h.chronicle

theorem Tracks.takeUp (h : Tracks key lane loop) (rest : List (Handle κ ε Rat ω)) :
    Tracks key lane { loop with agenda := rest } :=
  ⟨h.queue, h.stocked, h.timer, h.chronicle⟩

/-- The job of a batch, while the clock moves on from a time: it is due in the present round, or
it waits and its deadline is still to come. -/
def Pending (key : κ) (since : Rat) (batch : Waiting κ ε Rat ω) (loop : Loop κ ε Rat ω) : Prop :=
  ∃ ticket,
    (⟨ticket, batch.deadline, .expire key batch.callback⟩ ∈ loop.agenda ∧
      loop.clock = max since batch.deadline) ∨
    (⟨ticket, batch.deadline, .expire key batch.callback⟩ ∈ loop.scheduled ∧
      (loop.clock = since ∨ loop.clock < batch.deadline))

theorem Pending.of_sameAt {since : Rat} (h : Pending key since batch loop)
    (same : SameAt key loop other) : Pending key since batch other := by
  obtain ⟨ticket, ⟨agenda, clock⟩ | ⟨scheduled, clock⟩⟩ := h
  · exact ⟨ticket, .inl ⟨same.agenda agenda rfl, same.clock.trans clock⟩⟩
  · exact ⟨ticket, .inr ⟨same.scheduled scheduled rfl, by rwa [same.clock]⟩⟩

/-- The batch that waits goes to its callback, at the present time. -/
theorem Tracks.expire (h : Tracks key lane loop) (waiting : lane.waiting = some batch)
    (plain : batch.callback.IsPlain) :
    Tracks key (lane.handOver batch loop.clock batch.callback)
      (loop.expire key batch.callback) := by
  have events : loop.batcher.queue key = batch.events := by
    rw [Batcher.queue, h.queue, waiting]
    rfl
  have filled : ¬ batch.events.isEmpty = true := by
    simpa using h.stocked batch waiting
  have done (entries : List (κ × List ε)) : (entries.filter (·.1 ≠ key)).lookup key = none := by
    rw [lookup_filter_ne, if_pos rfl]
  unfold Loop.expire
  dsimp only
  rw [events, if_neg filled]
  obtain ⟨nextTicket, ready, same⟩ := invoke_of_isPlain plain
    { loop with batcher :=
      ⟨loop.batcher.queues.filter (·.1 ≠ key), loop.batcher.timers.filter (·.1 ≠ key)⟩ }
    key batch.events
  rw [same]
  exact {
    queue := by
      dsimp only
      rw [lookup_filter_ne, if_pos rfl]
      rfl
    stocked := fun _ absent => nomatch absent
    timer := fun _ => by
      dsimp only
      rw [lookup_filter_ne, if_pos rfl]
    chronicle := h.chronicle.handOver _ }

/-- A loop on the way to a limit. The batch that waits in the lane is handed over when its deadline
is reached, and not before. -/
structure Midway (key : κ) (lane : Lane κ ε ω) (limit : Rat) (loop : Loop κ ε Rat ω) : Prop where
  registered : Registered loop
  plain : Follows Job.IsPlain loop
  since : lane.clock ≤ loop.clock
  within : loop.clock ≤ limit
  stage : (Tracks key lane loop ∧ ∀ batch ∈ lane.waiting, Pending key lane.clock batch loop) ∨
    ∃ batch ∈ lane.waiting, batch.deadline ≤ limit ∧
      Tracks key (lane.handOver batch (max lane.clock batch.deadline) batch.callback) loop

namespace Midway

variable {limit : Rat}

/-- The jobs of a round are done one by one. -/
theorem perform (h : Midway key lane limit loop) {handle : Handle κ ε Rat ω}
    {rest : List (Handle κ ε Rat ω)} (agenda : loop.agenda = handle :: rest) :
    Midway key lane limit ({ loop with agenda := rest }.perform handle.job) := by
  have own := h.plain.next agenda
  have clock : ({ loop with agenda := rest }.perform handle.job).clock = loop.clock :=
    clock_perform { loop with agenda := rest } own
  have first : handle ∈ loop.agenda := agenda ▸ List.mem_cons_self
  refine {
    registered := Registered.kept.perform agenda h.registered
    plain := (follows_kept Job.hereditary_isPlain).perform agenda h.plain
    since := by rw [clock]; exact h.since
    within := by rw [clock]; exact h.within
    stage := ?_ }
  by_cases mine : ∃ callback, handle.job = .expire key callback
  · obtain ⟨callback, job⟩ := mine
    have known := h.registered.known (mem_handles.2 (.inl first)) job
    rcases h.stage with ⟨tracks, pending⟩ | ⟨batch, _, _, tracks⟩
    · cases waiting : lane.waiting with
      | none =>
        rw [tracks.timer waiting] at known
        contradiction
      | some batch =>
        -- The key has one timer, so the job at hand is the one that the batch waits for.
        obtain ⟨ticket, ⟨due, time⟩ | ⟨waits, -⟩⟩ := pending batch waiting
        · obtain rfl :=
            h.registered.eq_of_key (mem_handles.2 (.inl first)) (mem_handles.2 (.inl due)) job rfl
          have reached : batch.deadline ≤ limit := (le_max_right _ _).trans (time ▸ h.within)
          refine .inr ⟨batch, rfl, reached, ?_⟩
          rw [← time]
          exact (tracks.takeUp rest).expire waiting own
        · obtain rfl := h.registered.eq_of_key (mem_handles.2 (.inl first))
            (mem_handles.2 (.inr (.inr waits))) job rfl
          exact absurd waits (h.registered.not_mem_scheduled first)
    · rw [tracks.timer rfl] at known
      contradiction
  · have same :
        SameAt key { loop with agenda := rest } ({ loop with agenda := rest }.perform handle.job) :=
      SameAt.perform (fun callback job => mine ⟨callback, job⟩) own
    have others {next : Handle κ ε Rat ω} {callback : Callback κ ε Rat ω}
        (member : next ∈ loop.agenda)
        (job : next.job = .expire key callback) : next ∈ rest := by
      rcases List.mem_cons.1 (agenda ▸ member) with rfl | later
      · exact absurd ⟨callback, job⟩ mine
      · exact later
    rcases h.stage with ⟨tracks, pending⟩ | ⟨batch, waiting, due, tracks⟩
    · refine .inl ⟨(tracks.takeUp rest).of_sameAt same, fun batch waiting => ?_⟩
      have begun : Pending key lane.clock batch { loop with agenda := rest } := by
        obtain ⟨ticket, ⟨due, time⟩ | later⟩ := pending batch waiting
        · exact ⟨ticket, .inl ⟨others due rfl, time⟩⟩
        · exact ⟨ticket, .inr later⟩
      exact begun.of_sameAt same
    · exact .inr ⟨batch, waiting, due, (tracks.takeUp rest).of_sameAt same⟩

omit [DecidableEq κ] in
theorem mem_agenda_beginRound {handle : Handle κ ε Rat ω} (waits : handle ∈ loop.scheduled)
    {clock : Rat} {runs : Handle κ ε Rat ω → Bool} (due : runs handle = true) :
    handle ∈ (loop.beginRound clock runs).agenda := by
  refine List.mem_append_right _ ?_
  rw [byDeadline, (List.mergeSort_perm _ _).mem_iff]
  exact List.mem_filter.2 ⟨waits, due⟩

omit [DecidableEq κ] in
theorem mem_scheduled_beginRound {handle : Handle κ ε Rat ω} (waits : handle ∈ loop.scheduled)
    {clock : Rat} {runs : Handle κ ε Rat ω → Bool} (later : runs handle = false) :
    handle ∈ (loop.beginRound clock runs).scheduled :=
  List.mem_filter.2 ⟨waits, by simp [later]⟩

/-- A round that begins at once takes up the batches whose deadline was reached before. -/
theorem beginAtOnce (h : Midway key lane limit loop) (done : loop.agenda = []) :
    Midway key lane limit
      (loop.beginRound loop.clock fun handle => Timescale.isDue handle.deadline loop.clock) where
  registered := Registered.kept.beginRound _ _ done h.registered
  plain := (follows_kept Job.hereditary_isPlain).beginRound _ _ done h.plain
  since := h.since
  within := h.within
  stage := by
    rcases h.stage with ⟨tracks, pending⟩ | ⟨batch, waiting, due, tracks⟩
    · refine .inl
        ⟨⟨tracks.queue, tracks.stocked, tracks.timer, tracks.chronicle⟩, fun batch waiting => ?_⟩
      obtain ⟨ticket, ⟨due, -⟩ | ⟨waits, time⟩⟩ := pending batch waiting
      · rw [done] at due
        contradiction
      · by_cases due : batch.deadline ≤ loop.clock
        · have now : loop.clock = lane.clock := time.resolve_right (not_lt.2 due)
          refine ⟨ticket, .inl ⟨mem_agenda_beginRound waits (decide_eq_true due), ?_⟩⟩
          rw [← now]
          exact (max_eq_left due).symm
        · exact ⟨ticket,
            .inr ⟨mem_scheduled_beginRound waits (decide_eq_false due), .inr (not_le.1 due)⟩⟩
    · exact .inr ⟨batch, waiting, due, tracks.queue, tracks.stocked, tracks.timer, tracks.chronicle⟩

/-- A round to which the clock has to move takes up the batches of the first deadline. -/
theorem beginLater (h : Midway key lane limit loop) (done : loop.agenda = [])
    (idle : loop.isIdle = true) {first : Handle κ ε Rat ω}
    (found : next? loop.scheduled = some first) (permitted : first.deadline ≤ limit) :
    Midway key lane limit (loop.beginRound first.deadline fun handle =>
      Timescale.isDue handle.deadline first.deadline || handle.ticket == first.ticket) := by
  have ahead : ∀ handle ∈ loop.scheduled, loop.clock < handle.deadline := by
    intro handle member
    exact not_le.1 (of_decide_eq_false ((isIdle_iff.1 idle).2 handle member))
  have now := ahead first (next?_mem found)
  exact {
    registered := Registered.kept.beginRound _ _ done h.registered
    plain := (follows_kept Job.hereditary_isPlain).beginRound _ _ done h.plain
    since := h.since.trans now.le
    within := permitted
    stage := by
      rcases h.stage with ⟨tracks, pending⟩ | ⟨batch, waiting, due, tracks⟩
      · refine .inl
          ⟨⟨tracks.queue, tracks.stocked, tracks.timer, tracks.chronicle⟩, fun batch waiting => ?_⟩
        obtain ⟨ticket, ⟨due, -⟩ | ⟨waits, -⟩⟩ := pending batch waiting
        · rw [done] at due
          contradiction
        · have least : first.deadline ≤ batch.deadline := next?_le found _ waits
          by_cases due : batch.deadline ≤ first.deadline
          · have same : first.deadline = batch.deadline := le_antisymm least due
            refine ⟨ticket, .inl ⟨mem_agenda_beginRound waits ?_, ?_⟩⟩
            · simp [Timescale.isDue, due]
            · exact same.trans (max_eq_right (h.since.trans (ahead _ waits).le)).symm
          · have apart : ticket ≠ first.ticket := by
              intro same
              have one := h.registered.eq_of_ticket (mem_handles.2 (.inr (.inr waits)))
                (mem_handles.2 (.inr (.inr (next?_mem found)))) same
              exact due (congrArg (·.deadline) one).le
            refine ⟨ticket, .inr ⟨mem_scheduled_beginRound waits ?_, .inr (not_le.1 due)⟩⟩
            simp [Timescale.isDue, due, apart]
      · exact .inr
          ⟨batch, waiting, due, tracks.queue, tracks.stocked, tracks.timer, tracks.chronicle⟩ }

theorem run (h : Midway key lane limit loop) :
    Midway key lane limit (loop.run fun _ deadline => Timescale.isUpTo deadline limit) := by
  refine run_induction (fun h turn => ?_) h
  rcases turn?_cases turn with ⟨handle, rest, agenda, rfl⟩ | ⟨done, rfl⟩ |
    ⟨done, idle, first, found, permitted, rfl⟩
  · exact h.perform agenda
  · exact h.beginAtOnce done
  · exact h.beginLater done idle found (of_decide_eq_true permitted)

/-- At the limit the lane has got there too. -/
theorem settled {seconds : Rat} (h : Midway key lane (lane.clock + seconds) loop)
    (spent : loop.agenda = [])
    (ahead : ∀ handle ∈ loop.scheduled, lane.clock + seconds < handle.deadline) :
    Tracks key (lane.step key (.advance seconds)) loop ∧
      ∀ batch ∈ (lane.step key (.advance seconds)).waiting, ∃ ticket,
        ⟨ticket, batch.deadline, .expire key batch.callback⟩ ∈ loop.scheduled := by
  rcases h.stage with ⟨tracks, pending⟩ | ⟨batch, waiting, due, tracks⟩
  · have armed : ∀ batch ∈ lane.waiting, ∃ ticket,
        ⟨ticket, batch.deadline, .expire key batch.callback⟩ ∈ loop.scheduled := by
      intro batch waiting
      obtain ⟨ticket, ⟨due, -⟩ | ⟨waits, -⟩⟩ := pending batch waiting
      · rw [spent] at due
        contradiction
      · exact ⟨ticket, waits⟩
    have same : lane.step key (.advance seconds) = { lane with clock := lane.clock + seconds } := by
      cases waiting : lane.waiting with
      | none => simp [Lane.step, waiting]
      | some batch =>
        obtain ⟨ticket, waits⟩ := armed batch waiting
        have later := ahead _ waits
        simp [Lane.step, waiting, later]
    rw [same]
    exact ⟨⟨tracks.queue, tracks.stocked, tracks.timer, tracks.chronicle⟩, armed⟩
  · have same : lane.step key (.advance seconds) =
        { lane.handOver batch (max lane.clock batch.deadline) batch.callback with
          clock := lane.clock + seconds } := by
      rw [Option.mem_def] at waiting
      simp [Lane.step, waiting, due]
    rw [same]
    refine ⟨⟨tracks.queue, tracks.stocked, tracks.timer, tracks.chronicle⟩, ?_⟩
    intro _ absent
    cases absent

end Midway

/-- A run up to a limit leaves nothing that is due by then. -/
theorem ahead_of_turn?_eq_none {limit : Rat}
    (stop : loop.turn? (fun _ deadline => Timescale.isUpTo deadline limit) = none) :
    loop.agenda = [] ∧ loop.ready = [] ∧ ∀ handle ∈ loop.scheduled, limit < handle.deadline := by
  obtain ⟨spent, idle, refused⟩ := turn?_eq_none_iff.1 stop
  refine ⟨spent, (isIdle_iff.1 idle).1, fun handle member => ?_⟩
  cases found : next? loop.scheduled with
  | none =>
    rw [next?_eq_none found] at member
    contradiction
  | some first =>
    exact (not_le.1 (of_decide_eq_false (refused first found))).trans_le
      (next?_le found handle member)

theorem settle_of_ahead {limit : Rat} (spent : loop.agenda = []) (ready : loop.ready = [])
    (ahead : ∀ handle ∈ loop.scheduled, limit < handle.deadline) :
    ({ loop with clock := limit } : Loop κ ε Rat ω).settle = { loop with clock := limit } := by
  apply run_of_turn?_eq_none
  refine turn?_eq_none_iff.2 ⟨spent, isIdle_iff.2 ⟨ready, fun handle member => ?_⟩, fun _ _ => rfl⟩
  exact decide_eq_false (not_le.2 (ahead handle member))

/-- A loop between two operations shows of a key what the lane holds. -/
structure Rests (key : κ) (lane : Lane κ ε ω) (loop : Loop κ ε Rat ω) : Prop where
  registered : Registered loop
  plain : Follows Job.IsPlain loop
  balanced : loop.books.Balanced []
  clock : loop.clock = lane.clock
  spent : loop.agenda = []
  tracks : Tracks key lane loop
  armed : ∀ batch ∈ lane.waiting, ∃ ticket,
    ⟨ticket, batch.deadline, .expire key batch.callback⟩ ∈ loop.scheduled

namespace Rests

theorem start (key : κ) : Rests key ⟨0, none, []⟩ (Loop.start : Loop κ ε Rat ω) where
  registered := .start
  plain := fun _ absent => nomatch absent
  balanced := Books.Balanced.opened
  clock := rfl
  spent := rfl
  tracks := ⟨rfl, fun _ absent => (nomatch absent), fun _ => rfl, .nil⟩
  armed := fun _ absent => nomatch absent

variable {callback : Callback κ ε Rat ω}

/-- The clock moves on to a limit: what falls due on the way is done, and nothing else. -/
theorem advance (h : Rests key lane loop) {seconds : Rat} (forward : 0 ≤ seconds) :
    Rests key (lane.step key (.advance seconds)) (loop.advance seconds) := by
  have begun : Midway key lane (lane.clock + seconds) loop := {
    registered := h.registered
    plain := h.plain
    since := h.clock.ge
    within := by linarith [h.clock]
    stage := .inl ⟨h.tracks, fun batch waiting => by
      obtain ⟨ticket, armed⟩ := h.armed batch waiting
      exact ⟨ticket, .inr ⟨armed, .inl h.clock⟩⟩⟩ }
  obtain ⟨spent, ready, ahead⟩ := ahead_of_turn?_eq_none (turn?_run loop)
  obtain ⟨tracks, armed⟩ := begun.run.settled spent ahead
  have same : loop.advance seconds =
      { loop.run (fun _ deadline => Timescale.isUpTo deadline (lane.clock + seconds)) with
        clock := lane.clock + seconds } := by
    rw [← h.clock] at spent ready ahead ⊢
    exact settle_of_ahead spent ready ahead
  have registered := Registered.kept.advance h.registered seconds
  have plain := (follows_kept Job.hereditary_isPlain).advance h.plain seconds
  have balanced := balanced_kept.advance h.balanced seconds
  rw [same] at registered plain balanced ⊢
  exact {
    registered, plain, balanced, spent, armed
    clock := (Lane.clock_advance lane seconds).symm
    tracks := ⟨tracks.queue, tracks.stocked, tracks.timer, tracks.chronicle⟩ }

/-- An event joins its key's batch and restarts the key's timer. -/
theorem add (h : Rests key lane loop) {added : κ} (plain : callback.IsPlain) (event : ε)
    (window : Rat) :
    Rests key (lane.step key (.add added event window callback))
      (loop.add added event window callback) := by
  have registered := h.registered.add added event window callback
  have plain : Follows Job.IsPlain (loop.add added event window callback) :=
    h.plain.add plain event window
  have balanced : (loop.add added event window callback).books.Balanced [] := by
    rw [books_add]
    exact h.balanced.add added event
  have clock := (clock_add loop added event window callback).trans h.clock
  have spent : (loop.add added event window callback).agenda = [] :=
    List.sublist_nil.1 (h.spent ▸ agenda_add_sublist loop added event window callback)
  by_cases own : added = key
  · subst own
    have queue : (loop.batcher.queues.lookup added).getD [] = lane.queue := by
      rw [h.tracks.queue, Lane.queue]
      cases lane.waiting <;> rfl
    rw [Lane.step_own]
    exact {
      registered, plain, balanced, clock, spent
      tracks := {
        queue := by
          have pushed : (loop.add added event window callback).batcher.queues =
              Batcher.push loop.batcher.queues added event :=
            congrArg Books.queues (books_add loop added event window callback)
          rw [pushed, lookup_push, if_pos rfl, queue]
          rfl
        stocked := by
          rintro batch waiting
          rw [Lane.waiting_join] at waiting
          obtain rfl := Option.some.inj waiting
          simp
        timer := by
          rw [Lane.waiting_join]
          intro absent
          contradiction
        chronicle := chronicle_add h.tracks.chronicle added event window callback }
      armed := by
        intro batch waiting
        obtain rfl := Option.some.inj waiting
        rw [← h.clock]
        exact exists_mem_scheduled_add loop added event rfl callback }
  · have same : SameAt key loop (loop.add added event window callback) :=
      SameAt.add h.registered own event window callback
    rw [Lane.step_other own]
    exact {
      registered, plain, balanced, clock, spent
      tracks := h.tracks.of_sameAt same
      armed := fun batch waiting =>
        (h.armed batch waiting).imp fun _ waits => same.scheduled waits rfl }

end Rests

/-- A flush under way: the key's batch is among those in hand, or it has been handed over. -/
structure Flushing (key : κ) (lane : Lane κ ε ω) (callback : Callback κ ε Rat ω)
    (inHand : List (κ × List ε)) (loop : Loop κ ε Rat ω) : Prop where
  nodup_keys : (inHand.map (·.1)).Nodup
  stocked : ∀ events, inHand.lookup key = some events → events ≠ []
  clock : loop.clock = lane.clock
  spent : loop.agenda = []
  empty : loop.batcher = ⟨[], []⟩
  chronicle : ∃ handed, Chronicle key loop.journal handed ∧
    handed ++ ((inHand.lookup key).map fun events => ⟨lane.clock, events, callback⟩).toList =
      (lane.step key (.flush callback)).handed

theorem handsOver_flushing {callback : Callback κ ε Rat ω} (plain : callback.IsPlain) :
    HandsOver callback (Flushing key lane callback) where
  skip := by
    intro loop other rest h
    have apart : key ≠ other := by
      rintro rfl
      exact h.stocked [] (by rw [lookup_cons_eq_ite, if_pos rfl]) rfl
    obtain ⟨nodup_keys, stocked, clock, spent, empty, chronicle⟩ := h
    rw [lookup_cons_eq_ite, if_neg apart] at stocked chronicle
    exact ⟨nodup_keys.of_cons, stocked, clock, spent, empty, chronicle⟩
  invoke := by
    intro loop other events rest nonempty h
    obtain ⟨nextTicket, ready, same⟩ := invoke_of_isPlain plain loop other events
    obtain ⟨nodup_keys, stocked, clock, spent, empty, handed, told, all⟩ := h
    rw [List.map_cons, List.nodup_cons] at nodup_keys
    rw [lookup_cons_eq_ite] at stocked all
    rw [same]
    by_cases own : key = other
    · subst own
      have done : rest.lookup key = none := by
        refine List.lookup_eq_none_iff.2 fun entry member => bne_iff_ne.2 fun same => ?_
        exact nodup_keys.1 (List.mem_map.2 ⟨entry, member, same.symm⟩)
      rw [if_pos rfl] at all
      refine ⟨nodup_keys.2, fun _ found => ?_, clock, spent, empty, _, told.handOver _, ?_⟩
      · rw [done] at found
        contradiction
      · rw [done, ← all, clock]
        simp
    · rw [if_neg own] at stocked all
      exact ⟨nodup_keys.2, stocked, clock, spent, empty, handed, told.append_notes (Ne.symm own) _,
        all⟩
  note := by
    intro loop count h
    obtain ⟨handed, told, all⟩ := h.chronicle
    exact { h with chronicle := ⟨handed, told.note fun _ same => (nomatch same), all⟩ }

/-- A flush hands the batch that waits to its own callback. -/
theorem Rests.flush (h : Rests key lane loop) {callback : Callback κ ε Rat ω}
    (plain : callback.IsPlain) :
    Rests key (lane.step key (.flush callback)) (loop.flush callback) := by
  have begun : Flushing key lane callback loop.batcher.queues
      { loop.batcher.timers.foldl (fun loop (_, timer) => loop.cancel timer.ticket) loop with
        batcher := ⟨[], []⟩ } := by
    rw [cancelAll_eq]
    exact {
      nodup_keys := h.balanced.nodup_keys
      stocked := by
        intro events found
        rw [h.tracks.queue] at found
        obtain ⟨batch, waiting, rfl⟩ := Option.map_eq_some_iff.1 found
        exact h.tracks.stocked batch waiting
      clock := h.clock
      spent := by
        dsimp only
        rw [h.spent, List.filter_nil]
      empty := rfl
      chronicle := by
        refine ⟨lane.handed, h.tracks.chronicle, ?_⟩
        rw [h.tracks.queue]
        cases waiting : lane.waiting <;> simp [Lane.step, waiting, Lane.handOver] }
  have flushed := (handsOver_flushing plain).flush begun
  obtain ⟨handed, told, all⟩ := flushed.chronicle
  rw [List.lookup_nil, Option.map_none, Option.toList_none, List.append_nil] at all
  have idle : (lane.step key (.flush callback)).waiting = none := Lane.waiting_flush lane callback
  exact {
    registered := h.registered.flush callback
    plain := (follows_flushed Job.hereditary_isPlain fun _ => plain).flush h.plain
    balanced := (balanced_flushed callback).flush h.balanced
    clock := flushed.clock.trans (Lane.clock_flush lane callback).symm
    spent := flushed.spent
    tracks := {
      queue := by
        rw [flushed.empty, idle]
        rfl
      stocked := by
        rw [idle]
        simp
      timer := fun _ => by
        rw [flushed.empty]
        rfl
      chronicle := all ▸ told }
    armed := by
      rw [idle]
      simp }

theorem Rests.operate (h : Rests key lane loop) {operation : Operation κ ε Rat ω}
    (timed : operation.IsTimed) : Rests key (lane.step key operation) (loop.operate operation) := by
  cases operation with
  | add added event window callback => exact h.add timed event window
  | advance seconds => exact h.advance timed
  | settle => exact timed.elim
  | flush callback => exact h.flush timed
  | drain => exact timed.elim

theorem rests_operateAll (key : κ) {operations : List (Operation κ ε Rat ω)}
    (timed : ∀ operation ∈ operations, operation.IsTimed) :
    Rests key (Lane.run key operations) ((start : Loop κ ε Rat ω).operateAll operations) := by
  induction operations using List.reverseRecOn with
  | nil => exact .start key
  | append_singleton earlier operation ih =>
    have before := ih fun other member => timed other (List.mem_append_left _ member)
    rw [Lane.run_append, operateAll, List.foldl_append]
    exact before.operate (timed operation (List.mem_append_right _ List.mem_cons_self))

/-- The batches of a key: those handed over, and what still waits. -/
def batches (loop : Loop κ ε Rat ω) (key : κ) : List (List ε) :=
  (loop.calls.filter (·.1 = key)).map (·.2) ++ [loop.batcher.queue key]

namespace Rests

theorem queue_eq (h : Rests key lane loop) : loop.batcher.queue key = lane.queue := by
  rw [Batcher.queue, h.tracks.queue, Lane.queue]
  cases lane.waiting <;> rfl

theorem deadline?_eq (h : Rests key lane loop) :
    loop.batcher.deadline? key = lane.waiting.map (·.deadline) := by
  unfold Batcher.deadline?
  cases waiting : lane.waiting with
  | none =>
    rw [h.tracks.timer waiting]
    rfl
  | some batch =>
    obtain ⟨ticket, armed⟩ := h.armed batch waiting
    rw [h.registered.known (mem_handles.2 (.inr (.inr armed))) rfl]
    rfl

theorem batches_eq (h : Rests key lane loop) : loop.batches key = lane.batches := by
  rw [batches, filter_calls_of_chronicle h.tracks.chronicle, h.queue_eq, List.map_map]
  rfl

end Rests

/-- Whatever is added, however the clock is moved on and whenever all is flushed, a key's batches
are cut exactly where its windows pass. Two events that follow each other are in one batch just
where nothing is flushed and the clock is not moved as far as the deadline that the first one set.
Each batch goes to the callback of the flush that takes it, or at the deadline that its last event
set to the callback that came with that event. Other keys have no part in this. -/
theorem segmentation {operations : List (Operation κ ε Rat ω)}
    (timed : ∀ operation ∈ operations, operation.IsTimed) (key : κ) :
    let after := (start : Loop κ ε Rat ω).operateAll
    ∃ handed, Chronicle key (after operations).journal handed ∧
      (∀ handover, handover ∈ handed ↔
        HandedOver (fun before => (after before).clock)
          (fun before => (after before).batcher.queue key)
          key operations handover) ∧
      (∀ before between rest event window callback next window' callback',
        operations = (before ++ .add key event window callback :: between) ++
          .add key next window' callback' :: rest →
        (∀ operation ∈ between, operation.added? key = none) →
        (Together ((after operations).batches key) ((before.filterMap (·.added? key)).length + 1) ↔
          Quiet (after before).clock ((after before).clock + window * 60) between)) ∧
      ∀ others, (∀ operation ∈ others, operation.IsTimed) →
        others.filter (·.concerns key) = operations.filter (·.concerns key) →
        Chronicle key (after others).journal handed ∧
          (after others).batcher.queue key = (after operations).batcher.queue key ∧
          (after others).batcher.deadline? key = (after operations).batcher.deadline? key := by
  intro after
  have rests {deeds : List (Operation κ ε Rat ω)}
      (timed : ∀ operation ∈ deeds, operation.IsTimed) :
      Rests key (Lane.run key deeds) (after deeds) := rests_operateAll key timed
  have here := rests timed
  have along (before : List (Operation κ ε Rat ω)) (early : before <+: operations) :
      (Lane.run key before).clock = (after before).clock ∧
        (Lane.run key before).queue = (after before).batcher.queue key := by
    have there := rests fun operation member => timed operation (early.subset member)
    exact ⟨there.clock.symm, there.queue_eq.symm⟩
  refine ⟨(Lane.run key operations).handed, here.tracks.chronicle, fun handover => ?_, ?_, ?_⟩
  · rw [Lane.mem_handed_run_iff timed]
    exact ⟨.congr along, .congr fun before early => (along before early).imp Eq.symm Eq.symm⟩
  · rintro before between rest event window callback next window' callback' rfl unadded
    have quietly : ∀ operation ∈ between, operation.IsTimed := fun operation member =>
      timed operation (by simp [member])
    have early := (List.prefix_append before (.add key event window callback :: between)).trans
      (List.prefix_append _ (.add key next window' callback' :: rest))
    rw [here.batches_eq, Lane.together_run_iff quietly unadded, (along before early).1]
  · intro others timed' same
    have there := rests timed'
    rw [← Lane.run_filter_concerns, same, Lane.run_filter_concerns] at there
    exact ⟨there.tracks.chronicle, there.queue_eq.trans here.queue_eq.symm,
      there.deadline?_eq.trans here.deadline?_eq.symm⟩

/-- A callback that says which one it is. -/
def saying (text : String) : Callback String Nat Rat String := .plain fun _ _ => ⟨[text], .returned⟩

/-- A batch of two events that ends at the deadline of the second, with another key in between, and
one that a flush takes. -/
def slowThenFlushed : List (Operation String Nat Rat String) :=
  [.add "A" 1 5 (saying "first"), .add "B" 9 1 (saying "other"), .advance 240,
    .add "A" 2 10 (saying "second"), .advance 600, .add "A" 3 5 (saying "third"),
    .flush (saying "closed")]

theorem segmentation_slowThenFlushed :
    (∀ operation ∈ slowThenFlushed, operation.IsTimed) ∧
      let loop := (start : Loop String Nat Rat String).operateAll slowThenFlushed
      Together (loop.batches "A") 1 ∧
      ∃ handed, Chronicle "A" loop.journal handed ∧ ⟨840, [1, 2], saying "second"⟩ ∈ handed := by
  have timed : ∀ operation ∈ slowThenFlushed, operation.IsTimed := by
    simp [slowThenFlushed, Operation.IsTimed, saying, Callback.IsPlain]
  obtain ⟨handed, told, all, together, -⟩ := segmentation timed "A"
  refine ⟨timed, ?_, handed, told, ?_⟩
  · refine (together [] [.add "B" 9 1 _, .advance 240] [.advance 600, .add "A" 3 5 _, .flush _]
      1 5 _ 2 10 _ rfl (by decide)).2 ?_
    rw [Quiet.add_iff, Quiet.advance_iff]
    exact ⟨by decide +kernel, Quiet.nil⟩
  · have opened := rests_operateAll "A" fun operation member =>
      timed operation (List.take_subset 3 _ member)
    have closed := rests_operateAll "A" fun operation member =>
      timed operation (List.take_subset 4 _ member)
    have clock := opened.clock.trans (by decide +kernel : _ = (240 : Rat))
    have queue := opened.queue_eq.trans (by decide +kernel : _ = [1])
    have reached : (240 : Rat) + 10 * 60 ≤
        ((start : Loop String Nat Rat String).operateAll (slowThenFlushed.take 4)).clock + 600 := by
      rw [closed.clock]
      decide +kernel
    have expired :=
      (all _).2 (@HandedOver.expired String Nat String _ _ _ "A" (slowThenFlushed.take 3)
        [] [.add "A" 3 5 _, .flush _] 2 10 (saying "second") 600 (by simp) Quiet.nil
      (by rw [clock]; exact reached))
    rw [clock, queue] at expired
    norm_num at expired
    exact expired

end MarketAlerts.Delivery.Loop
