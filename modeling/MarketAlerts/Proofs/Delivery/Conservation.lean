import MarketAlerts.Proofs.Delivery.Books
import MarketAlerts.Proofs.Delivery.Jobs
import MarketAlerts.Proofs.Delivery.Operations

/-!
Nothing is lost, repeated or mixed on the way through the batcher: under every key the batches
handed over, one after the other, and the queue that still waits are the events that joined, in
their order. While batches are taken out of their queues and not yet handed over, they are in hand;
the account then holds with them in the middle.
-/
namespace MarketAlerts.Delivery

variable {κ ε τ ω : Type} [DecidableEq κ]

theorem lookup_cons_eq_ite {α : Type} (k other : κ) (a : α) (rest : List (κ × α)) :
    ((k, a) :: rest).lookup other = if other = k then some a else rest.lookup other := by
  by_cases h : other = k
  · subst h
    simp
  · have apart : (other == k) = false := by simpa using h
    rw [List.lookup_cons, apart, if_neg h]

/-- Queues where one key has got one more event. -/
theorem lookup_map_append (queues : List (κ × List ε)) (key other : κ) (event : ε) :
    (queues.map fun (k, events) => if k = key then (k, events ++ [event]) else (k, events)).lookup
        other =
      (queues.lookup other).map fun events =>
        if other = key then events ++ [event] else events := by
  induction queues with
  | nil => rfl
  | cons entry rest ih =>
    obtain ⟨k, events⟩ := entry
    rw [List.map_cons, lookup_cons_eq_ite]
    by_cases hk : k = key
    · rw [if_pos hk, lookup_cons_eq_ite, ih]
      by_cases ho : other = k
      · rw [if_pos ho, if_pos ho, Option.map_some, if_pos (ho.trans hk)]
      · rw [if_neg ho, if_neg ho]
    · rw [if_neg hk, lookup_cons_eq_ite, ih]
      by_cases ho : other = k
      · have apart : other ≠ key := fun same => hk (ho.symm.trans same)
        rw [if_pos ho, if_pos ho, Option.map_some, if_neg apart]
      · rw [if_neg ho, if_neg ho]

/-- Only the queue of the key is another one, and it is there now if it was not. -/
theorem lookup_push (queues : List (κ × List ε)) (key other : κ) (event : ε) :
    (Batcher.push queues key event).lookup other =
      if other = key then some ((queues.lookup key).getD [] ++ [event])
        else queues.lookup other := by
  unfold Batcher.push
  split
  · next known =>
    rw [lookup_map_append]
    by_cases same : other = key
    · obtain ⟨events, found⟩ := Option.isSome_iff_exists.1 known
      simp [same, found]
    · simp [same]
  · next unknown =>
    rw [List.lookup_append, lookup_cons_eq_ite]
    have absent : queues.lookup key = none := Option.not_isSome_iff_eq_none.1 unknown
    by_cases same : other = key <;> simp [same, absent]

theorem nodup_keys_push {queues : List (κ × List ε)} (h : (queues.map (·.1)).Nodup) (key : κ)
    (event : ε) : ((Batcher.push queues key event).map (·.1)).Nodup := by
  unfold Batcher.push
  split
  · have same :
        ((·.1) ∘ fun (k, events) => if k = key then (k, events ++ [event]) else (k, events)) =
        fun entry : κ × List ε => entry.1 := by
      funext entry
      simp only [Function.comp_apply]
      split <;> rfl
    rw [List.map_map, same]
    exact h
  · next unknown =>
    have absent : key ∉ queues.map (·.1) := by simpa using unknown
    rw [List.map_append, List.map_singleton]
    refine List.nodup_append.2 ⟨h, by simp, ?_⟩
    intro k member other new same
    rw [same, List.mem_singleton.1 new] at member
    exact absent member

theorem ne_nil_of_mem_push {queues : List (κ × List ε)} (h : ∀ entry ∈ queues, entry.2 ≠ [])
    (key : κ) (event : ε) : ∀ entry ∈ Batcher.push queues key event, entry.2 ≠ [] := by
  intro entry member
  unfold Batcher.push at member
  split at member
  · obtain ⟨old, there, rfl⟩ := List.mem_map.1 member
    dsimp only
    split
    · simp
    · exact h old there
  · rcases List.mem_append.1 member with old | new
    · exact h entry old
    · rw [List.mem_singleton.1 new]
      simp

theorem lookup_filter_ne {α : Type} (entries : List (κ × α)) (key other : κ) :
    (entries.filter (·.1 ≠ key)).lookup other = if other = key then none
    else entries.lookup other := by
  induction entries with
  | nil => simp
  | cons entry rest ih =>
    obtain ⟨k, a⟩ := entry
    rw [lookup_cons_eq_ite]
    by_cases hk : k = key
    · subst hk
      rw [List.filter_cons_of_neg (by simp), ih]
      split <;> simp_all
    · rw [List.filter_cons_of_pos (by simpa using hk), lookup_cons_eq_ite, ih]
      by_cases ho : other = k
      · have apart : other ≠ key := fun same => hk (ho.symm.trans same)
        rw [if_pos ho, if_pos ho, if_neg apart]
      · rw [if_neg ho, if_neg ho]

/-- Where keys are distinct, the entry of a key is found. -/
theorem lookup_of_mem {α : Type} {entries : List (κ × α)} (distinct : (entries.map (·.1)).Nodup)
    {entry : κ × α} (member : entry ∈ entries) : entries.lookup entry.1 = some entry.2 := by
  obtain ⟨before, after, rfl⟩ := List.append_of_mem member
  refine List.lookup_eq_some_iff.2 ⟨before, after, rfl, fun other earlier => ?_⟩
  rw [List.map_append, List.nodup_append] at distinct
  have apart := distinct.2.2 other.1 (List.mem_map_of_mem earlier) entry.1 (by simp)
  simpa using Ne.symm apart

/-- Each key has one queue, so looking for its entries finds the queue. -/
theorem flatMap_filter_eq_lookup {queues : List (κ × List ε)} (h : (queues.map (·.1)).Nodup)
    (key : κ) : (queues.filter (·.1 = key)).flatMap (·.2) = (queues.lookup key).getD [] := by
  induction queues with
  | nil => rfl
  | cons entry rest ih =>
    obtain ⟨k, events⟩ := entry
    simp only [List.map_cons, List.nodup_cons] at h
    by_cases hk : k = key
    · subst hk
      have nothing : rest.filter (fun entry => decide (entry.1 = k)) = [] := by
        apply List.filter_eq_nil_iff.2
        intro entry member same
        exact h.1 (List.mem_map.2 ⟨entry, member, by simpa using same⟩)
      simp [nothing]
    · rw [List.filter_cons_of_neg (by simpa using hk), lookup_cons_eq_ite, if_neg (Ne.symm hk)]
      exact ih h.2

namespace Books

/-- The account of every key is settled, but for what is in hand. -/
structure Balanced (inHand : List (κ × List ε)) (books : Books κ ε) : Prop where
  nodup_keys : (books.queues.map (·.1)).Nodup
  queues_ne_nil : ∀ entry ∈ books.queues, entry.2 ≠ []
  account : ∀ key,
    books.handed key ++ (inHand.filter (·.1 = key)).flatMap (·.2) ++ books.pending key =
      books.joined key
  calls_ne_nil : ∀ call ∈ books.calls, call.2 ≠ []

variable {inHand : List (κ × List ε)} {books : Books κ ε}

theorem Balanced.opened : Balanced [] (⟨[], [], []⟩ : Books κ ε) where
  nodup_keys := List.nodup_nil
  queues_ne_nil := fun _ absent => absurd absent List.not_mem_nil
  account := fun _ => rfl
  calls_ne_nil := fun _ absent => absurd absent List.not_mem_nil

theorem Balanced.add (h : Balanced inHand books) (key : κ) (event : ε) :
    Balanced inHand (books.add key event) where
  nodup_keys := nodup_keys_push h.nodup_keys key event
  queues_ne_nil := ne_nil_of_mem_push h.queues_ne_nil key event
  account := by
    intro other
    have pending : (books.add key event).pending other =
        books.pending other ++ if other = key then [event] else [] := by
      rw [Books.pending, Books.add, lookup_push]
      by_cases same : other = key <;> simp [same, Books.pending]
    have joined : (books.add key event).joined other =
        books.joined other ++ if other = key then [event] else [] := by
      by_cases same : key = other <;> simp [Books.joined, Books.add, same, eq_comm]
    rw [pending, joined, ← h.account other, ← List.append_assoc]
    rfl
  calls_ne_nil := h.calls_ne_nil

theorem Balanced.call {key : κ} {events : List ε} (h : Balanced ((key, events) :: inHand) books)
    (nonempty : events ≠ []) : Balanced inHand (books.call key events) where
  nodup_keys := h.nodup_keys
  queues_ne_nil := h.queues_ne_nil
  account := by
    intro other
    rw [show (books.call key events).joined other = books.joined other from rfl, ← h.account other]
    by_cases same : key = other <;> simp [handed, Books.call, Books.pending, same]
  calls_ne_nil := by
    intro call member
    rcases List.mem_append.1 member with old | new
    · exact h.calls_ne_nil call old
    · rw [List.mem_singleton.1 new]
      exact nonempty

theorem Balanced.skip {key : κ} (h : Balanced ((key, []) :: inHand) books) :
    Balanced inHand books where
  nodup_keys := h.nodup_keys
  queues_ne_nil := h.queues_ne_nil
  account := by
    intro other
    rw [← h.account other]
    by_cases same : key = other <;> simp [same]
  calls_ne_nil := h.calls_ne_nil

theorem Balanced.requeue (h : Balanced inHand books) (callback : Callback κ ε τ ω) :
    Balanced inHand (books.requeue callback) := by
  cases callback with
  | plain _ => exact h
  | requeue _ other event _ _ => exact h.add other event

/-- One key is taken up. -/
theorem Balanced.takeUp (h : Balanced [] books) (key : κ) :
    Balanced [(key, books.pending key)]
      { books with queues := books.queues.filter (·.1 ≠ key) } where
  nodup_keys := h.nodup_keys.sublist (List.filter_sublist.map _)
  queues_ne_nil := fun entry member => h.queues_ne_nil entry (List.mem_filter.1 member).1
  account := by
    intro other
    have account := h.account other
    have rest : Books.pending { books with queues := books.queues.filter (·.1 ≠ key) } other =
        if other = key then [] else books.pending other := by
      rw [Books.pending, lookup_filter_ne]
      split <;> rfl
    rw [rest]
    by_cases same : key = other
    · subst same
      simpa [handed, joined] using account
    · simpa [handed, joined, same, Ne.symm same] using account
  calls_ne_nil := h.calls_ne_nil

/-- With nothing in hand, what was handed over and what waits are what joined. -/
theorem Balanced.handed_append_pending (h : Balanced [] books) (key : κ) :
    books.handed key ++ books.pending key = books.joined key := by
  have account := h.account key
  rwa [List.filter_nil, List.flatMap_nil, List.append_nil] at account

theorem Balanced.handed_eq (h : Balanced [] books) (done : books.queues = []) (key : κ) :
    books.handed key = books.joined key := by
  have account := h.handed_append_pending key
  rwa [Books.pending, done, List.lookup_nil, Option.getD_none, List.append_nil] at account

/-- Every key is taken up. -/
theorem Balanced.takeAll (h : Balanced [] books) :
    Balanced books.queues { books with queues := [] } where
  nodup_keys := List.nodup_nil
  queues_ne_nil := fun _ absent => absurd absent List.not_mem_nil
  account := by
    intro other
    have account := h.account other
    rw [flatMap_filter_eq_lookup h.nodup_keys]
    simpa [handed, joined, Books.pending] using account
  calls_ne_nil := h.calls_ne_nil

end Books

namespace Loop

variable [Timescale τ]

theorem balanced_invoke {loop : Loop κ ε τ ω} {inHand : List (κ × List ε)} {key : κ}
    {events : List ε} (h : loop.books.Balanced ((key, events) :: inHand)) (nonempty : events ≠ [])
    (callback : Callback κ ε τ ω) : (loop.invoke callback key events).books.Balanced inHand := by
  rw [books_invoke]
  exact (h.call nonempty).requeue callback

theorem balanced_expire {loop : Loop κ ε τ ω} (h : loop.books.Balanced []) (key : κ)
    (callback : Callback κ ε τ ω) : (loop.expire key callback).books.Balanced [] := by
  have taken := h.takeUp key
  unfold expire
  dsimp only
  split
  · next empty =>
    have pending : loop.books.pending key = [] := List.isEmpty_iff.1 empty
    rw [pending] at taken
    exact taken.skip
  · next filled => exact balanced_invoke taken (by simpa using filled) callback

/-- A flush takes every queue in hand and hands over one batch after the other. -/
theorem balanced_flushed (callback : Callback κ ε τ ω) :
    Flushed callback (fun loop => loop.books.Balanced []) fun inHand loop =>
      loop.books.Balanced inHand where
  cancel := fun _ h => h
  clear := fun h => h.takeAll
  skip := fun h => h.skip
  invoke := fun nonempty h => balanced_invoke h nonempty callback
  note := by
    intro loop count h
    rw [books_note]
    exact h

theorem balanced_kept : Kept (fun loop : Loop κ ε τ ω => loop.books.Balanced []) where
  perform := by
    intro loop handle rest _ h
    have begun : ({ loop with agenda := rest } : Loop κ ε τ ω).books.Balanced [] := h
    cases handle.job with
    | expire key callback => exact balanced_expire begun key callback
    | wake task => exact begun
    | resume task =>
      rw [perform, books_resume]
      exact begun
  beginRound := fun _ _ _ h => h
  setClock := fun _ h => h

end Loop

/-- A callback that queues nothing of its own: it returns, it fails, or it goes on as a delivery. -/
def Callback.IsPlain : Callback κ ε τ ω → Prop
  | plain _ => True
  | requeue .. => False

def Job.IsPlain : Job κ ε τ ω → Prop
  | expire _ callback => callback.IsPlain
  | _ => True

omit [DecidableEq κ] in
theorem Job.hereditary_isPlain : Job.Hereditary (IsPlain : Job κ ε τ ω → Prop) where
  wake := fun _ => trivial
  pause := fun _ _ => ⟨trivial, trivial⟩
  start := fun _ _ => trivial
  requeue := False.elim

def Operation.IsPlain (operation : Operation κ ε τ ω) : Prop :=
  ∀ callback ∈ operation.callback?, callback.IsPlain

namespace Loop

omit [DecidableEq κ] in
theorem requeue_of_isPlain [DecidableEq κ] (books : Books κ ε) {callback : Callback κ ε τ ω}
    (h : callback.IsPlain) : books.requeue callback = books := by
  cases callback with
  | plain _ => rfl
  | requeue => exact h.elim

variable [Timescale τ]

theorem arrivals_invoke {loop : Loop κ ε τ ω} {callback : Callback κ ε τ ω} (h : callback.IsPlain)
    (key : κ) (events : List ε) : (loop.invoke callback key events).arrivals = loop.arrivals := by
  have entry := books_invoke loop callback key events
  rw [requeue_of_isPlain _ h] at entry
  exact congrArg Books.arrivals entry

/-- Plain timers bring in nothing by themselves. -/
theorem arrivals_kept (arrivals : List (κ × ε)) :
    Kept (fun loop : Loop κ ε τ ω => Follows Job.IsPlain loop ∧ loop.arrivals = arrivals) where
  perform := by
    rintro loop handle rest agenda ⟨rule, h⟩
    refine ⟨(follows_kept Job.hereditary_isPlain).perform agenda rule, ?_⟩
    have own := rule.next agenda
    cases job : handle.job with
    | expire key callback =>
      rw [job] at own
      rw [perform, expire]
      dsimp only
      split
      · exact h
      · rw [arrivals_invoke own]
        exact h
    | wake task => exact h
    | resume task => exact (congrArg Books.arrivals (books_resume _ task)).trans h
  beginRound := fun clock runs done h =>
    ⟨(follows_kept Job.hereditary_isPlain).beginRound clock runs done h.1, h.2⟩
  setClock := fun _ h => h

theorem arrivals_flushed {callback : Callback κ ε τ ω} (plain : callback.IsPlain)
    (arrivals : List (κ × ε)) :
    Flushed callback (fun loop => loop.arrivals = arrivals) fun _ loop =>
      loop.arrivals = arrivals where
  cancel := fun _ h => h
  clear := fun h => h
  skip := fun h => h
  invoke := fun _ h => (arrivals_invoke plain _ _).trans h
  note := fun _ h => (congrArg Books.arrivals (books_note _ _)).trans h

/-- Where callbacks queue nothing of their own, the events that join are those that are added. -/
theorem arrivals_operateAll {operations : List (Operation κ ε τ ω)}
    (plain : ∀ operation ∈ operations, operation.IsPlain) {loop : Loop κ ε τ ω}
    (h : Follows Job.IsPlain loop) :
    (loop.operateAll operations).arrivals =
      loop.arrivals ++ operations.filterMap Operation.addition? := by
  induction operations generalizing loop with
  | nil => simp [operateAll]
  | cons operation rest ih =>
    have own := plain operation (by simp)
    have turns : Kept (fun other : Loop κ ε τ ω =>
        Follows Job.IsPlain other ∧ other.arrivals = loop.arrivals) := arrivals_kept loop.arrivals
    have step : Follows Job.IsPlain (loop.operate operation) ∧
        (loop.operate operation).arrivals = loop.arrivals ++ operation.addition?.toList := by
      cases operation with
      | add key event window callback =>
        refine ⟨h.add (own callback rfl) event window, ?_⟩
        exact congrArg Books.arrivals (books_add loop key event window callback)
      | advance seconds =>
        simpa [operate, Operation.addition?] using turns.advance ⟨h, rfl⟩ seconds
      | settle => simpa [operate, Operation.addition?] using turns.settle ⟨h, rfl⟩
      | flush callback =>
        have plain : callback.IsPlain := own callback rfl
        refine ⟨(follows_flushed Job.hereditary_isPlain fun _ => plain).flush h, ?_⟩
        simpa [operate, Operation.addition?] using (arrivals_flushed plain loop.arrivals).flush rfl
      | drain => simpa [operate, Operation.addition?] using turns.finish ⟨h, rfl⟩ [.batch]
    have later := ih (fun other member => plain other (by simp [member])) step.1
    rw [step.2, List.append_assoc] at later
    cases added : operation.addition? <;> simpa [operateAll, added] using later

/-- Whatever is done to a batcher in whatever order, and however its callbacks end: under every key
the batches handed over and then the queue are exactly the events that joined, in their order, and
no batch is empty. The events that join are those that are added, and those that callbacks queue. -/
theorem handed_append_queue (operations : List (Operation κ ε τ ω)) :
    let loop := (start : Loop κ ε τ ω).operateAll operations
    (∀ key, loop.books.handed key ++ loop.batcher.queue key = loop.books.joined key) ∧
    (∀ call ∈ loop.calls, call.2 ≠ []) ∧
    ((∀ operation ∈ operations, operation.IsPlain) →
      loop.arrivals = operations.filterMap Operation.addition?) := by
  have opened : (start : Loop κ ε τ ω).books.Balanced [] := Books.Balanced.opened
  have balanced := balanced_kept.operateAll
    (fun key event window callback h => books_add _ key event window callback ▸ h.add key event)
    (fun callback h => (balanced_flushed callback).flush h) operations opened
  refine ⟨balanced.handed_append_pending, balanced.calls_ne_nil, fun plain => ?_⟩
  exact arrivals_operateAll plain fun _ absent => nomatch absent

/-- Two keys, a timer that is restarted, a callback that fails and one whose delivery fails
later. -/
def mixedUse : List (Operation String Nat Rat String) :=
  let failing := .plain fun _ _ => ⟨[], .raised⟩
  let late := .plain fun _ _ => ⟨[], .awaiting [.pause 1] true⟩
  [.add "A" 1 5 failing, .add "B" 2 5 late, .advance 120, .add "A" 3 5 failing, .advance 600,
    .add "B" 4 5 late, .flush failing, .drain]

theorem arrivals_mixedUse : (∀ operation ∈ mixedUse, operation.IsPlain) ∧
    ((start : Loop String Nat Rat String).operateAll mixedUse).arrivals =
      [("A", 1), ("B", 2), ("A", 3), ("B", 4)] := by
  have plain : ∀ operation ∈ mixedUse, operation.IsPlain := by
    simp [mixedUse, Operation.IsPlain, Operation.callback?, Callback.IsPlain]
  exact ⟨plain, (handed_append_queue mixedUse).2.2 plain⟩

end Loop

end MarketAlerts.Delivery
