import MarketAlerts.Proofs.Delivery.Turns

/-!
The books of a loop: which batches went to callbacks, which events came in, and which still wait.
Every operation is one entry in these books or leaves them as they are, so what is lost, repeated or
mixed shows in them.
-/
namespace MarketAlerts.Delivery

variable {κ ε τ ω : Type}

@[ext] structure Books (κ ε : Type) where
  /-- Batches handed to callbacks, in the order of the calls. -/
  calls : List (κ × List ε)
  /-- Events that joined a queue, in the order in which they came. -/
  arrivals : List (κ × ε)
  queues : List (κ × List ε)

namespace Books

def call (books : Books κ ε) (key : κ) (events : List ε) : Books κ ε :=
  { books with calls := books.calls ++ [(key, events)] }

/-- What a note of the journal adds to the books. -/
def enter (books : Books κ ε) : Note κ ε τ ω → Books κ ε
  | .joined key event => { books with arrivals := books.arrivals ++ [(key, event)] }
  | .called key events => books.call key events
  | _ => books

variable [DecidableEq κ]

def add (books : Books κ ε) (key : κ) (event : ε) : Books κ ε :=
  { books with
    arrivals := books.arrivals ++ [(key, event)]
    queues := Batcher.push books.queues key event }

/-- The events handed over under a key, batch after batch. -/
def handed (books : Books κ ε) (key : κ) : List ε :=
  (books.calls.filter (·.1 = key)).flatMap (·.2)

/-- The events that joined the queue of a key. -/
def joined (books : Books κ ε) (key : κ) : List ε :=
  (books.arrivals.filter (·.1 = key)).map (·.2)

/-- The events that wait under a key. -/
def pending (books : Books κ ε) (key : κ) : List ε :=
  (books.queues.lookup key).getD []

/-- A callback that queues an event of its own makes one more entry. -/
def requeue (books : Books κ ε) : Callback κ ε τ ω → Books κ ε
  | .plain _ => books
  | .requeue _ key event _ _ => books.add key event

end Books

namespace Loop

def calls (loop : Loop κ ε τ ω) : List (κ × List ε) :=
  loop.journal.filterMap fun
    | (_, .called key events) => some (key, events)
    | _ => none

def arrivals (loop : Loop κ ε τ ω) : List (κ × ε) :=
  loop.journal.filterMap fun
    | (_, .joined key event) => some (key, event)
    | _ => none

def books (loop : Loop κ ε τ ω) : Books κ ε :=
  ⟨loop.calls, loop.arrivals, loop.batcher.queues⟩

theorem books_note (loop : Loop κ ε τ ω) (what : Note κ ε τ ω) :
    (loop.note what).books = loop.books.enter what := by
  cases what <;> simp [books, calls, arrivals, note, Books.enter, Books.call]

@[simp] theorem books_emitAll (loop : Loop κ ε τ ω) (outputs : List ω) :
    (loop.emitAll outputs).books = loop.books := by
  simp [books, calls, arrivals, emitAll, List.filterMap_append, List.filterMap_map]

@[simp] theorem books_arm (loop : Loop κ ε τ ω) (deadline : τ) (job : Job κ ε τ ω) :
    (loop.arm deadline job).books = loop.books := rfl

@[simp] theorem books_soon (loop : Loop κ ε τ ω) (job : Job κ ε τ ω) :
    (loop.soon job).books = loop.books := rfl

@[simp] theorem books_settleOutcome (loop : Loop κ ε τ ω) (key : κ) (outcome : Outcome τ ω) :
    (loop.settleOutcome key outcome).books = loop.books := by
  cases outcome with
  | returned => rfl
  | raised => exact books_note loop _
  | awaiting actions fails => rfl

section Clock

variable [Timescale τ]

@[simp] theorem books_resume (loop : Loop κ ε τ ω) (task : Task κ τ ω) :
    (loop.resume task).books = loop.books := by
  unfold resume
  dsimp only
  split
  · split
    · rw [books_arm, books_emitAll]
    · rw [books_soon, books_emitAll]
  · split
    · rw [books_note]; exact books_emitAll loop _
    · exact books_emitAll loop _

end Clock

variable [DecidableEq κ]

@[simp] theorem books_dropTimer (loop : Loop κ ε τ ω) (key : κ) :
    (loop.dropTimer key).books = loop.books := by
  unfold dropTimer
  split <;> rfl

variable [Timescale τ]

theorem books_add (loop : Loop κ ε τ ω) (key : κ) (event : ε) (window : τ)
    (callback : Callback κ ε τ ω) :
    (loop.add key event window callback).books = loop.books.add key event := by
  have joined : ((loop.dropTimer key).note (.joined key event)).books =
      { loop.books with arrivals := loop.books.arrivals ++ [(key, event)] } := by
    rw [books_note, books_dropTimer]; rfl
  have calls := congrArg Books.calls joined
  have arrivals := congrArg Books.arrivals joined
  unfold add
  dsimp only
  split
  · rw [books_note]
    exact Books.ext calls arrivals rfl
  · exact Books.ext calls arrivals rfl

theorem books_invoke (loop : Loop κ ε τ ω) (callback : Callback κ ε τ ω) (key : κ)
    (events : List ε) :
    (loop.invoke callback key events).books = (loop.books.call key events).requeue callback := by
  cases callback with
  | plain reply => simp [invoke, books_note, Books.enter, Books.requeue]
  | requeue reply other event window next =>
    simp [invoke, books_add, books_note, Books.enter, Books.requeue]

end Loop

end MarketAlerts.Delivery
