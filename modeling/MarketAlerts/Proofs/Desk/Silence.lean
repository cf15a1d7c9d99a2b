import MarketAlerts.Calendar.ZoneRule
import MarketAlerts.Proofs.Desk.Reports

/-!
Silence. No tick makes an event of an alert that is not active, and nothing makes an alert active
but a toggle or the end of its snooze. The end of an old snooze may stay written in an alert that is
dismissed, expired or disabled; it is never in force again, for a new snooze puts its own end in
that place.
-/
namespace MarketAlerts

open Calendar

/-- The end of the snooze in force after a command, where another was in force before. -/
def Command.inForce (now : Timestamp) (wake : Option Timestamp) : Command → Option Timestamp
  | .snooze hours => (Alert.wakeTime hours now).toOption
  | .dismiss | .expire => none
  | .resume | .toggle => wake

namespace Move

/-- What a user tells the alert at a position. -/
def commandTo (position : Nat) : Move → Option Command
  | .command place told _ => if place = position then some told else none
  | _ => none

/-- The time at which a move looks whether the snooze of the alert at a position is over. -/
def looksAt (position : Nat) : Move → Option Timestamp
  | .tick listed _ now => if position ∈ listed then some now else none
  | .command place .resume now => if place = position then some now else none
  | _ => none

/-- The end of the snooze in force at a position after a move. -/
def inForce (position : Nat) (wake : Option Timestamp) : Move → Option Timestamp
  | .command place told now => if place = position then told.inForce now wake else wake
  | _ => wake

/-- Where a move snoozes the alert at a position, the snooze has an end. -/
def Succeeds (position : Nat) (move : Move) : Prop :=
  ∀ hours now, move = .command position (.snooze hours) now → ∃ wake,
    Alert.wakeTime hours now = .ok wake

/-- Where a move looks at the alert at a position, it does so before a given time. -/
def Before (position : Nat) (wake : Timestamp) (move : Move) : Prop :=
  ∀ now ∈ move.looksAt position, now.instant < wake.instant

/-- A move comes before the end of a snooze, and is neither a toggle nor another snooze. -/
structure Spares (position : Nat) (wake : Timestamp) (move : Move) : Prop where
  before : move.Before position wake
  untoggled : move.commandTo position ≠ some .toggle
  unsnoozed : ∀ hours, move.commandTo position ≠ some (.snooze hours)

/-- A move comes before the end of a snooze and changes no status at that position. -/
structure Waits (position : Nat) (wake : Timestamp) (move : Move) : Prop where
  before : move.Before position wake
  uncommanded : ∀ told ∈ move.commandTo position, told = .resume

/-- A move leaves a silent alert silent: it is no toggle, it comes before the end of the snooze in
force, and if it is a snooze itself, it succeeds. -/
structure Respects (position : Nat) (wake : Option Timestamp) (move : Move) : Prop where
  before : ∀ time ∈ wake, move.Before position time
  untoggled : move.commandTo position ≠ some .toggle
  succeeds : move.Succeeds position

variable {position : Nat} {wake : Timestamp} {move : Move}

theorem Spares.respects (spares : move.Spares position wake) {start : Option Timestamp}
    (only : ∀ time ∈ start, time = wake) : move.Respects position start where
  before time one := only time one ▸ spares.before
  untoggled := spares.untoggled
  succeeds hours now same := by
    have unsnoozed := spares.unsnoozed hours
    simp [same, commandTo] at unsnoozed

/-- Where no snooze comes in between, the end in force is the first one, if any. -/
theorem Spares.inForce (spares : move.Spares position wake) {start : Option Timestamp}
    (only : ∀ time ∈ start, time = wake) : ∀ time ∈ move.inForce position start, time = wake := by
  unfold Move.inForce
  split
  · next place told now =>
    split
    · next here =>
      have unsnoozed := spares.unsnoozed
      cases told with
      | snooze hours => simp [commandTo, here] at unsnoozed
      | dismiss | expire => simp [Command.inForce]
      | resume | toggle => exact only
    · exact only
  · exact only

end Move

/-- One move after the other leaves the alert at a position silent, given the end of the snooze in
force before the first of them, if there is one. -/
inductive Undisturbed (position : Nat) : Option Timestamp → List Move → Prop
  | done (wake : Option Timestamp) : Undisturbed position wake []
  | step {wake : Option Timestamp} {move : Move} {rest : List Move} : move.Respects position wake →
      Undisturbed position (move.inForce position wake) rest →
      Undisturbed position wake (move :: rest)

theorem Undisturbed.of_spares {position : Nat} {wake : Timestamp} {moves : List Move}
    (spares : ∀ move ∈ moves, move.Spares position wake) {start : Option Timestamp}
    (only : ∀ time ∈ start, time = wake) : Undisturbed position start moves := by
  induction moves generalizing start with
  | nil => exact .done start
  | cons move rest ih =>
    have first := spares move List.mem_cons_self
    have later := fun other member => spares other (List.mem_cons_of_mem move member)
    exact .step (first.respects only) (ih later (first.inForce only))

section

variable [Installation]

/-- An alert is not active; where it is snoozed, its snooze has the given end. -/
structure Alert.Silent (alert : Alert) (wake : Option Timestamp) : Prop where
  inactive : alert.status ≠ .active
  ends : alert.status = .snoozed → alert.snoozedUntil = wake

namespace Engine

variable {engine : Engine} {alert : Alert}

/-- An alert that is not active makes no event. -/
theorem event?_of_inactive (inactive : alert.status ≠ .active) (market : Market) (now : Timestamp)
    (id : String) : (engine.evaluateListed alert market now id).event? = none := by
  cases fired : (engine.evaluateListed alert market now id).event? with
  | none => rfl
  | some event =>
    obtain ⟨count, _, passed⟩ := (fires_of_evaluateListed fired).passed
    exact absurd (Gate.screen_eq_passed_iff.1 passed .status) inactive

/-- Evaluating an alert that is not active leaves nothing to keep book of. -/
theorem booked_of_inactive (inactive : alert.status ≠ .active) (market : Market) (now : Timestamp)
    (id : String) (time : Timestamp) :
    alert.booked time (engine.evaluateListed alert market now id) = alert := by
  have silent : (engine.evaluateListed alert market now id).event? = none :=
    event?_of_inactive inactive market now id
  unfold Alert.booked
  split
  · next reason blocked =>
    obtain ⟨count, _, held⟩ := screened_of_evaluateListed blocked
    exact absurd ((Gate.isFirstUnmet_of_screen held).active (by decide)) inactive
  · next event fired => simp [Evaluation.event?, fired] at silent
  · rfl

end Engine

namespace Alert

/-- Nothing wakes a silent alert before its time. -/
theorem Silent.resumeIfDue {alert : Alert} {wake : Option Timestamp} (silent : alert.Silent wake)
    {now : Timestamp} (early : ∀ time ∈ wake, now.instant < time.instant) :
    (alert.resumeIfDue now).alert = alert := by
  have asleep : ¬ alert.isDue now = true := by
    intro due
    rw [isDue, Bool.and_eq_true, decide_eq_true_eq, Option.any_eq_true] at due
    obtain ⟨snoozed, time, written, reached⟩ := due
    have later := early time (silent.ends snoozed ▸ written)
    rw [decide_eq_true_eq] at reached
    omega
  rw [Alert.resumeIfDue, if_neg asleep]

theorem status_snooze (alert : Alert) (hours : Number.Quantity) (now : Timestamp) :
    (alert.snooze hours now).alert.status = .snoozed := by
  unfold snooze
  dsimp only
  split <;> rfl

theorem silent_snooze (alert : Alert) (hours : Number.Quantity) (now : Timestamp) :
    (alert.snooze hours now).alert.Silent (alert.snooze hours now).alert.snoozedUntil :=
  ⟨by simp [status_snooze], fun _ => rfl⟩

/-- An alert that is neither active nor snoozed is silent, whatever end is written in it. -/
theorem silent_of_status {alert : Alert} (inactive : alert.status ≠ .active)
    (unsnoozed : alert.status ≠ .snoozed) (wake : Option Timestamp) : alert.Silent wake :=
  ⟨inactive, fun snoozed => absurd snoozed unsnoozed⟩

theorem silent_dismiss (alert : Alert) (now : Timestamp) (wake : Option Timestamp) :
    (alert.dismiss now).Silent wake :=
  silent_of_status (by simp [dismiss]) (by simp [dismiss]) wake

theorem silent_expire (alert : Alert) (now : Timestamp) (wake : Option Timestamp) :
    (alert.expire now).alert.Silent wake := by
  have expired : (alert.expire now).alert.status = .expired := by
    by_cases already : alert.status = .expired <;> simp [expire, already]
  exact silent_of_status (by simp [expired]) (by simp [expired]) wake

end Alert

namespace Desk

variable {desk : Desk} {position : Nat} {alert : Alert} {wake : Option Timestamp}

/-- A tick before its time leaves a silent alert as it is, and makes no event of it. -/
theorem tick_silent (found : desk.alerts[position]? = some alert) (silent : alert.Silent wake)
    {listed : List Nat} {market : Market} {now : Timestamp}
    (early : ∀ time ∈ wake, (Move.tick listed market now).Before position time) :
    (desk.tick listed market now).desk.alerts[position]? = some alert ∧
      firedAt position (desk.fired (.tick listed market now)) = [] := by
  have awake : (desk.awake listed now.aware).alerts[position]? = some alert := by
    rw [alert_awake, found, Option.map_some]
    split
    · next member =>
      rw [silent.resumeIfDue]
      intro time one
      exact early time one now (by simp [Move.looksAt, member])
    · rfl
  constructor
  · rw [alert_tick, awake, Option.map_some, Option.some.injEq]
    -- Each report is kept book of in an alert that the ones before have left as it was.
    refine List.foldlRecOn _ _ (motive := fun kept => kept = alert) rfl ?_
    rintro _ rfl evaluation member
    obtain ⟨id, rfl⟩ := eq_of_mem_reports member awake
    exact Engine.booked_of_inactive silent.inactive market now.aware id now.aware
  · rw [firedAt_tick, List.filterMap_eq_nil_iff]
    intro evaluation member
    obtain ⟨id, rfl⟩ := eq_of_mem_reports member awake
    exact Engine.event?_of_inactive silent.inactive market now.aware id

theorem alert_obey (found : desk.alerts[position]? = some alert) (place : Nat) (now : Timestamp)
    (told : Command) : (desk.obey place now told).alerts[position]? =
      some (if place = position then (alert.obey now told).alert else alert) := by
  rw [alerts_obey, List.getElem?_modify, found, Option.map_eq_map, Option.map_some]

/-- A command that a silent alert is told leaves it silent, until the end that is in force then. -/
theorem obey_silent (silent : alert.Silent wake) {told : Command} {now : Timestamp}
    (respects : (Move.command position told now).Respects position wake) :
    (alert.obey now told).alert.Silent (told.inForce now wake) := by
  cases told with
  | snooze hours =>
    obtain ⟨finish, ends⟩ := respects.succeeds hours now rfl
    have written : (alert.snooze hours now).alert.snoozedUntil = some finish := by
      rw [Alert.snooze, ends]
    have asleep := alert.silent_snooze hours now
    rw [written] at asleep
    rw [Command.inForce, ends]
    exact asleep
  | resume =>
    have kept : (alert.obey now .resume).alert = alert :=
      silent.resumeIfDue fun time one => respects.before time one now (by simp [Move.looksAt])
    rw [kept]
    exact silent
  | toggle => exact absurd (by simp [Move.commandTo]) respects.untoggled
  | dismiss => exact alert.silent_dismiss now none
  | expire => exact alert.silent_expire now none

/-- A move that respects its silence makes no event of a silent alert, and keeps it silent. -/
theorem move_silent (found : desk.alerts[position]? = some alert) (silent : alert.Silent wake)
    {move : Move} (respects : move.Respects position wake) :
    (∃ after, (desk.move move).alerts[position]? = some after ∧
      after.Silent (move.inForce position wake)) ∧
    firedAt position (desk.fired move) = [] := by
  cases move with
  | tick listed market now =>
    obtain ⟨kept, nothing⟩ := tick_silent found silent respects.before
    exact ⟨⟨alert, kept, silent⟩, nothing⟩
  | command place told now =>
    refine ⟨⟨_, alert_obey found place now told, ?_⟩, rfl⟩
    by_cases here : place = position
    · subst here
      rw [if_pos rfl, Move.inForce, if_pos rfl]
      exact obey_silent silent respects
    · rw [if_neg here, Move.inForce, if_neg here]
      exact silent
  | _ => exact ⟨⟨alert, found, silent⟩, rfl⟩

theorem run_silent (found : desk.alerts[position]? = some alert) (silent : alert.Silent wake)
    {moves : List Move} (undisturbed : Undisturbed position wake moves) :
    firedAt position (desk.firings moves) = [] := by
  induction undisturbed generalizing desk alert with
  | done wake => rfl
  | step respects _ ih =>
    obtain ⟨⟨after, there, still⟩, nothing⟩ := move_silent found silent respects
    rw [firings, firedAt_append, nothing, List.nil_append]
    exact ih there still

/-- An alert stays as it is while its snooze is waited for. -/
theorem move_waiting (found : desk.alerts[position]? = some alert) {wake : Timestamp}
    (silent : alert.Silent (some wake)) {move : Move} (waits : move.Waits position wake) :
    (desk.move move).alerts[position]? = some alert := by
  cases move with
  | tick listed market now =>
    refine (tick_silent found silent ?_).1
    simpa using waits.before
  | command place told now =>
    rw [Desk.move, alert_obey found]
    split
    · next here =>
      obtain rfl : told = .resume := waits.uncommanded told (by simp [Move.commandTo, here])
      have early : now.instant < wake.instant := waits.before now (by simp [Move.looksAt, here])
      rw [Alert.obey, silent.resumeIfDue (by simpa using early)]
    · rfl
  | _ => exact found

theorem run_waiting (found : desk.alerts[position]? = some alert) {wake : Timestamp}
    (silent : alert.Silent (some wake)) {moves : List Move}
    (waits : ∀ move ∈ moves, move.Waits position wake) :
    (desk.run moves).alerts[position]? = some alert := by
  induction moves generalizing desk with
  | nil => exact found
  | cons move rest ih =>
    exact ih (move_waiting found silent (waits move List.mem_cons_self)) fun other member =>
      waits other (List.mem_cons_of_mem _ member)

/-- A tick that comes once a snooze is over evaluates the alert awake. -/
theorem awake_of_due (found : desk.alerts[position]? = some alert)
    (snoozed : alert.status = .snoozed) {wake now : Timestamp}
    (ends : alert.snoozedUntil = some wake) (past : wake.instant ≤ now.instant) {listed : List Nat}
    (member : position ∈ listed) : (desk.awake listed now).alerts[position]? =
      some { alert with status := .active, snoozedUntil := none, updatedAt := now } := by
  have due : alert.isDue now = true := by simp [Alert.isDue, snoozed, ends, past]
  rw [alert_awake, found, Option.map_some, if_pos member, Alert.resumeIfDue, if_pos due]

/-- A snooze that ends keeps an alert silent until its end, unless the alert is toggled or snoozed
again, or something has looked at it after the end. The first tick to list it after the end, with no
command in between, finds it awake and evaluates it so. An alert that is dismissed, expired or
disabled keeps silent until it is toggled, or snoozed and then looked at after the end of the snooze
in force. -/
theorem keeps_silent (found : desk.alerts[position]? = some alert) (now : Timestamp)
    (moves : List Move) :
    (∀ hours wake, (alert.snooze hours now).result = .ok () →
      (alert.snooze hours now).alert.snoozedUntil = some wake →
      let snoozed := desk.move (.command position (.snooze hours) now)
      ((∀ move ∈ moves, move.Spares position wake) →
        firedAt position (snoozed.firings moves) = []) ∧
      ((∀ move ∈ moves, move.Waits position wake) → ∀ listed market later,
        position ∈ listed → wake.instant ≤ later.instant →
        let reached := snoozed.run moves
        ∃ woken, (reached.awake listed later.aware).alerts[position]? = some woken ∧
          woken = { (alert.snooze hours now).alert with
            status := .active, snoozedUntil := none, updatedAt := later.aware } ∧
          (reached.reports listed market later position).length = listed.count position ∧
          ∀ evaluation ∈ reached.reports listed market later position,
            ∃ id, evaluation = reached.engine.evaluateListed woken market later.aware id)) ∧
    ∀ told : Command, told = .dismiss ∨ told = .expire ∨
        told = .toggle ∧ (alert.toggle now).status = .disabled →
      Undisturbed position none moves →
      firedAt position ((desk.move (.command position told now)).firings moves) = [] := by
  have obeyed (told : Command) : (desk.move (.command position told now)).alerts[position]? =
      some (alert.obey now told).alert := by
    rw [Desk.move, alert_obey found, if_pos rfl]
  constructor
  · intro hours wake _ ends snoozed
    have there : snoozed.alerts[position]? = some (alert.snooze hours now).alert :=
      obeyed (.snooze hours)
    have silent := alert.silent_snooze hours now
    rw [ends] at silent
    constructor
    · intro spares
      exact run_silent there silent (.of_spares spares (by simp))
    · intro waits listed market later member past reached
      have waiting := run_waiting there silent waits
      have due : wake.instant ≤ later.aware.instant := past
      have awake := awake_of_due waiting (alert.status_snooze hours now) ends due member
      refine ⟨_, awake, rfl, length_reports _ _ _ _ (List.getElem?_eq_some_iff.1 waiting).1, ?_⟩
      intro evaluation report
      exact eq_of_mem_reports report awake
  · intro told silencing undisturbed
    have silent : (alert.obey now told).alert.Silent none := by
      rcases silencing with rfl | rfl | ⟨rfl, disabled⟩
      · exact alert.silent_dismiss now none
      · exact alert.silent_expire now none
      · exact Alert.silent_of_status (by simp [Alert.obey, disabled])
          (by simp [Alert.obey, disabled]) none
    exact run_silent (obeyed told) silent undisturbed

end Desk

end

namespace Desk

/-- Two ticks before eight o'clock. -/
def morning : List Move :=
  [.tick [0, 1] .steady (oClock 4), .tick [1, 0] .steady (oClock 6)]

theorem keeps_silent_morning :
    let snooze : Move := .command 0 (.snooze (.whole 8)) (oClock 0)
    (firedAt 0 (pair.firings morning)).map (·.id) = ["1-0", "2-1"] ∧
    firedAt 0 ((pair.move snooze).firings morning) = [] ∧
    (∃ woken, (((pair.move snooze).run morning).awake [0] (oClock 12).aware).alerts[0]? =
      some woken ∧
      woken.status = .active ∧ woken.snoozedUntil = none) ∧
    firedAt 0 ((pair.move (.command 0 .dismiss (oClock 0))).firings (snooze :: morning)) = [] := by
  intro snooze
  let eight : Timestamp := (oClock 8).aware
  have found : pair.alerts[0]? = some (Alert.eager "first" true) := rfl
  have ends : Alert.wakeTime (.whole 8) (oClock 0) = .ok eight := ok_of_toOption (by decide +kernel)
  have before : ∀ move ∈ morning, move.Before 0 eight ∧ move.commandTo 0 = none := by
    have first : (oClock 4).instant < eight.instant := by decide
    have second : (oClock 6).instant < eight.instant := by decide
    simp [morning, Move.Before, Move.looksAt, Move.commandTo, first, second]
  have spares : ∀ move ∈ morning, move.Spares 0 eight := by
    intro move member
    obtain ⟨early, uncommanded⟩ := before move member
    exact ⟨early, by simp [uncommanded], by simp [uncommanded]⟩
  have waits : ∀ move ∈ morning, move.Waits 0 eight := by
    intro move member
    obtain ⟨early, uncommanded⟩ := before move member
    exact ⟨early, by simp [uncommanded]⟩
  have undisturbed : Undisturbed 0 none (snooze :: morning) := by
    refine .step ⟨by simp, by simp [snooze, Move.commandTo], ?_⟩ (.of_spares spares ?_)
    · intro hours now same
      simp only [snooze, Move.command.injEq, Command.snooze.injEq, true_and] at same
      obtain ⟨rfl, rfl⟩ := same
      exact ⟨eight, ends⟩
    · simp [snooze, Move.inForce, Command.inForce, ends, Except.toOption]
  obtain ⟨snoozed, -⟩ := keeps_silent found (oClock 0) morning
  obtain ⟨silent, wakes⟩ :=
    snoozed (.whole 8) eight (by rw [Alert.snooze, ends]) (by rw [Alert.snooze, ends])
  obtain ⟨woken, awake, same, -⟩ :=
    wakes waits [0] .steady (oClock 12) List.mem_cons_self (by decide)
  refine ⟨by decide +kernel, silent spares, ⟨woken, awake, ?_, ?_⟩, ?_⟩
  · rw [same]
  · rw [same]
  · exact (keeps_silent found (oClock 0) (snooze :: morning)).2 .dismiss (.inl rfl) undisturbed

end Desk

end MarketAlerts
