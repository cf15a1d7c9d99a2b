import Mathlib.Data.List.Dedup
import MarketAlerts.Calendar.ZoneRule
import MarketAlerts.Proofs.Desk.Run
import MarketAlerts.Proofs.Engine.Verdict
import MarketAlerts.Proofs.History.Log

/-!
What the statistics of a history say of the dates of its zone. The counts of a day add up to the
total of the day, the week begins on a Monday and the month on a first, and of the tickers and kinds
the one met most often leads, where the one met first comes before others met as often.
-/
namespace MarketAlerts

open Calendar

namespace AlertStatistics

section MostCommon

variable {α : Type}

/-- The leader so far and a challenger, who has to do better. -/
def leadBy (score : α → Nat) (best : Option α) (challenger : α) : Option α :=
  match best with
  | none => some challenger
  | some leader => if score leader < score challenger then some challenger else some leader

/-- Whoever leads in the end has beaten all before and is beaten by none after. -/
theorem exists_of_foldl_leadBy (score : α → Nat) (challengers : List α) :
    (challengers = [] ∧ challengers.foldl (leadBy score) none = none) ∨
    ∃ before leader after, challengers = before ++ leader :: after ∧
      challengers.foldl (leadBy score) none = some leader ∧
      (∀ b ∈ before, score b < score leader) ∧ ∀ b ∈ after, score b ≤ score leader := by
  -- From the end, since the last challenger meets the leader of all before.
  induction challengers using List.reverseRecOn with
  | nil => exact .inl ⟨rfl, rfl⟩
  | append_singleton challengers last ih =>
    right
    rw [List.foldl_append, List.foldl_cons, List.foldl_nil]
    rcases ih with ⟨rfl, nobody⟩ | ⟨before, leader, after, rfl, leads, ahead, behind⟩
    · exact ⟨[], last, [], rfl, by rw [nobody]; rfl, by simp, by simp⟩
    · rw [leads]
      by_cases better : score leader < score last
      · refine ⟨before ++ leader :: after, last, [], rfl, if_pos better, fun b member =>
          ?_, by simp⟩
        rcases List.mem_append.1 member with earlier | later
        · exact Nat.lt_trans (ahead b earlier) better
        · rcases List.mem_cons.1 later with rfl | later
          · exact better
          · exact Nat.lt_of_le_of_lt (behind b later) better
      · refine ⟨before, leader, after ++ [last], by simp, if_neg better, ahead, fun b member => ?_⟩
        rcases List.mem_append.1 member with later | final
        · exact behind b later
        · rw [List.mem_singleton.1 final]
          exact Nat.not_lt.1 better

variable [DecidableEq α] {values : List α} {a b : α}

/-- The value met most often, and of all that are met as often the one met first. -/
structure IsFavourite (values : List α) (a : α) : Prop where
  mem : a ∈ values
  count_le : ∀ b, values.count b ≤ values.count a
  idxOf_le : ∀ b ∈ values, values.count b = values.count a → values.idxOf a ≤ values.idxOf b

theorem IsFavourite.unique (ha : IsFavourite values a) (hb : IsFavourite values b) : a = b := by
  have often : values.count a = values.count b := Nat.le_antisymm (hb.count_le a) (ha.count_le b)
  have first : values.idxOf a = values.idxOf b :=
    Nat.le_antisymm (ha.idxOf_le b hb.mem often.symm) (hb.idxOf_le a ha.mem often)
  exact (List.idxOf_inj ha.mem).1 first

theorem mostCommon?_eq_foldl :
    mostCommon? values = values.eraseDups.foldl (leadBy values.count) none := rfl

/-- Distinct values stand in the order in which they are met. -/
theorem pairwise_idxOf_eraseDups (values : List α) :
    values.eraseDups.Pairwise fun a b => values.idxOf a < values.idxOf b := by
  induction values using List.reverseRecOn with
  | nil => exact List.Pairwise.nil
  | append_singleton values last ih =>
    have kept : values.eraseDups.Pairwise fun a b =>
        (values ++ [last]).idxOf a < (values ++ [last]).idxOf b := by
      refine ih.imp_of_mem fun {a b} ha hb earlier => ?_
      rw [List.mem_eraseDups] at ha hb
      rwa [List.idxOf_append_of_mem ha, List.idxOf_append_of_mem hb]
    rw [List.eraseDups_append]
    -- A value that is met for the first time stands behind all that are known.
    by_cases known : last ∈ values
    · have nothing : [last].removeAll values = [] := by simp [List.removeAll, known]
      rw [nothing]
      simpa using kept
    · have new : [last].removeAll values = [last] := by simp [List.removeAll, known]
      rw [new]
      refine List.pairwise_append.2 ⟨kept, by simp [List.eraseDups_cons], fun a ha b hb => ?_⟩
      rw [List.mem_eraseDups] at ha hb
      obtain rfl := List.mem_singleton.1 hb
      rw [List.idxOf_append_of_mem ha, List.idxOf_append_of_notMem known]
      have inside := List.idxOf_lt_length_of_mem ha
      omega

theorem mostCommon?_cases : (values = [] ∧ mostCommon? values = none) ∨
    ∃ a, mostCommon? values = some a ∧ IsFavourite values a := by
  rw [mostCommon?_eq_foldl]
  rcases exists_of_foldl_leadBy values.count values.eraseDups with
    ⟨empty, nobody⟩ | ⟨before, leader, after, shape, leads, ahead, behind⟩
  · refine .inl ⟨?_, nobody⟩
    by_contra filled
    obtain ⟨first, member⟩ := List.exists_mem_of_ne_nil _ filled
    have listed := List.mem_eraseDups.2 member
    rw [empty] at listed
    contradiction
  · have order := pairwise_idxOf_eraseDups values
    rw [shape] at order
    have listed (b : α) : b ∈ values ↔ b ∈ before ∨ b = leader ∨ b ∈ after := by
      rw [← List.mem_eraseDups, shape, List.mem_append, List.mem_cons]
    refine .inr
      ⟨leader, leads, (listed leader).2 (.inr (.inl rfl)), fun b => ?_, fun b member often => ?_⟩
    · by_cases member : b ∈ values
      · rcases (listed b).1 member with earlier | rfl | later
        · exact Nat.le_of_lt (ahead b earlier)
        · exact Nat.le_refl _
        · exact behind b later
      · rw [List.count_eq_zero_of_not_mem member]
        exact Nat.zero_le _
    · rcases (listed b).1 member with earlier | rfl | later
      · exact absurd often (Nat.ne_of_lt (ahead b earlier))
      · exact Nat.le_refl _
      · exact Nat.le_of_lt (List.rel_of_pairwise_cons (List.pairwise_append.1 order).2.1 later)

theorem mostCommon?_eq_some_iff : mostCommon? values = some a ↔ IsFavourite values a := by
  rcases @mostCommon?_cases α _ values with ⟨rfl, nobody⟩ | ⟨b, leads, favourite⟩
  · rw [nobody]
    exact ⟨nofun, fun h => absurd h.mem List.not_mem_nil⟩
  · rw [leads, Option.some.injEq]
    exact ⟨fun same => same ▸ favourite, fun h => favourite.unique h⟩

theorem mostCommon?_eq_none_iff : mostCommon? values = none ↔ values = [] := by
  rcases @mostCommon?_cases α _ values with ⟨rfl, nobody⟩ | ⟨b, leads, favourite⟩
  · simp [nobody]
  · simp [leads, List.ne_nil_of_mem favourite.mem]

end MostCommon

end AlertStatistics

namespace History

open AlertStatistics

/-- The events on the days from a first to a last one. -/
def countBetween (history : History) (zone : Zone) (first last : Nat) : Nat :=
  history.events.countP fun event =>
    first ≤ zone.dayAt event.triggeredAt ∧ zone.dayAt event.triggeredAt ≤ last

theorem countBetween_le_size (history : History) (zone : Zone) (first last : Nat) :
    history.countBetween zone first last ≤ history.size :=
  List.countP_le_length

theorem countBetween_mono (history : History) (zone : Zone) {first earlier : Nat}
    (h : earlier ≤ first) (last : Nat) :
    history.countBetween zone first last ≤ history.countBetween zone earlier last := by
  refine List.countP_mono_left fun event _ within => ?_
  simp only [decide_eq_true_eq] at within ⊢
  exact ⟨Nat.le_trans h within.1, within.2⟩

/-- Triggers per day since the first day with an event. -/
def averageUntil (history : History) (zone : Zone) (today : Nat) : Except Fault Float :=
  match (history.events.map fun event => zone.dayAt event.triggeredAt).min? with
  | none => .ok 0
  | some first => perDay history.events.length (today - first + 1)

end History

section

variable [Installation]

namespace AlertStatistics

/-- The alert of an identifier that stands last in a list. -/
def IsLastListed (alerts : List Alert) (alertId : String) (alert : Alert) : Prop :=
  ∃ earlier later, alerts = earlier ++ alert :: later ∧ alert.id = alertId ∧ ∀ other ∈ later,
    other.id ≠ alertId

theorem kindOf?_eq_some_iff {alerts : List Alert} {alertId : String}
    {kind : Document.Label AlertKind} :
    kindOf? alerts alertId = some kind ↔ ∃ alert, IsLastListed alerts alertId alert ∧
    alert.kind = kind := by
  unfold kindOf? IsLastListed
  simp only [Option.map_eq_some_iff, List.find?_eq_some_iff_append, decide_eq_true_eq,
    Bool.not_eq_true', decide_eq_false_iff_not]
  refine exists_congr fun alert => and_congr_left fun _ => ⟨?_, ?_⟩
  · rintro ⟨own, later, earlier, order, apart⟩
    refine ⟨earlier.reverse, later.reverse, ?_, own, fun other member =>
      apart other (List.mem_reverse.1 member)⟩
    rw [← List.reverse_reverse alerts, order]
    simp
  · rintro ⟨earlier, later, rfl, own, apart⟩
    exact ⟨own, later.reverse, earlier.reverse, by simp, fun other member =>
      apart other (List.mem_reverse.1 member)⟩

theorem kindOf?_eq_none_iff {alerts : List Alert} {alertId : String} :
    kindOf? alerts alertId = none ↔ ∀ alert ∈ alerts, alert.id ≠ alertId := by
  simp [kindOf?]

end AlertStatistics

namespace History

open AlertStatistics

/-- The zone of a history, whose calendar holds the present and the time of every event. -/
structure Shows (history : History) (zone : Zone) (now : Timestamp) : Prop where
  known : Zone.find? history.zone = some zone
  present : zone.Reaches now
  past : ∀ event ∈ history.events, zone.Reaches event.triggeredAt

variable {history : History} {zone : Zone} {now : Timestamp} {alerts : List Alert}

theorem exists_shows (present : ∃ there, now.inNamed history.zone = .ok there)
    (past : ∀ event ∈ history.events, ∃ there, event.triggeredAt.inNamed history.zone = .ok there) :
    ∃ zone, history.Shows zone now := by
  obtain ⟨there, shown⟩ := present
  obtain ⟨zone, known, reaches⟩ := Timestamp.exists_reaches_of_inNamed shown
  refine ⟨zone, known, reaches, fun event member => ?_⟩
  obtain ⟨there, shown⟩ := past event member
  rw [Timestamp.inNamed_eq_inZone known] at shown
  exact (Timestamp.inZone_eq_ok_iff.1 shown).1

theorem exists_inNamed_of_dayOf {t : Timestamp} {day : Nat} (h : history.dayOf t = .ok day) :
    ∃ there, t.inNamed history.zone = .ok there := by
  obtain ⟨there, shown, -⟩ := ok_of_map h
  exact ⟨there, shown⟩

theorem exists_shows_of_statistics {s : AlertStatistics}
    (returned : history.statistics alerts now = .ok s) : ∃ zone, history.Shows zone now := by
  obtain ⟨today, present, rest⟩ := ok_of_bind returned
  obtain ⟨days, past, -⟩ := ok_of_bind rest
  refine exists_shows (exists_inNamed_of_dayOf present) fun event member => ?_
  obtain ⟨day, shown⟩ := exists_of_mapM_ok past event member
  exact exists_inNamed_of_dayOf shown

/-- Where all times are shown, only the average can fail. -/
theorem statistics_eq (shows : history.Shows zone now) :
    history.statistics alerts now = (history.averageUntil zone (zone.dayAt now)).map fun average =>
      { totalAlerts := alerts.length
        activeAlerts := (alerts.filter (·.status = .active)).length
        triggeredToday := history.countBetween zone (zone.dayAt now) (zone.dayAt now)
        triggeredThisWeek := history.countBetween zone (weekStart (zone.dayAt now)) (zone.dayAt now)
        triggeredThisMonth :=
          history.countBetween zone (monthStart (zone.dayAt now)) (zone.dayAt now)
        averagePerDay := average
        topTicker := mostCommon? (history.events.map (·.ticker))
        topKind :=
          mostCommon? (history.events.filterMap fun event => kindOf? alerts event.alertId) } := by
  have present : history.dayOf now = .ok (zone.dayAt now) :=
    dayOf_of_reaches shows.known shows.present
  have past : (history.events.mapM fun event => history.dayOf event.triggeredAt) =
      .ok (history.events.map fun event => zone.dayAt event.triggeredAt) :=
    mapM_ok fun event member => dayOf_of_reaches shows.known (shows.past event member)
  have counts (first last : Nat) :
      ((history.events.map fun event => zone.dayAt event.triggeredAt).filter
      fun day => first ≤ day && day ≤ last).length = history.countBetween zone first last := by
    rw [← List.countP_eq_length_filter, List.countP_map, countBetween]
    simp [Function.comp_def]
  unfold statistics averageUntil
  simp only [present, past, ok_bind, counts]
  cases events : history.events with
  | nil => rfl
  | cons event rest =>
    rw [List.map_cons, List.min?_cons']
    dsimp only
    cases perDay (event :: rest).length _ <;> rfl

/-- Asked for each alert with an event once, the counts of the day add up to all events of the
day. -/
theorem exists_sum_countToday (shows : history.Shows zone now) :
    ∃ counts,
    ((history.events.map (·.alertId)).dedup.mapM fun alertId => history.countToday alertId now) =
        .ok counts ∧ counts.sum = history.countBetween zone (zone.dayAt now) (zone.dayAt now) := by
  refine ⟨_, mapM_ok fun alertId _ => countToday_of_reaches shows.known shows.present
    fun event member _ => shows.past event member, ?_⟩
  have sum := sum_countP_dates (fun event => event.alertId)
    (fun event => decide (zone.dateOf event.triggeredAt = zone.dateOf now))
    (List.nodup_dedup (history.events.map (·.alertId)))
    fun event (member : event ∈ history.events) _ => List.mem_dedup.2 (List.mem_map_of_mem member)
  have same (event : Event) : zone.dateOf event.triggeredAt = zone.dateOf now ↔
      zone.dayAt now ≤ zone.dayAt event.triggeredAt ∧
      zone.dayAt event.triggeredAt ≤ zone.dayAt now := by
    rw [Zone.dateOf, Zone.dateOf, ofDays_inj]
    exact eq_comm.trans Nat.le_antisymm_iff
  simp only [decide_eq_true_eq, same] at sum
  simpa only [countBetween, same, and_comm] using sum

variable {s : AlertStatistics}

/-- The statistics of a history agree with its counts and with the calendar. -/
theorem statistics_agree (returned : history.statistics alerts now = .ok s) :
    ∃ zone, history.Shows zone now ∧
      let today := zone.dayAt now
      let tickers := history.events.map (·.ticker)
      let kinds := history.events.filterMap fun event => kindOf? alerts event.alertId
      (∃ counts,
        ((history.events.map (·.alertId)).dedup.mapM fun alertId =>
          history.countToday alertId now) =
          .ok counts ∧ s.triggeredToday = counts.sum) ∧
      (s.triggeredToday ≤ s.triggeredThisWeek ∧ s.triggeredThisWeek ≤ history.size) ∧
      (s.triggeredToday ≤ s.triggeredThisMonth ∧ s.triggeredThisMonth ≤ history.size) ∧
      (∃ monday, monday % 7 = 0 ∧ monday ≤ today ∧ today < monday + 7 ∧
        s.triggeredThisWeek = history.countBetween zone monday today) ∧
      (∃ first, Date.ofDays first = { zone.dateOf now with day := 1 } ∧
        s.triggeredThisMonth = history.countBetween zone first today) ∧
      (∀ ticker, s.topTicker = some ticker ↔ IsFavourite tickers ticker) ∧
      (s.topTicker = none ↔ history.events = []) ∧
      (∀ kind, s.topKind = some kind ↔ IsFavourite kinds kind) ∧
      (s.topKind = none ↔ ∀ event ∈ history.events, ∀ alert ∈ alerts, alert.id ≠ event.alertId) ∧
      ∀ alertId kind, kindOf? alerts alertId = some kind ↔
        ∃ alert, IsLastListed alerts alertId alert ∧ alert.kind = kind := by
  obtain ⟨zone, shows⟩ := exists_shows_of_statistics returned
  rw [statistics_eq shows] at returned
  obtain ⟨average, -, rfl⟩ := ok_of_map returned
  obtain ⟨counts, counted, sum⟩ := exists_sum_countToday shows
  obtain ⟨begun, runs, monday⟩ := monday_weekStart (zone.dayAt now)
  have first : monthStart (zone.dayAt now) ≤ zone.dayAt now := Nat.sub_le _ _
  refine ⟨zone, shows, ⟨counts, counted, congrArg Nat.cast sum.symm⟩, ?_, ?_, ?_, ?_, ?_, ?_, ?_,
    ?_, ?_⟩
  · exact ⟨Int.ofNat_le.2 (countBetween_mono _ _ begun _),
      Int.ofNat_le.2 (countBetween_le_size _ _ _ _)⟩
  · exact ⟨Int.ofNat_le.2 (countBetween_mono _ _ first _),
      Int.ofNat_le.2 (countBetween_le_size _ _ _ _)⟩
  · exact ⟨_, monday, begun, runs, rfl⟩
  · exact ⟨_, ofDays_monthStart _, rfl⟩
  · exact fun ticker => mostCommon?_eq_some_iff
  · exact mostCommon?_eq_none_iff.trans List.map_eq_nil_iff
  · exact fun kind => mostCommon?_eq_some_iff
  · refine mostCommon?_eq_none_iff.trans (List.filterMap_eq_nil_iff.trans ?_)
    exact forall₂_congr fun event _ => kindOf?_eq_none_iff
  · exact fun alertId kind => kindOf?_eq_some_iff

end History

end

namespace History

open AlertStatistics

/-- Minutes of July 2024 in universal time. -/
def inJuly (minutes : Nat) : Timestamp :=
  { wall := (Date.mk 2024 7 1).toDays * day + minutes % 44640 * minute
    offset := none
    wall_lt := by
      have begun : (Date.mk 2024 7 1).toDays = 739067 := by decide
      have last : horizon = 3652059 * day := by decide
      rw [begun, last]
      unfold day hour minute second
      omega }

/-- Events about Thursday, the eleventh of July 2024, on London clocks. The first is a minute before
the month and the third a minute before the week; the second and the fourth are at their beginnings.
The next two are the first and the last minute of the day, and the last event is still to come. -/
def aboutJuly : History :=
  ⟨"Europe/London", 10, [firedAt "a" (endOfJune 1379 none), firedAt "b" (endOfJune 1380 none),
    firedAt "gone" (inJuly 10019), firedAt "b" (inJuly 10020), firedAt "a" (inJuly 14340),
    firedAt "b" (inJuly 15779), firedAt "a" (inJuly 15780)]⟩

/-- Two alerts with one identifier, and one with another. -/
def namesakes : List Alert :=
  [Alert.eager "a" false, Alert.eager "b" false,
    { Alert.eager "a" false with kind := .known .anomaly }]

/-- Today, the week and the month have different counts. Of the two kinds that are met as often the
one leads that is met first, which is not the kind of the alert listed first. -/
theorem statistics_agree_aboutJuly :
    ∃ s, aboutJuly.statistics namesakes (inJuly 15000) = .ok s ∧
      s.triggeredToday = 2 ∧ s.triggeredThisWeek = 3 ∧ s.triggeredThisMonth = 5 ∧
      s.topTicker = some "ACME" ∧ s.topKind = some (.known .anomaly) := by
  let now := inJuly 15000
  have london : Zone.find? "Europe/London" = some ZoneRule.london.zone :=
    Zone.find?_of_lookup (by decide +kernel) rfl
  have fine : (aboutJuly.statistics namesakes now).isOk = true := by decide +kernel
  have thursday : ZoneRule.london.zone.dayAt now = 739077 := by decide +kernel
  cases returned : aboutJuly.statistics namesakes now with
  | error fault =>
    rw [returned] at fine
    exact absurd fine Bool.false_ne_true
  | ok s =>
    obtain ⟨zone, shows, ⟨counts, asked, sum⟩, -, -, ⟨monday, start, begun, runs, week⟩,
      ⟨first, same, month⟩, ticker, -, kind, -⟩ := statistics_agree returned
    obtain rfl : ZoneRule.london.zone = zone := Option.some.inj (london.symm.trans shows.known)
    refine ⟨s, rfl, ?_, ?_, ?_, ?_, ?_⟩
    · obtain rfl : [0, 1, 1] = counts := Except.ok.inj (Eq.trans (by decide +kernel) asked)
      exact sum
    · rw [thursday] at begun runs week
      obtain rfl : monday = 739074 := by omega
      have counted : aboutJuly.countBetween ZoneRule.london.zone 739074 739077 = 3 := by
        decide +kernel
      rw [week, counted]
      rfl
    · have july : { ZoneRule.london.zone.dateOf now with day := 1 } = Date.ofDays 739067 := by
        decide +kernel
      have counted : aboutJuly.countBetween ZoneRule.london.zone 739067 739077 = 5 := by
        decide +kernel
      rw [july, ofDays_inj] at same
      rw [month, same, thursday, counted]
      rfl
    · exact (ticker "ACME").2 (mostCommon?_eq_some_iff.1 (by decide +kernel))
    · exact (kind (.known .anomaly)).2 (mostCommon?_eq_some_iff.1 (by decide +kernel))

end History

end MarketAlerts
