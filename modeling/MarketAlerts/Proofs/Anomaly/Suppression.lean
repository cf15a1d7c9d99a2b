import MarketAlerts.Anomaly.Detection
import MarketAlerts.Proofs.Calendar.Zones
import MarketAlerts.Proofs.Engine.Verdict

/-!
What news does to an anomaly. The three signals alone decide what is unusual. Recent news keeps an
anomaly from firing where its absence is asked for, and is named as the explanation then; it does
nothing else. Only a look back from articles past the first day of the calendar fails.
-/
namespace MarketAlerts

open Calendar

namespace Coverage

variable {α : Type}

/-- There is news no older than a lookback. An article without a date counts; where no articles are
carried, the count is trusted. -/
def HasRecent (news : Option (Coverage α)) (lookback : Nat) (now : Timestamp) : Prop :=
  ∃ told, news = some told ∧ if told.articles = [] then 0 < told.count else
    ∃ article ∈ told.articles, ∀ published, article.publishedAt = some published →
      now.instant - lookback ≤ published.instant

/-- Articles are carried, and the lookback leads past the first day of the calendar. -/
def LooksTooFar (news : Option (Coverage α)) (lookback : Nat) (now : Timestamp) : Prop :=
  (∃ told, news = some told ∧ told.articles ≠ []) ∧ (now.wall : Int) - lookback < 0

variable {news : Option (Coverage α)} {lookback : Nat} {now : Timestamp}

/-- The one thing that can fail is the step back from the present. -/
theorem isRecent_of_articles {told : Coverage α} (carried : told.articles ≠ []) :
    isRecent (some told) (.ok lookback) now = (now.aware.shift (-lookback)).map fun cutoff =>
      told.articles.any fun article =>
        article.publishedAt.elim true fun published =>
          decide (cutoff.instant ≤ published.instant) := by
  have nonempty : told.articles.isEmpty = false := by simpa using carried
  unfold isRecent
  simp only [nonempty, ok_bind]
  cases now.aware.shift (-lookback) <;> rfl

theorem isRecent_eq_error_iff {fault : Fault} :
    isRecent news (.ok lookback) now = .error fault ↔ fault = .dateOutOfRange ∧
    LooksTooFar news lookback now := by
  unfold LooksTooFar
  cases news with
  | none => simp [isRecent]
  | some told =>
    by_cases bare : told.articles = []
    · simp [isRecent, bare]
    · have moved : (isRecent (some told) (.ok lookback) now = .error fault) ↔
          now.aware.shift (-lookback) = .error fault := by
        rw [isRecent_of_articles bare]
        cases now.aware.shift (-lookback) <;> simp [Except.map]
      have late : (now.aware.wall : Int) < horizon := Int.ofNat_lt.2 now.wall_lt
      have wall : now.aware.wall = now.wall := rfl
      rw [moved, Timestamp.shift_eq_error_iff]
      simp only [Option.some.injEq, exists_eq_left', bare, ne_eq, not_false_eq_true, true_and]
      exact and_congr_right fun _ => by omega

theorem isRecent_eq_true_iff {recent : Bool}
    (looked : isRecent news (.ok lookback) now = .ok recent) :
    recent = true ↔ HasRecent news lookback now := by
  unfold HasRecent
  cases news with
  | none =>
    cases looked
    simp
  | some told =>
    simp only [Option.some.injEq, exists_eq_left']
    by_cases bare : told.articles = []
    · simp only [isRecent, bare, List.isEmpty_nil, if_true, Except.ok.injEq] at looked
      simp [← looked, bare]
    · rw [isRecent_of_articles bare] at looked
      cases back : now.aware.shift (-lookback) with
      | error fault =>
        rw [back] at looked
        contradiction
      | ok cutoff =>
        rw [back] at looked
        obtain rfl := Except.ok.inj looked
        have instant : cutoff.instant = now.instant - lookback := by
          rw [Timestamp.instant_shift back, Timestamp.instant_aware, Int.sub_eq_add_neg]
        rw [if_neg bare, List.any_eq_true, ← instant]
        refine exists_congr fun article => and_congr_right fun _ => ?_
        cases article.publishedAt <;> simp

end Coverage

namespace Anomaly

variable (config : AnomalyConfig) (seen : Observation) (history : Option (List PricePoint))

/-- The price has moved by the threshold at least. -/
def PriceShock : Prop := config.priceChange.val ≤ (priceMove seen).abs

/-- The volume is the multiple of the usual one at least. -/
def VolumeShock : Prop :=
  ∃ usual, seen.usualVolume? = some usual ∧ usual * config.volumeSpike.val ≤ seen.volume

/-- The price lies so many deviations from the mean at least, if there is a deviation. -/
def Outlier : Prop :=
  ∃ spread, spread? history = some spread ∧ 0 < spread.deviation ∧
    config.sigma.val ≤ zScore spread seen

def IsUnusual : Prop := PriceShock config seen ∨ VolumeShock config seen ∨
  Outlier config seen history

variable {config seen history}

theorem isSome_priceShock? : (priceShock? config seen).isSome = true ↔ PriceShock config seen := by
  unfold priceShock? PriceShock
  dsimp only
  split <;> simp_all

theorem isSome_volumeShock? : (volumeShock? config seen).isSome = true ↔
    VolumeShock config seen := by
  unfold volumeShock? VolumeShock
  cases seen.usualVolume? with
  | none => simp
  | some usual =>
    dsimp only
    split <;> simp_all

theorem isSome_outlier? : (outlier? config seen history).isSome = true ↔
    Outlier config seen history := by
  unfold outlier? Outlier
  cases spread? history with
  | none => simp
  | some spread =>
    dsimp only
    split <;> simp_all

/-- Something is said if and only if one of the three signals is there. -/
theorem signals_ne_nil_iff : signals config seen history ≠ [] ↔ IsUnusual config seen history := by
  rw [IsUnusual, ← isSome_priceShock?, ← isSome_volumeShock?, ← isSome_outlier?, signals]
  cases priceShock? config seen <;> cases volumeShock? config seen <;>
    cases outlier? config seen history <;> simp

/-- The lookback in microseconds. -/
def lookback (config : AnomalyConfig) : Nat := config.lookbackHours.val * hour

/-- The absence of news is asked for, and there is some. -/
def Explains (config : AnomalyConfig) (news : Option (Coverage Float)) (now : Timestamp) : Prop :=
  config.requiresNoNews = true ∧ Coverage.HasRecent news (lookback config) now

variable {news : Option (Coverage Float)} {now : Timestamp}

theorem isSilenced_eq_error_iff {fault : Fault} : isSilenced config news now = .error fault ↔
    fault = .dateOutOfRange ∧ config.requiresNoNews = true ∧
    Coverage.LooksTooFar news (lookback config) now := by
  unfold isSilenced
  by_cases asked : config.requiresNoNews = true
  · rw [if_pos asked]
    change Coverage.isRecent news (.ok (lookback config)) now = .error fault ↔ _
    rw [Coverage.isRecent_eq_error_iff]
    simp [asked]
  · simp [asked]

theorem isSilenced_eq_true_iff {silenced : Bool}
    (looked : isSilenced config news now = .ok silenced) :
    silenced = true ↔ Explains config news now := by
  unfold isSilenced at looked
  unfold Explains
  by_cases asked : config.requiresNoNews = true
  · rw [if_pos asked] at looked
    change Coverage.isRecent news (.ok (lookback config)) now = .ok silenced at looked
    rw [Coverage.isRecent_eq_true_iff looked]
    simp [asked]
  · rw [if_neg asked] at looked
    cases looked
    simp [asked]

/-- A finding says what the signals say, and news has its part in how it ends. -/
theorem exists_conclude {finding : AnomalyFinding}
    (found : evaluate config seen news history now = .ok finding) :
    ∃ silenced, (silenced = true ↔ Explains config news now) ∧
      finding = conclude (signals config seen history) silenced := by
  obtain ⟨silenced, looked, rfl⟩ := ok_of_map found
  exact ⟨silenced, isSilenced_eq_true_iff looked, rfl⟩

theorem evaluate_eq_error_iff {fault : Fault} :
    evaluate config seen news history now = .error fault ↔
    isSilenced config news now = .error fault := by
  unfold evaluate
  cases isSilenced config news now <;> simp [Except.map]

variable (config seen history news now)

/-- An anomaly is detected if and only if one of the signals is there, which are its conditions. It
fires unless news explains it, it is explained if news explains it, and never both; how recent the
news is, when it is looked at and whether it matters make no difference to what is detected. Where
news must be absent, what explains an anomaly is what is told of recent news. Nothing fails but a
look back, where it is asked for, from articles past the first day of the calendar. -/
theorem news_only_explains :
    (∀ finding, evaluate config seen news history now = .ok finding →
      (finding.detected = true ↔ finding.conditionsMet ≠ []) ∧
      (finding.detected = true ↔ IsUnusual config seen history) ∧
      (finding.triggered = true ↔ finding.detected = true ∧ ¬ Explains config news now) ∧
      (finding.explained = true ↔ finding.detected = true ∧ Explains config news now) ∧
      ¬ (finding.triggered = true ∧ finding.explained = true) ∧
      finding.detected = (finding.triggered || finding.explained) ∧
      (config.requiresNoNews = true → ∃ recent,
        Coverage.isRecent news (.ok (config.lookbackHours.val * hour)) now = .ok recent ∧
          (recent = true ↔ Explains config news now)) ∧
      ∀ requiresNoNews lookbackHours otherNews later other,
        evaluate { config with requiresNoNews, lookbackHours } seen otherNews history later =
        .ok other →
          other.detected = finding.detected ∧ other.conditionsMet = finding.conditionsMet) ∧
    ∀ fault, evaluate config seen news history now = .error fault ↔
      fault = .dateOutOfRange ∧ config.requiresNoNews = true ∧
        (∃ told, news = some told ∧ told.articles ≠ []) ∧
        (now.wall : Int) - config.lookbackHours.val * hour < 0 := by
  refine ⟨fun finding found => ?_, fun fault => ?_⟩
  · obtain ⟨silenced, explains, rfl⟩ := exists_conclude found
    have detected : (conclude (signals config seen history) silenced).detected = true ↔
        signals config seen history ≠ [] := by simp [conclude]
    refine ⟨detected, detected.trans signals_ne_nil_iff, ?_, ?_, ?_, ?_, fun asked => ?_, ?_⟩
    · rw [← explains]
      simp [conclude]
    · rw [← explains]
      simp [conclude]
    · cases silenced <;> simp [conclude]
    · cases silenced <;> simp [conclude]
    · cases looked : isSilenced config news now with
      | error fault =>
        rw [evaluate, looked] at found
        contradiction
      | ok recent =>
        have told := isSilenced_eq_true_iff looked
        rw [isSilenced, if_pos asked] at looked
        exact ⟨recent, looked, told⟩
    · intro requiresNoNews lookbackHours otherNews later other foundToo
      obtain ⟨otherwise, -, rfl⟩ := exists_conclude foundToo
      exact ⟨rfl, rfl⟩
  · rw [evaluate_eq_error_iff, isSilenced_eq_error_iff]
    rfl

/-- A move of 20 percent is unusual, and news of the last day and a half explains it. -/
def asking : AnomalyConfig :=
  { priceChange := ⟨20, by decide⟩
    volumeSpike := ⟨6, by decide⟩
    sigma := ⟨3, by decide⟩
    requiresNoNews := true
    lookbackHours := ⟨36, by decide⟩ }

/-- A microsecond of the first days of the calendar. -/
def early (micros : Nat) : Timestamp where
  wall := micros % (3 * day)
  offset := none
  wall_lt := by
    have later : 3 * day < horizon := by decide
    exact Nat.lt_trans (Nat.mod_lt _ (by decide)) later

/-- Half as much again as before. -/
def rally : Observation := ⟨"ACME", 3, 2, 100, none, none, none, none, none, none, early 0⟩

def reportedAt (time : Timestamp) : Coverage Float :=
  .build "ACME" [⟨"Record profit", none, none, none, some time⟩] 0 none

theorem explains_reportedAt {time now : Timestamp} :
    Explains asking (some (reportedAt time)) now ↔
    now.instant - lookback asking ≤ time.instant := by
  simp [Explains, asking, Coverage.HasRecent, reportedAt, Coverage.build]

/-- News that is a day and a half old still explains the rally, news from a microsecond before that
does not, and in the first day of the calendar there is no looking back for it. -/
theorem news_only_explains_rally :
    (∃ finding, evaluate asking rally (some (reportedAt (early (12 * hour)))) none
      (early (2 * day)) = .ok finding ∧
      finding.detected = true ∧ finding.triggered = false ∧ finding.explained = true) ∧
    (∃ finding, evaluate asking rally (some (reportedAt (early (12 * hour - 1)))) none
      (early (2 * day)) = .ok finding ∧
      finding.detected = true ∧ finding.triggered = true ∧ finding.explained = false) ∧
    evaluate asking rally (some (reportedAt (early 0))) none
      (early (day - 1)) = .error .dateOutOfRange := by
  have shock : IsUnusual asking rally none := by
    have moved : asking.priceChange.val ≤ (priceMove rally).abs := by decide +kernel
    exact .inl moved
  have fine (news : Option (Coverage Float)) :
      ∃ finding, evaluate asking rally news none (early (2 * day)) = .ok finding := by
    cases outcome : evaluate asking rally news none (early (2 * day)) with
    | ok finding => exact ⟨finding, rfl⟩
    | error fault =>
      obtain ⟨-, -, -, back⟩ :=
        ((news_only_explains asking rally none news (early (2 * day))).2 fault).1 outcome
      exact absurd back (by decide)
  refine ⟨?_, ?_, ?_⟩
  · obtain ⟨finding, found⟩ := fine (some (reportedAt (early (12 * hour))))
    obtain ⟨-, unusual, fires, explained, -⟩ :=
      (news_only_explains asking rally none _ _).1 finding found
    have recent : Explains asking (some (reportedAt (early (12 * hour)))) (early (2 * day)) :=
      explains_reportedAt.2 (by decide)
    have detected := unusual.2 shock
    exact ⟨finding, found, detected, by simp [← Bool.not_eq_true, fires, recent],
      explained.2 ⟨detected, recent⟩⟩
  · obtain ⟨finding, found⟩ := fine (some (reportedAt (early (12 * hour - 1))))
    obtain ⟨-, unusual, fires, explained, -⟩ :=
      (news_only_explains asking rally none _ _).1 finding found
    have old : ¬ Explains asking (some (reportedAt (early (12 * hour - 1)))) (early (2 * day)) :=
      fun recent => absurd (explains_reportedAt.1 recent) (by decide)
    have detected := unusual.2 shock
    exact ⟨finding, found, detected,
      fires.2 ⟨detected, old⟩, by simp [← Bool.not_eq_true, explained, old]⟩
  · refine ((news_only_explains asking rally none _ _).2 _).2 ⟨rfl, rfl, ⟨_, rfl, ?_⟩, by decide⟩
    exact List.cons_ne_nil _ _

end Anomaly

end MarketAlerts
