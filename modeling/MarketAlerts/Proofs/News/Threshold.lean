import MarketAlerts.Engine.Basic
import MarketAlerts.Proofs.News.Sentiment

/-!
The threshold of bad news in doubles and in exact numbers. A score is built up keyword by keyword,
the scores are added up and the sum is divided; the error of each step is bounded, and so is the
error of the average. An average that is further from the threshold than that is told right; one
that lies on the threshold may be rounded to either side.
-/
namespace MarketAlerts

open Number

theorem standardAnalyzer_eq :
    standardAnalyzer = ⟨Sentiment.negativeKeywords, Sentiment.positiveKeywords, 0.2⟩ :=
  Analyzer.ofKeywords_none 0.2

namespace Analyzer

section Steps

variable {step : Float → Float} {x : Float} {d v move error : ℚ}

theorem near_weight : Near (1 / 2 ^ 55) (1 / 5) (0.2 : Float).toModel.unpack := by
  have value := hasValue_of_ofFloat (by decide +kernel :
    Binary.ofFloat 0.2 = .finite false 7205759403792794 (-55))
  refine ⟨isCanonical_unpack _, _, value, ?_⟩
  rw [abs_le]
  norm_num

/-- Steps that each add an error add up their errors. -/
theorem near_iterate {room : ℚ} (nonneg : 0 ≤ error)
    (each : ∀ {d v : ℚ} {x : Float}, |v + move| + d ≤ room → Near d v x.toModel.unpack →
      Near (d + error) (v + move) (step x).toModel.unpack)
    (count : Nat) (near : Near d v x.toModel.unpack)
    (small : |v| + d + count * (|move| + error) ≤ room) :
    Near (d + count * error) (v + count * move) (step^[count] x).toModel.unpack := by
  induction count generalizing d v x with
  | zero => simpa using near
  | succ count ih =>
    have first := abs_add_le v move
    have moved := abs_nonneg move
    have rest : (0 : ℚ) ≤ count * (|move| + error) := by positivity
    push_cast at small ⊢
    have next := ih (each (by linarith) near) (by linarith)
    rw [Function.iterate_succ_apply]
    convert next using 1 <;> ring

theorem near_raise (small : |v + 1 / 5| + d ≤ 15) (near : Near d v x.toModel.unpack) :
    Near (d + 1 / 2 ^ 47) (v + 1 / 5) (x + 0.2).toModel.unpack := by
  refine (near_add (by decide : -1022 ≤ (4 : ℤ)) (by decide) near near_weight ?_).mono ?_ <;>
    norm_num <;> linarith

theorem near_lower (small : |v + -(1 / 5)| + d ≤ 15) (near : Near d v x.toModel.unpack) :
    Near (d + 1 / 2 ^ 47) (v + -(1 / 5)) (x - 0.2).toModel.unpack := by
  rw [← sub_eq_add_neg] at small ⊢
  refine (near_sub (by decide : -1022 ≤ (4 : ℤ)) (by decide) near near_weight ?_).mono ?_ <;>
    norm_num <;> linarith

end Steps

section Scores

variable {x : Float} {d v : ℚ}

theorem hasValue_clamp (hx : HasValue v x.toModel.unpack) :
    HasValue (max (-1) (min 1 v)) (clamp x).toModel.unpack := by
  have one : HasValue 1 (1 : Float).toModel.unpack :=
    Nat.cast_one (R := ℚ) ▸ hasValue_ofNat (by decide)
  have opposite := hasValue_neg one
  have capped : HasValue (min 1 v) (if x < 1 then x else 1).toModel.unpack := by
    split <;> rename_i order <;> rw [lt_iff_of_hasValue hx one] at order
    · rwa [min_eq_right order.le]
    · rwa [min_eq_left (not_lt.1 order)]
  unfold clamp
  dsimp only
  generalize (if x < 1 then x else 1) = cut at capped ⊢
  split <;> rename_i order <;> rw [lt_iff_of_hasValue opposite capped] at order
  · rwa [max_eq_right order.le]
  · rwa [max_eq_left (not_lt.1 order)]

theorem near_clamp (near : Near d v x.toModel.unpack) :
    Near d (max (-1) (min 1 v)) (clamp x).toModel.unpack := by
  obtain ⟨-, held, value, close⟩ := near
  refine ⟨isCanonical_unpack _, _, hasValue_clamp value, ?_⟩
  calc |max (-1) (min 1 held) - max (-1) (min 1 v)|
      ≤ |min 1 held - min 1 v| := by
        simpa using abs_max_sub_max_le_max (-1) (min 1 held) (-1) (min 1 v)
    _ ≤ |held - v| := by simpa using abs_min_sub_min_le_max 1 held 1 v
    _ ≤ d := close

/-- The score of a text in exact numbers, with the built-in keywords and a fifth for each. -/
def exactScore (text : String) : ℚ :=
  max (-1) (min 1 ((hits Sentiment.positiveKeywords (Text.lower text).toList -
    hits Sentiment.negativeKeywords (Text.lower text).toList) / 5))

theorem near_score (text : String) :
    Near (1 / 2 ^ 41) (exactScore text) (standardAnalyzer.score text).toModel.unpack := by
  have few : (hits Sentiment.negativeKeywords (Text.lower text).toList : ℚ) ≤ 23 :=
    Nat.cast_le.2 (List.countP_le_length (l := Sentiment.negativeKeywords))
  have more : (hits Sentiment.positiveKeywords (Text.lower text).toList : ℚ) ≤ 21 :=
    Nat.cast_le.2 (List.countP_le_length (l := Sentiment.positiveKeywords))
  rw [standardAnalyzer_eq]
  unfold score scoreLower exactScore
  rw [tally_eq, tally_eq]
  generalize hits Sentiment.negativeKeywords _ = negative at *
  generalize hits Sentiment.positiveKeywords _ = positive at *
  have start : Near 0 0 (0 : Float).toModel.unpack := ⟨trivial, 0, rfl, by simp⟩
  have lowered := near_iterate (by positivity) near_lower negative start (by norm_num; linarith)
  have size : |(0 : ℚ) + negative * -(1 / 5)| = negative / 5 := by
    rw [zero_add, mul_neg, abs_neg, mul_one_div]
    exact abs_of_nonneg (by positivity)
  have raised :=
    near_iterate (by positivity) near_raise positive lowered (by rw [size]; norm_num; linarith)
  have total : (0 : ℚ) + negative * -(1 / 5) + positive * (1 / 5) = (positive - negative) / 5 := by
    ring
  rw [total] at raised
  refine (near_clamp raised).mono ?_
  norm_num
  linarith

theorem abs_exactScore_le (text : String) : |exactScore text| ≤ 1 := by
  unfold exactScore
  rw [abs_le]
  constructor <;> simp

end Scores

section Averages

/-- The average of the exact scores. -/
def exactAverage (texts : List String) : ℚ := (texts.map exactScore).sum / texts.length

theorem abs_sum_exactScore_le (texts : List String) :
    |(texts.map exactScore).sum| ≤ texts.length := by
  induction texts with
  | nil => simp
  | cons text texts ih =>
    have each := abs_exactScore_le text
    have both := abs_add_le (exactScore text) (texts.map exactScore).sum
    simp only [List.map_cons, List.sum_cons, List.length_cons]
    push_cast
    linarith

/-- Each addition adds the error of its score and one of its own. -/
theorem near_sum {top : ℤ} (least : -1022 ≤ top) (most : top ≤ 1022) (texts : List String) {d v : ℚ}
    {x : Float} (near : Near d v x.toModel.unpack)
    (small : |v| + d + texts.length * (1 + 1 / 2 ^ 41 + 2 ^ (top - 52)) ≤ 2 ^ top) :
    Near (d + texts.length * (1 / 2 ^ 41 + 2 ^ (top - 52))) (v + (texts.map exactScore).sum)
      ((texts.map standardAnalyzer.score).foldl (· + ·) x).toModel.unpack := by
  induction texts generalizing d v x with
  | nil => simpa using near
  | cons text texts ih =>
    have each := abs_exactScore_le text
    have both := abs_add_le v (exactScore text)
    have rest : (0 : ℚ) ≤ texts.length * (1 + 1 / 2 ^ 41 + 2 ^ (top - 52)) := by positivity
    have pos : (0 : ℚ) < 2 ^ (top - 52) := by positivity
    simp only [List.map_cons, List.sum_cons, List.length_cons, List.foldl_cons] at small ⊢
    push_cast at small ⊢
    have next := ih (near_add least most near (near_score text) (by linarith)) (by linarith)
    convert next using 1 <;> ring

/-- A power of two that leaves room for a sum, but not much more. -/
theorem exists_top {count : Nat} (nonzero : count ≠ 0) (few : count ≤ 2 ^ 49) :
    ∃ top : ℤ, -1022 ≤ top ∧ top ≤ 1022 ∧ (4 * count : ℚ) ≤ 2 ^ top ∧
    (2 ^ (top - 52) : ℚ) ≤ count / 2 ^ 49 := by
  have low : (2 ^ count.log2 : ℚ) ≤ count := by exact_mod_cast Nat.log2_self_le nonzero
  have high : (count : ℚ) ≤ 2 ^ (count.log2 + 1) := by exact_mod_cast Nat.lt_log2_self.le
  have short : count.log2 < 50 := (Nat.log2_lt nonzero).2 (by omega)
  have top : ((2 : ℚ) ^ (count.log2 + 3 : ℤ)) = 2 ^ count.log2 * 8 := by
    rw [zpow_add₀ two_ne_zero, zpow_natCast]
    norm_num
  rw [pow_succ] at high
  refine ⟨count.log2 + 3, by omega, by omega, ?_, ?_⟩
  · rw [top]
    linarith
  · rw [zpow_sub₀ two_ne_zero, top, le_div_iff₀ (by norm_num), div_mul_eq_mul_div,
      div_le_iff₀ (by norm_num)]
    norm_num
    linarith

theorem abs_exactAverage_le {texts : List String} (nonempty : texts ≠ []) :
    |exactAverage texts| ≤ 1 := by
  have pos : (0 : ℚ) < texts.length := Nat.cast_pos.2 (List.length_pos_iff.2 nonempty)
  rw [exactAverage, abs_div, abs_of_pos pos]
  exact (div_le_one pos).2 (abs_sum_exactScore_le texts)

theorem near_average {texts : List String} (nonempty : texts ≠ []) (few : texts.length ≤ 2 ^ 49) :
    Near (texts.length / 2 ^ 49 + 1 / 2 ^ 41 + 1 / 2 ^ 50) (exactAverage texts)
      (average (texts.map standardAnalyzer.score)).toModel.unpack := by
  have pos : (0 : ℚ) < texts.length := Nat.cast_pos.2 (List.length_pos_iff.2 nonempty)
  have most : (texts.length : ℚ) ≤ 2 ^ 49 := by exact_mod_cast few
  obtain ⟨top, least, high, room, digit⟩ := exists_top (List.length_pos_iff.2 nonempty).ne' few
  have start : Near 0 0 (0 : Float).toModel.unpack := ⟨trivial, 0, rfl, by simp⟩
  have place : (2 : ℚ) ^ (top - 52) ≤ 1 := digit.trans ((div_le_one (by positivity)).2 most)
  have fits : texts.length * (1 + 1 / 2 ^ 41 + (2 : ℚ) ^ (top - 52)) ≤ texts.length * 4 := by
    gcongr
    norm_num
    linarith
  have summed := near_sum least high texts start (by
    simp only [abs_zero, zero_add]
    linarith)
  simp only [zero_add] at summed
  have share : texts.length * (1 / 2 ^ 41 + (2 : ℚ) ^ (top - 52)) / |(texts.length : ℚ)| =
      1 / 2 ^ 41 + 2 ^ (top - 52) := by
    rw [abs_of_pos pos, mul_div_cancel_left₀ _ pos.ne']
  have bounded : |(texts.map exactScore).sum / texts.length| ≤ 1 := abs_exactAverage_le nonempty
  have counted : HasValue texts.length (Float.ofNat texts.length).toModel.unpack :=
    hasValue_ofNat (by omega)
  have divided := near_div (by decide : -1022 ≤ (2 : ℤ)) (by decide) summed counted pos.ne' (by
    rw [share]
    norm_num at bounded ⊢
    linarith)
  have made : average (texts.map standardAnalyzer.score) =
      (texts.map standardAnalyzer.score).foldl (· + ·) 0 / Float.ofNat texts.length := by
    have filled : (texts.map standardAnalyzer.score).isEmpty = false := by simpa using nonempty
    rw [average, filled, List.length_map]
    rfl
  rw [share] at divided
  rw [made]
  refine divided.mono ?_
  norm_num at digit ⊢
  linarith

theorem exists_fifths (text : String) : ∃ count : ℤ, exactScore text = count / 5 := by
  unfold exactScore
  generalize (hits Sentiment.positiveKeywords _) = positive
  generalize (hits Sentiment.negativeKeywords _) = negative
  refine ⟨max (-5) (min 5 (positive - negative)), ?_⟩
  push_cast
  rw [← max_div_div_right (by norm_num), ← min_div_div_right (by norm_num)]
  norm_num

theorem exists_sum_fifths (texts : List String) : ∃ count :
    ℤ, (texts.map exactScore).sum = count / 5 := by
  induction texts with
  | nil => exact ⟨0, by simp⟩
  | cons text texts ih =>
    obtain ⟨count, sum⟩ := ih
    obtain ⟨more, score⟩ := exists_fifths text
    refine ⟨more + count, ?_⟩
    rw [List.map_cons, List.sum_cons, sum, score]
    push_cast
    ring

/-- An average that is not on the threshold is a tenth of a score away from it, shared among the
texts. -/
theorem apart_of_ne {texts : List String} (nonempty : texts ≠ [])
    (off : exactAverage texts ≠ -3 / 10) :
    1 / (10 * texts.length) ≤ |exactAverage texts - -3 / 10| := by
  have pos : (0 : ℚ) < texts.length := Nat.cast_pos.2 (List.length_pos_iff.2 nonempty)
  obtain ⟨count, sum⟩ := exists_sum_fifths texts
  have difference : exactAverage texts - -3 / 10 = (2 * count + 3 * texts.length : ℤ) /
      (10 * texts.length) := by
    rw [exactAverage, sum]
    push_cast
    field_simp
    ring
  have whole : (1 : ℚ) ≤ |((2 * count + 3 * texts.length : ℤ) : ℚ)| := by
    rw [← Int.cast_abs]
    refine mod_cast Int.one_le_abs fun zero => off ?_
    have zeroSum : 2 * count + 3 * (texts.length : ℤ) = 0 := mod_cast zero
    rw [zeroSum, Int.cast_zero, zero_div] at difference
    exact sub_eq_zero.1 difference
  rw [difference, abs_div, abs_of_pos (by positivity : (0 : ℚ) < 10 * texts.length)]
  gcongr

/-- How far an average and the threshold may be off together. -/
def margin (count : Nat) : ℚ := count / 2 ^ 48 + 1 / 2 ^ 40

theorem margin_lt {count : Nat} (positive : 0 < count) (few : count ≤ 2 ^ 22) :
    margin count < 1 / (10 * count) := by
  have pos : (0 : ℚ) < count := Nat.cast_pos.2 positive
  have most : (count : ℚ) ≤ 2 ^ 22 := by exact_mod_cast few
  calc margin count ≤ 2 ^ 22 / 2 ^ 48 + 1 / 2 ^ 40 := by unfold margin; gcongr
    _ < 1 / (10 * 2 ^ 22) := by norm_num
    _ ≤ 1 / (10 * count) := by gcongr

theorem near_threshold :
    Near (1 / 2 ^ 54) (-3 / 10) SentimentSettings.default.negativeThreshold.toModel.unpack := by
  have value := hasValue_of_ofFloat (by decide +kernel :
    Binary.ofFloat SentimentSettings.default.negativeThreshold =
    .finite true 5404319552844595 (-54))
  refine ⟨isCanonical_unpack _, _, value, ?_⟩
  rw [abs_le]
  norm_num

theorem average_lt_iff {texts : List String} (nonempty : texts ≠ [])
    (apart : margin texts.length < |exactAverage texts - -3 / 10|) :
    average (texts.map standardAnalyzer.score) < SentimentSettings.default.negativeThreshold ↔
      exactAverage texts < -3 / 10 := by
  unfold margin at apart
  have nonneg : (0 : ℚ) ≤ texts.length := by positivity
  by_cases few : texts.length ≤ 2 ^ 49
  · refine lt_iff_of_near (near_average nonempty few) near_threshold (lt_of_le_of_lt ?_ apart)
    norm_num
    linarith
  · -- So many articles leave no average that is far enough from the threshold.
    have many : (2 ^ 49 : ℚ) ≤ texts.length := by exact_mod_cast (not_le.1 few).le
    have wide : (2 : ℚ) ≤ texts.length / 2 ^ 48 := by
      rw [le_div_iff₀ (by positivity)]
      linarith
    have close := abs_sub (exactAverage texts) (-3 / 10)
    have inside := abs_exactAverage_le nonempty
    norm_num at close apart
    linarith

end Averages

end Analyzer

namespace Coverage

/-- News without a supplied average fires on the exact average of its scores, unless this lies on
the threshold or, with more than four million articles, too close to it. -/
theorem triggered_iff_exactAverage_lt (ticker : String) (articles : List Article) (count : Nat)
    (carried : articles ≠ [])
    (apart : Analyzer.margin articles.length <
    |Analyzer.exactAverage (articles.map Article.text) - -3 / 10| ∨
      articles.length ≤ 2 ^ 22 ∧ Analyzer.exactAverage (articles.map Article.text) ≠ -3 / 10) :
    (evaluate standardAnalyzer SentimentSettings.default.negativeThreshold
        (some (build ticker articles count none))).triggered = true ↔
      Analyzer.exactAverage (articles.map Article.text) < -3 / 10 := by
  have texts : articles.map Article.text ≠ [] :=
    fun nothing => carried (List.map_eq_nil_iff.1 nothing)
  have counted : 0 < max count articles.length := lt_max_of_lt_right (List.length_pos_iff.2 carried)
  have scored : (build ticker articles count (none : Option Float)).sentiment? standardAnalyzer =
      some (Analyzer.average ((articles.map Article.text).map standardAnalyzer.score)) := by
    have reported : articles.isEmpty = false := by simpa using carried
    simp only [build, sentiment?, reported, scores, List.map_map]
    rfl
  rw [evaluate_triggered_iff, ← Analyzer.average_lt_iff texts]
  · constructor
    · rintro ⟨told, same, -, sentiment, held, below⟩
      rw [← Option.some.inj same, scored] at held
      rwa [Option.some.inj held]
    · exact fun below => ⟨_, rfl, counted, _, scored, below⟩
  · rw [List.length_map]
    obtain apart | ⟨few, off⟩ := apart
    · exact apart
    · have gap := Analyzer.apart_of_ne texts off
      rw [List.length_map] at gap
      exact (Analyzer.margin_lt (List.length_pos_iff.2 carried) few).trans_le gap

theorem triggered_iff_exactAverage_lt_loss :
    (evaluate standardAnalyzer SentimentSettings.default.negativeThreshold
      (some (build "GAZP" [titled "Loss and bankruptcy"] 0 none))).triggered = true :=
  (triggered_iff_exactAverage_lt "GAZP" [titled "Loss and bankruptcy"] 0 (by decide)
    (.inr ⟨by decide, by decide +kernel⟩)).2 (by decide +kernel)

/-- Scores of -0.2 and -0.4 average to the threshold, and their doubles to the next one below it. -/
theorem triggered_at_threshold : ¬ ∀ (ticker : String) (articles : List Article) (count : Nat),
    articles ≠ [] →
    ((evaluate standardAnalyzer SentimentSettings.default.negativeThreshold
        (some (build ticker articles count none))).triggered = true ↔
      Analyzer.exactAverage (articles.map Article.text) < -3 / 10) := by
  intro strict
  let articles := [titled "Company reports loss",
    ⟨"Bankruptcy looms", some "a lawsuit follows", none, none, none⟩]
  have fires : (evaluate standardAnalyzer SentimentSettings.default.negativeThreshold
      (some (build "GAZP" articles 0 none))).triggered = true := by
    rw [standardAnalyzer_eq]
    decide +kernel
  have below := (strict "GAZP" articles 0 (List.cons_ne_nil _ _)).1 fires
  have exact : Analyzer.exactAverage (articles.map Article.text) = -3 / 10 := by decide +kernel
  exact lt_irrefl _ (exact ▸ below)

end Coverage

end MarketAlerts
