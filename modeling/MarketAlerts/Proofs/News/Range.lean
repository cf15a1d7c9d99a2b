import Mathlib.Algebra.Order.BigOperators.Group.List
import Mathlib.Algebra.Order.Field.Rat
import Mathlib.Tactic.NormNum
import MarketAlerts.Proofs.News.Counts

/-!
The range of sentiment in exact numbers. A score is the balance of the keywords found, cut at -1 and
1, and an average lies between the least and the greatest of what is averaged. So a coverage that is
made of articles keeps the bounds of an average, and so does one whose average is written down
later, without a check.
-/
namespace MarketAlerts

namespace Analyzer

theorem clamp_eq (score : ℚ) : clamp score = max (-1) (min 1 score) := by
  unfold clamp
  dsimp only
  rw [min_comm, min_def_lt, max_def_lt]

/-- In exact numbers keywords of opposite kinds make up for each other. -/
theorem score_eq_balance (analyzer : Analyzer ℚ) (text : String) : analyzer.score text =
    max (-1) (min 1 (((analyzer.found text).2 - (analyzer.found text).1) * analyzer.weight)) := by
  rw [score_eq_scoreOf, scoreOf, clamp_eq]
  simp only [sub_eq_add_neg, add_right_iterate_apply, nsmul_eq_mul]
  congr 2
  ring

theorem clamp_mem_Icc (score : ℚ) : clamp score ∈ Set.Icc (-1) 1 := by
  rw [clamp_eq]
  exact ⟨le_max_left _ _, max_le (by norm_num) (min_le_left _ _)⟩

theorem average_of_ne_nil {scores : List ℚ} (nonempty : scores ≠ []) :
    average scores = scores.sum / scores.length := by
  rw [average, if_neg (by simpa using nonempty), List.sum_eq_foldl]
  rfl

/-- An average lies between bounds of what is averaged. -/
theorem average_mem_Icc {scores : List ℚ} (nonempty : scores ≠ []) {least greatest : ℚ}
    (within : ∀ score ∈ scores, score ∈ Set.Icc least greatest) :
    average scores ∈ Set.Icc least greatest := by
  have pos : (0 : ℚ) < scores.length := Nat.cast_pos.2 (List.length_pos_iff.2 nonempty)
  have low := List.card_nsmul_le_sum scores least fun score listed => (within score listed).1
  have high := List.sum_le_card_nsmul scores greatest fun score listed => (within score listed).2
  rw [nsmul_eq_mul, mul_comm] at low high
  rw [average_of_ne_nil nonempty]
  exact ⟨(le_div_iff₀ pos).2 low, (div_le_iff₀ pos).2 high⟩

end Analyzer

namespace Coverage

theorem mem_Icc_of_mem_scores {analyzer : Analyzer ℚ} {articles : List Article} {score : ℚ}
    (scored : score ∈ scores analyzer articles) : score ∈ Set.Icc (-1) 1 := by
  obtain ⟨article, -, rfl⟩ := List.mem_map.1 scored
  exact Analyzer.clamp_mem_Icc _

theorem average_scores_mem_Icc (analyzer : Analyzer ℚ) (articles : List Article) :
    Analyzer.average (scores analyzer articles) ∈ Set.Icc (-1) 1 := by
  by_cases unscored : scores analyzer articles = []
  · rw [unscored]
    exact (by norm_num : (0 : ℚ) ∈ Set.Icc (-1) 1)
  · exact Analyzer.average_mem_Icc unscored fun _ => mem_Icc_of_mem_scores

/-- The average that is written down, if there is one, lies within the bounds that are set for
it. -/
def KeepsBounds (news : Coverage ℚ) : Prop :=
  ∀ average ∈ news.average, average ∈ Set.Icc (-1) 1

theorem keepsBounds_resolve (analyzer : Analyzer ℚ) {news : Coverage ℚ} (kept : news.KeepsBounds) :
    (news.resolve analyzer).KeepsBounds := by
  intro average told
  have told : news.sentiment? analyzer = some average := told
  unfold sentiment? at told
  split at told
  · next supplied given => exact kept average (given.trans told)
  · split at told
    · contradiction
    · exact Option.some.inj told ▸ average_scores_mem_Icc analyzer news.articles

/-- A coverage of given articles is never refused. -/
theorem ofArticles_eq (analyzer : Analyzer ℚ) (ticker : String) (articles : List Article) :
    ofArticles analyzer ticker articles =
      .valid ((build ticker articles articles.length none).resolve analyzer) := by
  have kept : ((build ticker articles articles.length none).resolve analyzer).KeepsBounds :=
    keepsBounds_resolve analyzer fun _ absent => nomatch absent
  unfold ofArticles
  dsimp only
  split
  · rfl
  · next average told =>
    obtain ⟨low, high⟩ := kept average told
    rw [if_pos high, if_pos low]

/-- Whatever a keyword weighs, be it nothing or below zero, and whatever the lists and the articles
are: a score is the balance of the keywords found, cut at the bounds; scores and their average keep
the bounds; the average is zero for no articles and otherwise lies between the least and the
greatest score; a coverage of the articles has that average and is never refused; and a coverage
that keeps the bounds still does when its average is written down. -/
theorem sentiment_keeps_bounds (analyzer : Analyzer ℚ) (ticker : String) (articles : List Article) :
    (∀ article : Article, analyzer.score article.text = max (-1) (min 1
      (((analyzer.found article.text).2 - (analyzer.found article.text).1) * analyzer.weight))) ∧
    (∀ score ∈ scores analyzer articles, score ∈ Set.Icc (-1) 1) ∧
    Analyzer.average (scores analyzer articles) ∈ Set.Icc (-1) 1 ∧
    Analyzer.average (scores analyzer []) = 0 ∧
    (articles ≠ [] → ∃ least greatest, (scores analyzer articles).min? = some least ∧
      (scores analyzer articles).max? = some greatest ∧
      Analyzer.average (scores analyzer articles) ∈ Set.Icc least greatest) ∧
    ofArticles analyzer ticker articles = .valid ⟨ticker, articles, articles.length,
      if articles.isEmpty then none else some (Analyzer.average (scores analyzer articles))⟩ ∧
    ∀ news : Coverage ℚ, news.KeepsBounds → (news.resolve analyzer).KeepsBounds := by
  refine ⟨fun article => analyzer.score_eq_balance article.text, fun _ => mem_Icc_of_mem_scores,
    average_scores_mem_Icc analyzer articles, rfl, fun carried => ?_, ?_, fun _ =>
    keepsBounds_resolve analyzer⟩
  · have scored : scores analyzer articles ≠ [] :=
      fun nothing => carried (List.map_eq_nil_iff.1 nothing)
    obtain ⟨least, low⟩ := Option.isSome_iff_exists.1 (List.isSome_min?_of_ne_nil scored)
    obtain ⟨greatest, high⟩ := Option.isSome_iff_exists.1 (List.isSome_max?_of_ne_nil scored)
    exact ⟨least, greatest, low, high, Analyzer.average_mem_Icc scored fun score listed =>
      ⟨(List.min?_eq_some_iff.1 low).2 score listed, (List.max?_eq_some_iff.1 high).2 score listed⟩⟩
  · rw [ofArticles_eq, build, Nat.max_self]
    rfl

/-- A weight far below zero makes good news of bad news, within the bounds. -/
theorem sentiment_keeps_bounds_negative_weight :
    (∃ least greatest, (scores ⟨["loss"], [], (-3 : ℚ)⟩ [⟨"A loss", none, none, none, none⟩]).min? =
    some least ∧
      (scores ⟨["loss"], [], (-3 : ℚ)⟩ [⟨"A loss", none, none, none, none⟩]).max? = some greatest ∧
      Analyzer.average (scores ⟨["loss"], [], (-3 : ℚ)⟩ [⟨"A loss", none, none, none, none⟩]) ∈
        Set.Icc least greatest) ∧
    (resolve ⟨["loss"], [], (-3 : ℚ)⟩
      ⟨"GAZP", [⟨"A loss", none, none, none, none⟩], 5, some (-1)⟩).KeepsBounds := by
  obtain ⟨-, -, -, -, between, -, kept⟩ :=
    sentiment_keeps_bounds ⟨["loss"], [], -3⟩ "GAZP" [⟨"A loss", none, none, none, none⟩]
  refine ⟨between (List.cons_ne_nil _ _), kept _ fun average given => ?_⟩
  obtain rfl : -1 = average := Option.some.inj given
  norm_num

end Coverage

end MarketAlerts
