import MarketAlerts.News.Trigger
import MarketAlerts.Proofs.Number.Rounding

/-!
What a score is told by: how many keywords of either list occur in the text, and nothing else of it.
Where none does, the score is zero, and so is the average of such scores. The built-in keywords are
in lower case already. A sentiment that is written down is read back by every analyzer.
-/
namespace MarketAlerts

namespace Text

/-- The codes of Latin-1 and of the small Cyrillic letters at which no capital letter stands. -/
def isSettled (code : Nat) : Bool :=
  code < 0x41 || 0x5A < code && code < 0xC0 || 0x42F < code && code < 0x460

theorem not_covers_of_isSettled {run : CaseRun} (listed : run ∈ caseRuns) {code : Nat}
    (settled : isSettled code) : run.covers code = false := by
  have apart : ∀ run ∈ caseRuns, 0x41 ≤ run.first ∧ run.last ≤ 0x5A ∨ 0xC0 ≤ run.first ∧
      run.last ≤ 0x42F ∨
      0x460 ≤ run.first := by decide +kernel
  have bounds := apart run listed
  simp only [isSettled, Bool.or_eq_true, Bool.and_eq_true, decide_eq_true_eq] at settled
  have outside : ¬ (run.first ≤ code ∧ code ≤ run.last) := by omega
  simp only [CaseRun.covers, Bool.and_eq_false_iff, decide_eq_false_iff_not]
  omega

theorem lowerChar_of_isSettled {c : Char} (settled : isSettled c.toNat) : lowerChar c = [c] := by
  have other : c.toNat ≠ 0x130 := fun dotted => by
    rw [dotted] at settled
    contradiction
  have kept : caseRuns.find? (·.covers c.toNat) = none :=
    List.find?_eq_none.2 fun run listed => by simp [not_covers_of_isSettled listed settled]
  rw [lowerChar, if_neg other, kept]

theorem lowerFrom_of_isSettled {text : List Char} (settled : text.all (isSettled ·.toNat))
    (before : List Char) : lowerFrom before text = text := by
  induction text generalizing before with
  | nil => rfl
  | cons c rest ih =>
    obtain ⟨(first : isSettled c.toNat), others⟩ := Bool.and_eq_true_iff.1 settled
    have other : c.toNat ≠ 0x3A3 := fun sigma => by
      rw [sigma] at first
      contradiction
    rw [lowerFrom, if_neg other, lowerChar_of_isSettled first, ih others]
    rfl

/-- Texts without capital letters are their own lower case. -/
theorem map_lower_of_isSettled {texts : List String}
    (settled : texts.all (·.toList.all (isSettled ·.toNat))) : texts.map lower = texts := by
  refine (List.map_congr_left fun text listed => ?_).trans (List.map_id texts)
  rw [lower, lowerFrom_of_isSettled (List.all_eq_true.1 settled text listed), String.ofList_toList]
  rfl

end Text

namespace Sentiment

theorem lower_negativeKeywords : negativeKeywords.map Text.lower = negativeKeywords :=
  Text.map_lower_of_isSettled (by decide +kernel)

theorem lower_positiveKeywords : positiveKeywords.map Text.lower = positiveKeywords :=
  Text.map_lower_of_isSettled (by decide +kernel)

end Sentiment

namespace Analyzer

section Tallies

variable {α : Type} (keywords : List String) (text : List Char)

/-- How many entries of a list occur in a text. -/
def hits : Nat :=
  keywords.countP fun keyword => Text.occursIn keyword.toList text

theorem tally_eq (step : α → α) (start : α) :
    tally keywords text step start = step^[hits keywords text] start := by
  induction keywords generalizing start with
  | nil => rfl
  | cons keyword keywords ih =>
    have next : tally (keyword :: keywords) text step start =
        tally keywords text step
          (if Text.occursIn keyword.toList text then step start else start) := rfl
    rw [next, ih, hits, hits, List.countP_cons]
    split
    · rw [Function.iterate_succ_apply]
    · rfl

theorem hits_eq_zero_iff :
    hits keywords text = 0 ↔ ∀ keyword ∈ keywords, Text.occursIn keyword.toList text = false := by
  simp [hits, List.countP_eq_zero]

end Tallies

/-- The list that scores in the place of a given one. -/
def inForce (builtIn given : List String) : List String :=
  if given.isEmpty then builtIn else given

theorem keywordsOr_some (builtIn given : List String) :
    keywordsOr builtIn (some given) = (inForce builtIn given).map Text.lower := by
  cases given <;> rfl

theorem ofKeywords_none {α : Type} (weight : α) :
    ofKeywords none none weight =
    ⟨Sentiment.negativeKeywords, Sentiment.positiveKeywords, weight⟩ :=
  congrArg₂ (fun negative positive => Analyzer.mk negative positive weight)
    Sentiment.lower_negativeKeywords
    Sentiment.lower_positiveKeywords

theorem score_eq_zero {analyzer : Analyzer Float} {text : String}
    (absent : ∀ keyword ∈ analyzer.negative ++ analyzer.positive,
      Text.occursIn keyword.toList (Text.lower text).toList = false) : analyzer.score text = 0 := by
  have negative : hits analyzer.negative (Text.lower text).toList = 0 :=
    (hits_eq_zero_iff _ _).2 fun keyword given => absent keyword (List.mem_append_left _ given)
  have positive : hits analyzer.positive (Text.lower text).toList = 0 :=
    (hits_eq_zero_iff _ _).2 fun keyword given => absent keyword (List.mem_append_right _ given)
  rw [score, scoreLower, tally_eq, tally_eq, negative, positive]
  exact (by decide : clamp (0 : Float) = 0)

theorem sum_zeros (count : Nat) : (List.replicate count (0 : Float)).foldl (· + ·) 0 = 0 := by
  induction count with
  | zero => rfl
  | succ count ih =>
    rw [List.replicate_succ, List.foldl_cons, show (0 : Float) + 0 = 0 by decide]
    exact ih

theorem average_zeros (count : Nat) : average (List.replicate count (0 : Float)) = 0 := by
  cases count with
  | zero => rfl
  | succ count =>
    have divided : average (List.replicate (count + 1) (0 : Float)) =
        (List.replicate (count + 1) (0 : Float)).foldl (· + ·) 0 / Float.ofNat (count + 1) := by
      rw [average, if_neg (by simp), List.length_replicate]
      rfl
    rw [divided, sum_zeros]
    exact Number.zero_div_of_pos (Number.ofNat_pos (Nat.succ_ne_zero count))

end Analyzer

namespace Coverage

/-- A coverage whose sentiment is written down has the sentiment that it had, whoever reads it. -/
theorem sentiment?_resolve (analyzer other : Analyzer Float) (news : Coverage Float) :
    (news.resolve analyzer).sentiment? other = news.sentiment? analyzer := by
  unfold resolve sentiment?
  cases news.average with
  | some average => rfl
  | none => cases news.articles.isEmpty <;> simp

theorem evaluate_resolve (analyzer other : Analyzer Float) (threshold : Float)
    (news : Option (Coverage Float)) :
    evaluate other threshold (news.map (·.resolve analyzer)) =
      evaluate analyzer threshold news := by
  cases news with
  | none => rfl
  | some news =>
    have count : (news.resolve analyzer).count = news.count := rfl
    unfold evaluate
    by_cases reported : 0 < news.count
    · simp [Option.filter, count, reported, sentiment?_resolve]
    · simp [Option.filter, count, reported]

/-- Bad news fires where there is news, with a sentiment below the threshold. -/
theorem evaluate_triggered_iff (analyzer : Analyzer Float) (threshold : Float)
    (news : Option (Coverage Float)) : (evaluate analyzer threshold news).triggered = true ↔
      ∃ told, news = some told ∧ 0 < told.count ∧ ∃ sentiment,
        told.sentiment? analyzer = some sentiment ∧
        sentiment < threshold := by
  unfold evaluate
  cases news with
  | none => simp
  | some told =>
    by_cases counted : 0 < told.count
    · rw [Option.filter_some_pos (by simpa using counted)]
      cases scored : told.sentiment? analyzer with
      | none => simp [scored]
      | some sentiment => by_cases below : sentiment < threshold <;>
          simp [Option.filter, scored, counted, below]
    · rw [Option.filter_some_neg (by simpa using counted)]
      simp [counted]

/-- Texts in which no keyword is found score zero, whatever a keyword weighs. The keywords looked
for are the given ones, but for an empty list the built-in ones. -/
theorem scoresGiven_of_none_found (negative positive : List String) (weight : Number.Quantity)
    (articles : List Article)
    (absent : ∀ article ∈ articles, ∀ keyword ∈ Analyzer.inForce Sentiment.negativeKeywords negative
    ++
      Analyzer.inForce Sentiment.positiveKeywords positive,
        Text.occursIn (Text.lower keyword).toList (Text.lower article.text).toList = false) :
    scoresGiven (some negative) (some positive) weight articles =
      .ok (List.replicate articles.length 0) ∧
      Analyzer.average (List.replicate articles.length (0 : Float)) = 0 := by
  have unfound (weight : Float) : ∀ article ∈ articles,
      ∀ keyword ∈ (Analyzer.ofKeywords (some negative) (some positive) weight).negative ++
        (Analyzer.ofKeywords (some negative) (some positive) weight).positive,
          Text.occursIn keyword.toList (Text.lower article.text).toList = false := by
    intro article carried keyword looked
    simp only [Analyzer.ofKeywords, Analyzer.keywordsOr_some, ← List.map_append] at looked
    obtain ⟨given, listed, rfl⟩ := List.mem_map.1 looked
    exact absent article carried given listed
  have zeros (weight : Float) :
      scores (.ofKeywords (some negative) (some positive) weight) articles =
      List.replicate articles.length 0 :=
    List.eq_replicate_iff.2 ⟨List.length_map _, fun score scored => by
      obtain ⟨article, carried, rfl⟩ := List.mem_map.1 scored
      exact Analyzer.score_eq_zero (unfound weight article carried)⟩
  refine ⟨?_, Analyzer.average_zeros _⟩
  unfold scoresGiven
  cases weight.asDouble with
  | ok weight => exact congrArg Except.ok (zeros weight)
  | error fault =>
    let unweighted := Analyzer.ofKeywords (some negative) (some positive) (0 : Float)
    have quiet : articles.any (unweighted.finds ·.text) = false :=
      List.any_eq_false.2 fun article carried found => by
        obtain ⟨keyword, listed, occurs⟩ := List.any_eq_true.1 found
        rw [unfound 0 article carried keyword listed] at occurs
        contradiction
    dsimp only
    rw [zeros 0, quiet]
    rfl

/-- An article of a title alone. -/
def titled (title : String) : Article := ⟨title, none, none, none, none⟩

theorem scoresGiven_of_none_found_custom :
    scoresGiven (some ["Fire"]) (some ["Approval"]) (.double 0.5)
      [titled "Company reports loss"] = .ok [0] ∧
      Analyzer.average [(0 : Float)] = 0 :=
  scoresGiven_of_none_found ["Fire"] ["Approval"] (.double 0.5) [titled "Company reports loss"]
    (by decide +kernel)

/-- A list that is given as empty scores with all the built-in keywords. -/
theorem scoresGiven_of_empty :
    ¬ ∀ (negative positive : List String) (weight : Number.Quantity) (articles : List Article),
      (∀ article ∈ articles, ∀ keyword ∈ negative ++ positive,
        Text.occursIn (Text.lower keyword).toList (Text.lower article.text).toList = false) →
      scoresGiven (some negative) (some positive) weight articles =
      .ok (List.replicate articles.length 0) := by
  intro silent
  have scored :
      scoresGiven (some []) (some ["approval"]) (.double 0.5) [titled "Company reports loss"] =
      .ok [-0.5] := by
    show Except.ok
      (scores ⟨Sentiment.negativeKeywords.map Text.lower, ["approval"].map Text.lower, 0.5⟩ _) = _
    rw [Sentiment.lower_negativeKeywords]
    decide +kernel
  have given :=
    silent [] ["approval"] (.double 0.5) [titled "Company reports loss"] (by decide +kernel)
  rw [scored] at given
  have same : (-0.5 : Float) = 0 := (List.cons.inj (Except.ok.inj given)).1
  exact absurd same (by decide +kernel)

end Coverage

end MarketAlerts
