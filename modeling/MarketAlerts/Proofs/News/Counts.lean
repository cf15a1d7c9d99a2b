import MarketAlerts.Proofs.News.Sentiment
import MarketAlerts.Proofs.Text.Words

/-!
What an article scores is decided by two numbers: how many entries of the negative list occur in it,
and how many of the positive one. Scores are written as a function of these, for weights of every
kind; so the order of a list, the place of a keyword in the text and how often it stands there do
not matter.
-/
namespace MarketAlerts

namespace Analyzer

section Counts

variable {α : Type}

/-- The entries of both lists. -/
def entries (analyzer : Analyzer α) : List String :=
  analyzer.negative ++ analyzer.positive

/-- How many entries of the negative and of the positive list occur in a text. -/
def found (analyzer : Analyzer α) (text : String) : Nat × Nat :=
  (hits analyzer.negative (Text.lower text).toList, hits analyzer.positive (Text.lower text).toList)

theorem finds_iff (analyzer : Analyzer α) (text : String) :
    analyzer.finds text = true ↔ analyzer.found text ≠ (0, 0) := by
  rw [← Bool.not_eq_false, ne_eq, not_iff_not, found, Prod.mk.injEq, hits_eq_zero_iff,
    hits_eq_zero_iff]
  simp [finds]

theorem found_of_perm {one other : Analyzer α} (negative : one.negative.Perm other.negative)
    (positive : one.positive.Perm other.positive) (text : String) :
    one.found text = other.found text :=
  Prod.ext (negative.countP_eq _) (positive.countP_eq _)

/-- The same entries occur in two texts. -/
def SameEntries (analyzer : Analyzer α) (text altered : String) : Prop :=
  ∀ keyword ∈ analyzer.entries,
    Text.occursIn keyword.toList (Text.lower text).toList =
    Text.occursIn keyword.toList (Text.lower altered).toList

theorem found_of_sameEntries {analyzer : Analyzer α} {text altered : String}
    (same : analyzer.SameEntries text altered) : analyzer.found text = analyzer.found altered := by
  refine Prod.ext (List.countP_congr fun keyword listed => ?_)
    (List.countP_congr fun keyword listed => ?_)
  · rw [same keyword (List.mem_append_left _ listed)]
  · rw [same keyword (List.mem_append_right _ listed)]

/-- Where no entry holds a blank, an entry occurs in a text because of its words, in any order and
number. -/
theorem sameEntries_of_words {analyzer : Analyzer α}
    (whole : ∀ keyword ∈ analyzer.entries, ' ' ∉ keyword.toList) {text altered : String}
    (same : Text.SameWords text altered) : analyzer.SameEntries text altered := by
  intro keyword listed
  by_cases empty : keyword.toList = []
  · -- The empty keyword occurs in every text, also in one without words.
    rw [empty, Text.occursIn_nil, Text.occursIn_nil]
  · have told := Text.occursIn_lower_iff (whole keyword listed) empty
    rw [Bool.eq_iff_iff, told, told]
    exact exists_congr fun word => and_congr_left fun _ => same word

variable [OfNat α 0] [OfNat α 1] [Neg α] [Add α] [Sub α] [LT α] [DecidableLT α]

/-- The score of a text in which so many negative and so many positive keywords occur. -/
def scoreOf (weight : α) (found : Nat × Nat) : α :=
  clamp ((· + weight)^[found.2] ((· - weight)^[found.1] 0))

theorem score_eq_scoreOf (analyzer : Analyzer α) (text : String) :
    analyzer.score text = scoreOf analyzer.weight (analyzer.found text) := by
  rw [score, scoreLower, tally_eq, tally_eq]
  rfl

end Counts

theorem keywordsOr_perm (builtIn : List String) {given shuffled : Option (List String)}
    (shuffle : Option.Rel List.Perm given shuffled) :
    (keywordsOr builtIn given).Perm (keywordsOr builtIn shuffled) := by
  cases shuffle with
  | none => exact .refl _
  | some shuffle =>
    rw [keywordsOr_some, keywordsOr_some]
    refine List.Perm.map _ ?_
    unfold inForce
    rw [shuffle.isEmpty_eq]
    split
    · exact .refl _
    · exact shuffle

/-- What is looked for with the given lists, whatever a keyword weighs. -/
def lists (negative positive : Option (List String)) : Analyzer Unit :=
  .ofKeywords negative positive ()

end Analyzer

namespace Coverage

open Number Analyzer

/-- What is found in each of some articles. -/
def foundIn {α : Type} (analyzer : Analyzer α) (articles : List Article) : List (Nat × Nat) :=
  articles.map (analyzer.found ·.text)

theorem scores_eq_map_foundIn
    {α : Type} [OfNat α 0] [OfNat α 1] [Neg α] [Add α] [Sub α] [LT α] [DecidableLT α]
    (analyzer : Analyzer α) (articles : List Article) :
    scores analyzer articles = (foundIn analyzer articles).map (scoreOf analyzer.weight) := by
  rw [scores, foundIn, List.map_map]
  exact List.map_congr_left fun article _ => analyzer.score_eq_scoreOf article.text

/-- Scores by a weight as it is given, from what is found in each article. -/
def scoresOf (weight : Quantity) (found : List (Nat × Nat)) : Except Fault (List Float) :=
  match weight.asDouble with
  | .ok weight => .ok (found.map (scoreOf weight))
  | .error fault => if found.any (· ≠ (0, 0)) then .error fault else .ok (found.map (scoreOf 0))

theorem scoresGiven_eq_scoresOf (negative positive : Option (List String)) (weight : Quantity)
    (articles : List Article) :
    scoresGiven negative positive weight articles =
      scoresOf weight (foundIn (lists negative positive) articles) := by
  have each (weight : Float) : scores (.ofKeywords negative positive weight) articles =
      (foundIn (lists negative positive) articles).map (scoreOf weight) := scores_eq_map_foundIn _ _
  have any : articles.any ((Analyzer.ofKeywords negative positive (0 : Float)).finds ·.text) =
      (foundIn (lists negative positive) articles).any (· ≠ (0, 0)) := by
    rw [foundIn, List.any_map]
    refine congrArg articles.any (funext fun article => ?_)
    rw [Bool.eq_iff_iff, finds_iff]
    exact decide_eq_true_iff.symm
  unfold scoresGiven scoresOf
  cases weight.asDouble with
  | ok weight => exact congrArg Except.ok (each weight)
  | error fault => simp only [each, any]

theorem foundIn_of_forall₂ {α : Type} {analyzer : Analyzer α} {articles others : List Article}
    (same : List.Forall₂ (fun article other => analyzer.SameEntries article.text other.text)
      articles others) : foundIn analyzer articles = foundIn analyzer others := by
  induction same with
  | nil => rfl
  | cons first _ ih => exact congrArg₂ List.cons (found_of_sameEntries first) ih

/-- What is found in an article decides its score, and what is found in each of some articles their
scores and so the average, whatever the lists and the texts are. So neither the order of a list
matters, nor where the entries stand in the texts and how often, as long as the same occur; for
entries without blanks that is, as long as the texts have the same words. A weight is any double, or
as it is given to an analyzer, where one that is too large fails alike. -/
theorem scores_decided_by_counts :
    (∀ one other : Analyzer Float, one.weight = other.weight →
      (∀ article altered : Article, one.found article.text = other.found altered.text →
        one.score article.text = other.score altered.text) ∧
      ∀ articles others, foundIn one articles = foundIn other others →
        Analyzer.average (scores one articles) = Analyzer.average (scores other others)) ∧
    (∀ negative positive negative' positive' weight articles others,
      foundIn (lists negative positive) articles = foundIn (lists negative' positive') others →
        scoresGiven negative positive weight articles =
        scoresGiven negative' positive' weight others) ∧
    ∀ negative positive weight articles,
      (∀ negative' positive', Option.Rel List.Perm negative negative' →
        Option.Rel List.Perm positive positive' →
        scoresGiven negative' positive' weight articles =
        scoresGiven negative positive weight articles) ∧
      (∀ others, List.Forall₂
        (fun article other => (lists negative positive).SameEntries article.text other.text)
          articles others →
        scoresGiven negative positive weight others =
        scoresGiven negative positive weight articles) ∧
      ((∀ keyword ∈ (lists negative positive).entries, ' ' ∉ keyword.toList) →
        ∀ others, List.Forall₂ (fun article other => Text.SameWords article.text other.text)
          articles others →
          scoresGiven negative positive weight others =
          scoresGiven negative positive weight articles) := by
  have given : ∀ negative positive negative' positive' weight articles others,
      foundIn (lists negative positive) articles = foundIn (lists negative' positive') others →
        scoresGiven negative positive weight articles =
        scoresGiven negative' positive' weight others := by
    intro negative positive negative' positive' weight articles others same
    rw [scoresGiven_eq_scoresOf, scoresGiven_eq_scoresOf, same]
  refine ⟨fun one other weights => ⟨fun article altered same => ?_, fun articles others same => ?_⟩,
    given, fun negative positive weight articles =>
    ⟨fun negative' positive' shuffled shuffled' => ?_,
      fun others same => ?_, fun whole others same => ?_⟩⟩
  · rw [score_eq_scoreOf, score_eq_scoreOf, weights, same]
  · rw [scores_eq_map_foundIn, scores_eq_map_foundIn, weights, same]
  · refine given _ _ _ _ weight articles articles (List.map_congr_left fun article _ => ?_)
    exact (found_of_perm (keywordsOr_perm _ shuffled)
      (keywordsOr_perm _ shuffled') article.text).symm
  · exact given _ _ _ _ weight others articles (foundIn_of_forall₂ same).symm
  · exact given _ _ _ _ weight others articles
      (foundIn_of_forall₂ (same.imp fun _ _ words => sameEntries_of_words whole words)).symm

theorem scores_decided_by_counts_fire :
    Analyzer.score ⟨["loss", "fire"], ["rally"], (0.5 : Float)⟩ (titled "Fire and loss").text =
        Analyzer.score ⟨["recall", "crisis"], [], (0.5 : Float)⟩
          (titled "Recall in a crisis").text ∧
      scoresGiven (some ["loss"]) (some ["rally"]) (.whole (10 ^ 400)) [titled "A loss"] =
        scoresGiven (some ["recall"]) (some ["rally"]) (.whole (10 ^ 400)) [titled "A recall"] ∧
      scoresGiven (some ["loss", "fire"]) none (.whole 2) [titled "A loss"] =
        scoresGiven (some ["fire", "loss"]) none (.whole 2) [titled "A loss"] ∧
      scoresGiven (some ["loss"]) (some ["rally"]) (.double 0.2)
        [⟨"after", some "Loss Loss", none, none, none⟩] =
        scoresGiven (some ["loss"]) (some ["rally"]) (.double 0.2) [titled "Loss after"] := by
  obtain ⟨scored, given, altered⟩ := scores_decided_by_counts
  have before : Text.words (titled "Loss after").text = ["Loss".toList, "after".toList] := by
    decide +kernel
  have after : Text.words (Article.mk "after" (some "Loss Loss") none none none).text =
      ["after".toList, "Loss".toList, "Loss".toList] := by decide +kernel
  refine ⟨?_, ?_, ?_, ?_⟩
  · exact (scored ⟨["loss", "fire"], ["rally"], 0.5⟩ ⟨["recall", "crisis"], [], 0.5⟩ rfl).1
      (titled "Fire and loss") (titled "Recall in a crisis") (by decide +kernel)
  · exact given _ _ _ _ _ _ _ (by decide +kernel)
  · exact (altered (some ["fire", "loss"]) none (.whole 2) _).1 (some ["loss", "fire"]) none
      (.some (.swap _ _ _)) .none
  · refine (altered (some ["loss"]) (some ["rally"]) (.double 0.2) _).2.2
      (by decide +kernel) _ (.cons ?_ .nil)
    intro word
    simp only [before, after, List.mem_cons, List.not_mem_nil, or_false, or_self]
    exact or_comm

end Coverage

end MarketAlerts
