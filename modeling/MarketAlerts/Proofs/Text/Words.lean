import Mathlib.Data.List.Infix
import MarketAlerts.Text.Lowercase

/-!
What occurs in a text, told by its words. Lower-casing does not look past a blank, so a part without
blanks occurs in the lower case of a text if and only if it occurs in that of one of its words: how
often a word stands there, and where, makes no difference.
-/
namespace MarketAlerts.Text

/-- The words of a text: what stands between its blanks, if anything does. -/
def words (text : String) : List (List Char) :=
  (text.toList.splitOn ' ').filter (!·.isEmpty)

/-- Two texts have the same words, in whatever order and number. -/
def SameWords (text altered : String) : Prop :=
  ∀ word, word ∈ words text ↔ word ∈ words altered

theorem occursIn_iff {part text : List Char} : occursIn part text = true ↔ part <:+: text := by
  induction text with
  | nil => simp [occursIn]
  | cons c rest ih => simp [occursIn, List.infix_cons_iff, ih]

theorem occursIn_nil (text : List Char) : occursIn [] text = true :=
  occursIn_iff.2 List.nil_infix

/-- A part without blanks does not reach across one. -/
theorem isInfix_append_blank {part : List Char} (whole : ' ' ∉ part) (front back : List Char) :
    part <:+: front ++ ' ' :: back ↔ part <:+: front ∨ part <:+: back := by
  have starts {start : List Char} (inside : start ⊆ part) (before : start <+: ' ' :: back) :
      start = [] := by
    obtain empty | ⟨rest, rfl, -⟩ := List.prefix_cons_iff.1 before
    · exact empty
    · exact absurd (inside List.mem_cons_self) whole
  rw [List.infix_append_iff, List.infix_cons_iff]
  constructor
  · rintro (inFront | (before | inBack) | ⟨ending, start, rfl, ends, before⟩)
    · exact .inl inFront
    · exact .inl (starts (List.Subset.refl _) before ▸ List.nil_infix)
    · exact .inr inBack
    · rw [starts (List.subset_append_right _ _) before, List.append_nil]
      exact .inl ends.isInfix
  · rintro (inFront | inBack)
    · exact .inl inFront
    · exact .inr (.inl (.inr inBack))

/-- The neighbour of a sigma is looked for up to the next blank only. -/
theorem meetsCased_append_blank (near far : List Char) :
    meetsCased (near ++ ' ' :: far) = meetsCased near := by
  have stays : (' ' :: far).dropWhile (inRanges skippedRanges ·.toNat) = ' ' :: far :=
    List.dropWhile_cons_of_neg (by decide +kernel)
  have plain : inRanges casedRanges ' '.toNat = false := by decide +kernel
  unfold meetsCased
  rw [List.dropWhile_append, stays]
  cases near.dropWhile (inRanges skippedRanges ·.toNat) with
  | nil => exact plain
  | cons c rest => rfl

theorem lowerFrom_before_blank (near far text : List Char) :
    lowerFrom (near ++ ' ' :: far) text = lowerFrom near text := by
  induction text generalizing near with
  | nil => rfl
  | cons c rest ih =>
    have next := ih (c :: near)
    rw [List.cons_append] at next
    simp only [lowerFrom, lowerSigma, meetsCased_append_blank, next]

theorem lowerFrom_append_blank (before text rest : List Char) :
    lowerFrom before (text ++ ' ' :: rest) = lowerFrom before text ++ ' ' :: lowerFrom [] rest := by
  -- What stands before a character grows along the text: a sigma looks back at it.
  induction text generalizing before with
  | nil =>
    have blank : lowerChar ' ' = [' '] := by decide +kernel
    have other : ' '.toNat ≠ 0x3A3 := by decide
    have afresh := lowerFrom_before_blank [] before rest
    rw [List.nil_append] at afresh
    simp only [List.nil_append, lowerFrom, if_neg other, blank, afresh]
    rfl
  | cons c text ih =>
    simp only [List.cons_append, lowerFrom, lowerSigma, meetsCased_append_blank, ih,
      List.append_assoc]

theorem occursIn_intercalate_iff {part : List Char} (whole : ' ' ∉ part) {pieces : List (List Char)}
    (nonempty : pieces ≠ []) : occursIn part (lowerFrom [] ([' '].intercalate pieces)) = true ↔
      ∃ word ∈ pieces, occursIn part (lowerFrom [] word) = true := by
  simp only [occursIn_iff]
  induction pieces with
  | nil => contradiction
  | cons word others ih =>
    cases others with
    | nil => simp
    | cons next others =>
      rw [List.intercalate_cons_cons, List.append_assoc, List.singleton_append,
        lowerFrom_append_blank, isInfix_append_blank whole, ih (List.cons_ne_nil _ _)]
      simp only [List.mem_cons, exists_eq_or_imp]

/-- A part without blanks occurs in a text, whatever the case, if it occurs in one of its words. -/
theorem occursIn_lower_iff {part : List Char} (whole : ' ' ∉ part) (nonempty : part ≠ [])
    (text : String) :
    occursIn part (lower text).toList = true ↔
      ∃ word ∈ words text, occursIn part (lowerFrom [] word) = true := by
  have spelled :
      (lower text).toList = lowerFrom [] ([' '].intercalate (text.toList.splitOn ' ')) := by
    rw [List.intercalate_splitOn, lower, String.toList_ofList]
  rw [spelled, occursIn_intercalate_iff whole (List.splitOn_ne_nil _ _)]
  constructor
  · rintro ⟨word, piece, occurs⟩
    refine ⟨word, List.mem_filter.2 ⟨piece, ?_⟩, occurs⟩
    cases word with
    | nil => exact absurd (List.infix_nil.1 (occursIn_iff.1 occurs)) nonempty
    | cons c rest => rfl
  · rintro ⟨word, listed, occurs⟩
    exact ⟨word, (List.mem_filter.1 listed).1, occurs⟩

end MarketAlerts.Text
