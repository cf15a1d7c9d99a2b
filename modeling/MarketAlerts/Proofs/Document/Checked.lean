import MarketAlerts.Document.Reader

/-!
What a reader finds: the value of a record is made of the values of its fields, and the issues of a
record are those of its fields, one after the other.
-/
namespace MarketAlerts.Document

namespace Checked

variable {α β : Type}

/-- All that is wrong with the document. -/
def issues : Checked α → List Issue
  | valid _ => []
  | invalid issues => issues

@[simp] theorem issues_map (f : α → β) (a : Checked α) : (f <$> a).issues = a.issues := by
  cases a <;> rfl

@[simp] theorem issues_seq (f : Checked (α → β)) (a : Checked α) :
    (f <*> a).issues = f.issues ++ a.issues := by
  cases f <;> cases a <;> simp [issues, Seq.seq, Checked.seq]

theorem map_eq_valid_iff {f : α → β} {a : Checked α} {b : β} :
    f <$> a = valid b ↔ ∃ value, a = valid value ∧ f value = b := by
  cases a <;> simp [Functor.map, Checked.map]

theorem seq_eq_valid_iff {f : Checked (α → β)} {a : Checked α} {b : β} :
    f <*> a = valid b ↔ ∃ make value, f = valid make ∧ a = valid value ∧ make value = b := by
  cases f <;> cases a <;> simp [Seq.seq, Checked.seq]

@[simp] theorem under_eq_valid_iff {key : String} {a : Checked α} {value : α} :
    a.under key = valid value ↔ a = valid value := by
  cases a <;> simp [under]

/-- What is found under a key is told with a path that begins at the key. -/
theorem head_path_of_mem_under {key : String} {a : Checked α} {issue : Issue}
    (found : issue ∈ (a.under key).issues) : issue.path.head? = some key := by
  cases a with
  | valid value => simp [under, issues] at found
  | invalid others =>
    obtain ⟨other, -, rfl⟩ := List.mem_map.1 found
    rfl

/-- What has no value has issues, or is refused without a word. -/
theorem eq_invalid_issues {a : Checked α} (refused : ¬ ∃ value, a = valid value) :
    a = invalid a.issues := by
  cases a with
  | valid value => exact absurd ⟨value, rfl⟩ refused
  | invalid issues => rfl

end Checked

open Checked

/-- The bound that a number misses, if it misses one. The upper bound is looked at first. -/
def missed? {α : Type} [Shown α] [LE α] [DecidableLE α] (least most found : α) : Option Misfit :=
  if ¬ found ≤ most then some (.of .atMost most found)
  else if ¬ least ≤ found then some (.of .atLeast least found)
  else none

/-- What is wrong with a number under a key. -/
def boundIssues (key : String) (misfit : Option Misfit) : List Issue :=
  misfit.toList.map fun misfit => ⟨[key], .outOfBounds misfit⟩

/-- The numbers that are out of bounds, with their keys. -/
theorem misfits_boundIssues (key : String) (misfit : Option Misfit) :
    (boundIssues key misfit).filterMap Issue.misfit? = misfit.toList.map (key, ·) := by
  cases misfit <;> rfl

theorem issues_within (key : String) (least most x : Float) :
    ((within least most x).under key).issues = boundIssues key (missed? least most x) := by
  unfold within boundIssues missed?
  by_cases below : x ≤ most <;> by_cases above : least ≤ x <;>
    simp [below, above, under, flaw, issues, Issue.under]

theorem issues_integerWithin (key : String) (least most : Nat) (value : Int) :
    ((integerWithin least most value).under key).issues =
      boundIssues key (missed? (least : Int) most value) := by
  unfold integerWithin boundIssues missed?
  by_cases below : value ≤ most <;> by_cases above : (least : Int) ≤ value <;>
    simp [below, above, under, flaw, issues, Issue.under]

theorem within_eq_valid_iff {least most x : Float} {y : FloatWithin least most} :
    within least most x = valid y ↔ y.val = x := by
  constructor
  · intro made
    unfold within at made
    split at made
    · split at made
      · cases made
        rfl
      · cases made
    · cases made
  · rintro rfl
    rw [within, dif_pos y.2.2, dif_pos y.2.1]

theorem integerWithin_eq_valid_iff {least most : Nat} {value : Int} {n : NatWithin least most} :
    integerWithin least most value = valid n ↔ (n.val : Int) = value := by
  constructor
  · intro made
    unfold integerWithin at made
    split at made
    · split at made
      · cases made
        dsimp only
        omega
      · cases made
    · cases made
  · rintro rfl
    rw [integerWithin, dif_pos (Int.ofNat_le.2 n.2.2), dif_pos (Int.ofNat_le.2 n.2.1)]
    rfl

end MarketAlerts.Document
