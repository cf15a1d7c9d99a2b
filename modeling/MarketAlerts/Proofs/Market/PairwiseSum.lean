import Mathlib
import MarketAlerts.Market.PriceHistory

/-!
What a sum in blocks keeps. Whatever holds of the start of a sum and of each term, and of the sum of
two parts if it holds of both, holds of the whole sum, in whatever order its terms are added.
-/
namespace MarketAlerts.PriceHistory

variable {P : Nat → Float → Prop} (add : ∀ {m n x y}, P m x → P n y → P (m + n) (x + y))
    {terms : List Float}

include add

theorem foldl_induction {count : Nat} {start : Float} (first : P count start)
    (each : ∀ x ∈ terms, P 1 x) : P (count + terms.length) (terms.foldl (· + ·) start) := by
  induction terms generalizing count start with
  | nil => exact first
  | cons x rest ih =>
    obtain ⟨one, others⟩ := List.forall_mem_cons.1 each
    rw [List.length_cons, Nat.add_comm rest.length, ← Nat.add_assoc]
    exact ih (add first one) others

theorem zipWith_induction {count : Nat} {lanes block : List Float} (laid : ∀ x ∈ lanes, P count x)
    (each : ∀ x ∈ block, P 1 x) : ∀ x ∈ List.zipWith (· + ·) lanes block, P (count + 1) x := by
  rw [← List.map_uncurry_zip_eq_zipWith, List.forall_mem_map]
  rintro ⟨x, y⟩ member
  obtain ⟨left, right⟩ := List.of_mem_zip member
  exact add (laid x left) (each y right)

/-- All lanes grow alike, and no term is lost. -/
theorem addBlocks_induction {count : Nat} {lanes rest : List Float} (eight : lanes.length = 8)
    (laid : ∀ x ∈ lanes, P count x) (each : ∀ x ∈ rest, P 1 x) :
    ∃ grown, (addBlocks lanes rest).1.length = 8 ∧ (∀ x ∈ (addBlocks lanes rest).1, P grown x) ∧
      (∀ x ∈ (addBlocks lanes rest).2, P 1 x) ∧
      8 * grown + (addBlocks lanes rest).2.length = 8 * count + rest.length := by
  fun_induction addBlocks lanes rest generalizing count with
  | case1 lanes rest short => exact ⟨count, eight, laid, each, rfl⟩
  | case2 lanes rest long ih =>
    have block : (rest.take 8).length = 8 := by simp; omega
    obtain ⟨grown, length, lanes, left, total⟩ := ih (by simp [eight, block])
      (zipWith_induction add laid fun x member => each x (List.mem_of_mem_take member))
      (fun x member => each x (List.mem_of_mem_drop member))
    refine ⟨grown, length, lanes, left, ?_⟩
    rw [List.length_drop] at total
    omega

theorem joinLanes_induction {count : Nat} {lanes : List Float} (eight : lanes.length = 8)
    (laid : ∀ x ∈ lanes, P count x) : P (8 * count) (joinLanes lanes) := by
  obtain ⟨a, b, c, d, e, f, g, h, rfl⟩ : ∃ a b c d e f g h, lanes = [a, b, c, d, e, f, g, h] := by
    match lanes, eight with
    | [a, b, c, d, e, f, g, h], _ => exact ⟨a, b, c, d, e, f, g, h, rfl⟩
  simp only [List.forall_mem_cons] at laid
  obtain ⟨ha, hb, hc, hd, he, hf, hg, hh, -⟩ := laid
  have all := add (add (add ha hb) (add hc hd)) (add (add he hf) (add hg hh))
  have total : count + count + (count + count) + (count + count + (count + count)) = 8 * count := by
    omega
  rwa [total] at all

variable (zero : P 0 (-0.0))

include zero

theorem blockSum_induction (each : ∀ x ∈ terms, P 1 x) : P terms.length (blockSum terms) := by
  unfold blockSum
  split
  · have all := foldl_induction add zero each
    rwa [Nat.zero_add] at all
  · next long =>
    obtain ⟨grown, length, lanes, left, total⟩ := addBlocks_induction add
      (show (terms.take 8).length = 8 by simp; omega)
      (fun x member => each x (List.mem_of_mem_take member))
      (fun x member => each x (List.mem_of_mem_drop member))
    have all := foldl_induction add (joinLanes_induction add length lanes) left
    rw [total, List.length_drop] at all
    have count : 8 * 1 + (terms.length - 8) = terms.length := by omega
    rwa [count] at all

/-- The property may depend on how many terms a part has. -/
theorem pairwiseSum_induction (each : ∀ x ∈ terms, P 1 x) : P terms.length (pairwiseSum terms) := by
  fun_induction pairwiseSum terms with
  | case1 terms short => exact blockSum_induction add zero each
  | case2 terms long half first second =>
    have all := add (first fun x member => each x (List.mem_of_mem_take member))
      (second fun x member => each x (List.mem_of_mem_drop member))
    rwa [← List.length_append, List.take_append_drop] at all

end MarketAlerts.PriceHistory
