import Mathlib.Data.List.Basic
import MarketAlerts.Number.Decimal

/-!
The characters that doubles are written with. Whatever a double is, nothing stands in its text but
digits and a few signs, and an infinity or no number at all is a word of four letters.
-/
namespace MarketAlerts.Number

/-- A digit, a sign, a point, or a letter of an exponent or of a word for what is not finite. -/
def IsNumeral (c : Char) : Prop :=
  c.isDigit = true ∨ c ∈ ['.', '+', '-', 'e', 'i', 'n', 'f', 'a']

section Characters

variable {text : List Char} {c : Char}

theorem isNumeral_of_mem_digitsOf {value : Nat} (written : c ∈ digitsOf value) : IsNumeral c :=
  .inl (Nat.isDigit_of_mem_toDigits (by decide) (by decide) written)

theorem isNumeral_of_mem_padLeft {width : Nat} (numerals : ∀ c ∈ text, IsNumeral c)
    (written : c ∈ padLeft width text) : IsNumeral c := by
  obtain filled | kept := List.mem_append.1 written
  · rw [List.eq_of_mem_replicate filled]
    exact .inl rfl
  · exact numerals c kept

theorem isNumeral_of_mem_unitsText {places units : Nat} (written : c ∈ unitsText id places units) :
    IsNumeral c := by
  unfold unitsText at written
  split at written
  · exact isNumeral_of_mem_digitsOf written
  · obtain whole | fraction := List.mem_append.1 written
    · exact isNumeral_of_mem_digitsOf whole
    · obtain rfl | digit := List.mem_cons.1 fraction
      · exact .inr (by decide)
      · exact isNumeral_of_mem_padLeft (fun _ => isNumeral_of_mem_digitsOf) digit

/-- To strip a fraction leaves characters out and adds none. -/
theorem mem_of_mem_stripFraction (written : c ∈ stripFraction text) : c ∈ text := by
  have kept : ∀ c ∈ text.reverse.dropWhile (· == '0'), c ∈ text := fun c left =>
    List.mem_reverse.1 ((List.dropWhile_sublist _).subset left)
  unfold stripFraction at written
  split at written
  · split at written
    · next rest stripped =>
      rw [stripped] at kept
      exact kept c (List.mem_cons_of_mem _ (List.mem_reverse.1 written))
    · exact kept c (List.mem_reverse.1 written)
  · exact written

theorem isNumeral_of_mem_exponentText {exponent : Int} (written : c ∈ exponentText exponent) :
    IsNumeral c := by
  obtain rfl | digit := List.mem_cons.1 written
  · split
    · exact .inr (by decide)
    · exact .inr (by decide)
  · exact isNumeral_of_mem_padLeft (fun _ => isNumeral_of_mem_digitsOf) digit

theorem isNumeral_of_mem_generalText {count : Nat} {r : Ratio} (written : c ∈ generalText count r) :
    IsNumeral c := by
  unfold generalText at written
  dsimp only at written
  split at written
  · exact isNumeral_of_mem_unitsText (mem_of_mem_stripFraction written)
  · obtain digits | exponent := List.mem_append.1 written
    · exact isNumeral_of_mem_unitsText (mem_of_mem_stripFraction digits)
    · obtain rfl | more := List.mem_cons.1 exponent
      · exact .inr (by decide)
      · exact isNumeral_of_mem_exponentText more

theorem isNumeral_of_mem_signText {negative : Bool} (written : c ∈ signText negative) :
    IsNumeral c := by
  cases negative with
  | false => contradiction
  | true => exact .inr (by rw [List.mem_singleton.1 written]; decide)

end Characters

section Doubles

variable {x : Float} {c : Char}

theorem isNumeral_of_mem_write {finite : Bool → Ratio → List Char}
    (numerals : ∀ negative r, ∀ c ∈ finite negative r, IsNumeral c)
    (written : c ∈ (write x finite).toList) : IsNumeral c := by
  unfold write at written
  split at written
  · rw [String.toList_ofList] at written
    obtain sign | digits := List.mem_append.1 written
    · exact isNumeral_of_mem_signText sign
    · exact numerals _ _ c digits
  · rw [String.toList_ofList] at written
    obtain sign | letter := List.mem_append.1 written
    · exact isNumeral_of_mem_signText sign
    · exact .inr ((by decide : ['i', 'n', 'f'] ⊆ ['.', '+', '-', 'e', 'i', 'n', 'f', 'a']) letter)
  · exact .inr ((by decide : "nan".toList ⊆ ['.', '+', '-', 'e', 'i', 'n', 'f', 'a']) written)

theorem isNumeral_of_mem_fixed {places : Nat} (written : c ∈ (fixed places x).toList) :
    IsNumeral c :=
  isNumeral_of_mem_write (fun _ _ _ => isNumeral_of_mem_unitsText) written

theorem isNumeral_of_mem_general (written : c ∈ (general x).toList) : IsNumeral c :=
  isNumeral_of_mem_write (fun _ _ _ => isNumeral_of_mem_generalText) written

end Doubles

/-- Less than a hundred is written with two digits. -/
theorem padLeft_two {value : Nat} (small : value < 100) :
    padLeft 2 (digitsOf value) = [Nat.digitChar (value / 10), Nat.digitChar (value % 10)] := by
  have all : ∀ value < 100,
      padLeft 2 (digitsOf value) = [Nat.digitChar (value / 10), Nat.digitChar (value % 10)] := by
    decide +kernel
  exact all value small

end MarketAlerts.Number
