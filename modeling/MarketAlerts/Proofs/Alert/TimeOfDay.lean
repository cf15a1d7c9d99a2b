import Mathlib.Data.List.Basic
import MarketAlerts.Proofs.Calendar.Zones
import MarketAlerts.Proofs.Engine.Verdict

/-!
Every time of day that is accepted can be read: its hours and minutes are two pairs of digits of any
script, and a line break at the end does no harm. So at an ordinary time quiet hours are always told
from others.
-/
namespace MarketAlerts

namespace Text

theorem lt_ten_of_digit? {c : Char} {value : Nat} (h : digit? c = some value) : value < 10 := by
  obtain ⟨start, found, rfl⟩ := Option.map_eq_some_iff.1 h
  have within := List.find?_some found
  simp only [Bool.and_eq_true, decide_eq_true_eq] at within
  omega

/-- No blank is a digit. -/
theorem isBlank_of_digit? {c : Char} {value : Nat} (h : digit? c = some value) :
    isBlank c = false := by
  obtain ⟨start, found, rfl⟩ := Option.map_eq_some_iff.1 h
  have within := List.find?_some found
  simp only [Bool.and_eq_true, decide_eq_true_eq] at within
  have apart : ∀ start ∈ digitZeros, ∀ value < 10,
      ((0x9 ≤ start + value && start + value ≤ 0xD)
        || (0x2000 ≤ start + value && start + value ≤ 0x200A)
        || [0x20, 0x85, 0xA0, 0x1680, 0x2028, 0x2029, 0x202F, 0x205F, 0x3000].contains
          (start + value)) =
      false := by decide +kernel
  have code : start + (c.toNat - start) = c.toNat := by omega
  have here := apart start (List.mem_of_find?_eq_some found) (c.toNat - start) (by omega)
  rw [code] at here
  exact here

theorem ne_colon_of_digit? {c : Char} {value : Nat} (h : digit? c = some value) : c ≠ ':' := by
  rintro rfl
  have colon : digit? ':' = none := by decide +kernel
  rw [colon] at h
  contradiction

/-- The plain digits are digits with their own values. -/
theorem digit?_of_plain {c : Char} (low : '0' ≤ c) (high : c ≤ '9') :
    digit? c = some (c.toNat - 48) := by
  have least : 48 ≤ c.toNat := low
  have most : c.toNat ≤ 57 := high
  have first : digitZeros.find? (fun least => least ≤ c.toNat && c.toNat < least + 10) =
      some 48 := by
    rw [digitZeros, List.find?_cons_of_pos]
    simp only [Bool.and_eq_true, decide_eq_true_eq]
    omega
  rw [digit?, first]
  rfl

theorem toNat_digitChar {value : Nat} (small : value < 10) :
    (digitChar value).toNat = 48 + value := by
  have all : ∀ value < 10, (digitChar value).toNat = 48 + value := by decide +kernel
  exact all value small

theorem digit?_digitChar {value : Nat} (small : value < 10) :
    digit? (digitChar value) = some value := by
  have all : ∀ value < 10, digit? (digitChar value) = some value := by decide +kernel
  exact all value small

theorem digitChar_of_toNat {c : Char} {value : Nat} (code : c.toNat = 48 + value) :
    c = digitChar value := by
  rw [digitChar, ← code, Char.ofNat_toNat]

/-- The digits below the 128th character are the plain ones. -/
theorem eq_digitChar_of_ascii {c : Char} {value : Nat} (ascii : c.toNat < 128)
    (h : digit? c = some value) : c = digitChar value := by
  obtain ⟨start, found, rfl⟩ := Option.map_eq_some_iff.1 h
  have within := List.find?_some found
  simp only [Bool.and_eq_true, decide_eq_true_eq] at within
  have first : ∀ start ∈ digitZeros, start < 128 → start = 48 := by decide
  have plain := first start (List.mem_of_find?_eq_some found) (by omega)
  exact digitChar_of_toNat (by omega)

end Text

namespace Number

open Text

/-- Two digits of any script, with or without a line break after them, are two plain digits. -/
theorem plain_pair {a b : Char} {tens ones : Nat} (first : digit? a = some tens)
    (second : digit? b = some ones) {ending : List Char} (ends : ending = [] ∨ ending = ['\n']) :
    plain (String.ofList (a :: b :: ending)) = [digitChar tens, digitChar ones] := by
  have front := isBlank_of_digit? first
  have back := isBlank_of_digit? second
  have bare : trim (a :: b :: ending) = [a, b] := by
    have blank : isBlank '\n' = true := by decide
    rcases ends with rfl | rfl <;> simp [trim, front, back, blank]
  rw [plain, String.toList_ofList, bare]
  simp [first, second]

theorem integer?_pair {tens ones : Nat} (ht : tens < 10) (ho : ones < 10) :
    integer? [digitChar tens, digitChar ones] = some ((10 * tens + ones : Nat) : Int) ∧
      excessDigits? [digitChar tens, digitChar ones] = none := by
  have all : ∀ tens < 10, ∀ ones < 10,
      integer? [digitChar tens, digitChar ones] = some ((10 * tens + ones : Nat) : Int) ∧
        excessDigits? [digitChar tens, digitChar ones] = none := by decide +kernel
  exact all tens ht ones ho

end Number

open Text

/-- An hour is two digits, of which the second may be of any script unless the first is a 2. -/
theorem isHour_iff {a b : Char} :
    ((a = '0' || a = '1') && (digit? b).isSome || (a = '2' && '0' ≤ b && b ≤ '3')) = true ↔
      ∃ hour < 24, a = digitChar (hour / 10) ∧ digit? b = some (hour % 10) ∧
        (20 ≤ hour → b = digitChar (hour % 10)) := by
  simp only [Bool.or_eq_true, Bool.and_eq_true, decide_eq_true_eq]
  constructor
  · rintro (⟨first, second⟩ | ⟨⟨rfl, low⟩, high⟩)
    · obtain ⟨ones, found⟩ := Option.isSome_iff_exists.1 second
      have small := lt_ten_of_digit? found
      obtain ⟨tens, early, rfl⟩ : ∃ tens ≤ 1, a = digitChar tens := by
        rcases first with rfl | rfl
        · exact ⟨0, by decide, by decide⟩
        · exact ⟨1, by decide, by decide⟩
      have front : (10 * tens + ones) / 10 = tens := by omega
      have back : (10 * tens + ones) % 10 = ones := by omega
      exact ⟨10 * tens + ones, by omega, by rw [front], by rw [found, back], by omega⟩
    · have least : 48 ≤ b.toNat := low
      have most : b.toNat ≤ 51 := high
      have front : (20 + (b.toNat - 48)) / 10 = 2 := by omega
      have back : (20 + (b.toNat - 48)) % 10 = b.toNat - 48 := by omega
      have plain : b = digitChar (b.toNat - 48) := digitChar_of_toNat (by omega)
      refine ⟨20 + (b.toNat - 48), by omega, by rw [front]; decide, ?_,
        fun _ => plain.trans (by rw [back])⟩
      rw [back]
      exact digit?_of_plain low (Nat.le_trans most (by decide))
  · rintro ⟨hour, late, rfl, found, plain⟩
    by_cases evening : 20 ≤ hour
    · have front : hour / 10 = 2 := by omega
      have code := toNat_digitChar (show hour % 10 < 10 by omega)
      rw [plain evening, front]
      refine .inr ⟨⟨by decide, ?_⟩, ?_⟩
      · show 48 ≤ (digitChar (hour % 10)).toNat
        omega
      · show (digitChar (hour % 10)).toNat ≤ 51
        omega
    · refine .inl ⟨?_, by rw [found]; rfl⟩
      obtain front | front : hour / 10 = 0 ∨ hour / 10 = 1 := by omega
      · exact .inl (by rw [front]; decide)
      · exact .inr (by rw [front]; decide)

theorem isMinute_iff {c d : Char} : ('0' ≤ c && c ≤ '5' && (digit? d).isSome) = true ↔
    ∃ minute < 60, c = digitChar (minute / 10) ∧ digit? d = some (minute % 10) := by
  simp only [Bool.and_eq_true, decide_eq_true_eq]
  constructor
  · rintro ⟨⟨low, high⟩, second⟩
    obtain ⟨ones, found⟩ := Option.isSome_iff_exists.1 second
    have small := lt_ten_of_digit? found
    have least : 48 ≤ c.toNat := low
    have most : c.toNat ≤ 53 := high
    refine ⟨10 * (c.toNat - 48) + ones, by omega, digitChar_of_toNat (by omega), ?_⟩
    rw [found]
    congr 1
    omega
  · rintro ⟨minute, small, rfl, found⟩
    have code := toNat_digitChar (show minute / 10 < 10 by omega)
    refine ⟨⟨?_, ?_⟩, by rw [found]; rfl⟩
    · show 48 ≤ (digitChar (minute / 10)).toNat
      omega
    · show (digitChar (minute / 10)).toNat ≤ 53
      omega

/-- What is accepted as a time of day: an hour and a minute around a colon. The second digit of
either may be of any script, but for the hours from 20 on, and a line break may follow. -/
def IsLooseTime (text : String) : Prop :=
  ∃ hour < 24, ∃ minute < 60, ∃ b d ending,
    text.toList = digitChar (hour / 10) :: b :: ':' :: digitChar (minute / 10) :: d :: ending ∧
      digit? b = some (hour % 10) ∧ (20 ≤ hour → b = digitChar (hour % 10)) ∧
      digit? d = some (minute % 10) ∧
      (ending = [] ∨ ending = ['\n'])

theorem isTimeOfDay_iff {text : String} : isTimeOfDay text = true ↔ IsLooseTime text := by
  unfold isTimeOfDay IsLooseTime
  dsimp only
  constructor
  · intro accepted
    split at accepted
    · next a b c d shape =>
      obtain ⟨first, second⟩ := Bool.and_eq_true_iff.1 accepted
      obtain ⟨hour, late, rfl, ones, plain⟩ := isHour_iff.1 first
      obtain ⟨minute, few, rfl, rest⟩ := isMinute_iff.1 second
      exact ⟨hour, late, minute, few, b, d, [], shape, ones, plain, rest, .inl rfl⟩
    · next a b c d shape =>
      obtain ⟨first, second⟩ := Bool.and_eq_true_iff.1 accepted
      obtain ⟨hour, late, rfl, ones, plain⟩ := isHour_iff.1 first
      obtain ⟨minute, few, rfl, rest⟩ := isMinute_iff.1 second
      exact ⟨hour, late, minute, few, b, d, ['\n'], shape, ones, plain, rest, .inr rfl⟩
    · contradiction
  · rintro ⟨hour, late, minute, few, b, d, ending, shape, ones, plain, rest, ends⟩
    have first := isHour_iff.2 ⟨hour, late, rfl, ones, plain⟩
    have second := isMinute_iff.2 ⟨minute, few, rfl, rest⟩
    rw [shape]
    rcases ends with rfl | rfl
    · exact Bool.and_eq_true_iff.2 ⟨first, second⟩
    · exact Bool.and_eq_true_iff.2 ⟨first, second⟩

theorem splitOn_colon {a b c d : Char} (ha : a ≠ ':') (hb : b ≠ ':') (hc : c ≠ ':') (hd : d ≠ ':')
    {ending : List Char} (ends : ending = [] ∨ ending = ['\n']) :
    (a :: b :: ':' :: c :: d :: ending).splitOn ':' = [[a, b], c :: d :: ending] := by
  rcases ends with rfl | rfl <;>
    simp [List.splitOn, List.splitOnP_cons_eq_if_modifyHead, ha, hb, hc, hd]

/-- Two pairs of digits around a colon are read as hours and minutes, with or without a line break
after them. -/
theorem minutesOf_of_digits {text : String} {a b c d : Char} {ending : List Char}
    {tens ones tens' ones' : Nat} (shape : text.toList = a :: b :: ':' :: c :: d :: ending)
    (ends : ending = [] ∨ ending = ['\n']) (ha : digit? a = some tens) (hb : digit? b = some ones)
    (hc : digit? c = some tens') (hd : digit? d = some ones') :
    minutesOf text = .ok ((10 * tens + ones : Nat) * 60 + (10 * tens' + ones' : Nat)) := by
  have hours := Number.plain_pair ha hb (.inl rfl)
  have minutes := Number.plain_pair hc hd ends
  obtain ⟨hourValue, hourShort⟩ := Number.integer?_pair (lt_ten_of_digit? ha) (lt_ten_of_digit? hb)
  obtain ⟨minuteValue, minuteShort⟩ :=
    Number.integer?_pair (lt_ten_of_digit? hc) (lt_ten_of_digit? hd)
  unfold minutesOf
  rw [shape, splitOn_colon (ne_colon_of_digit? ha) (ne_colon_of_digit? hb) (ne_colon_of_digit? hc)
    (ne_colon_of_digit? hd) ends]
  simp only [Number.integerOf?, hours, minutes, hourValue, hourShort, minuteValue, minuteShort,
    bind, Except.bind, pure, Except.pure]

/-- An accepted time of day is read as minutes since midnight. -/
theorem minutesOf_of_isTimeOfDay {text : String} (h : isTimeOfDay text = true) :
    ∃ hours minutes : Nat, hours < 24 ∧ minutes < 60 ∧
    minutesOf text = .ok (hours * 60 + minutes) := by
  obtain ⟨hour, late, minute, few, b, d, ending, shape, hb, -, hd, ends⟩ := isTimeOfDay_iff.1 h
  have ha : digit? (digitChar (hour / 10)) = some (hour / 10) := digit?_digitChar (by omega)
  have hc : digit? (digitChar (minute / 10)) = some (minute / 10) := digit?_digitChar (by omega)
  have read := minutesOf_of_digits shape ends ha hb hc hd
  rw [Nat.div_add_mod, Nat.div_add_mod] at read
  exact ⟨hour, minute, late, few, read⟩

namespace QuietHours

open Calendar

variable [Installation]

/-- Quiet hours are asked for in a zone that is known, if the one to fall back on is. -/
theorem exists_zone (quiet : QuietHours) {fallback : Option String} {other : Zone}
    (known : Zone.find? (Zone.nameOr fallback) = some other) :
    ∃ zone, Zone.find? (quiet.zoneName fallback) = some zone := by
  unfold zoneName
  split
  · next own _ => exact ⟨own.zone, own.is_known⟩
  · exact ⟨other, known⟩

theorem exists_holds (quiet : QuietHours) {now : Timestamp} (ordinary : now.IsOrdinary)
    {fallback : Option String} {other : Zone}
    (known : Zone.find? (Zone.nameOr fallback) = some other) :
    ∃ silent, quiet.holds now fallback = .ok silent := by
  unfold holds
  split
  · obtain ⟨zone, named⟩ := quiet.exists_zone known
    obtain ⟨there, shown, -⟩ := Timestamp.inZone_of_reaches (ordinary.reaches zone)
    obtain ⟨_, _, -, -, starts⟩ := minutesOf_of_isTimeOfDay quiet.starts.2
    obtain ⟨_, _, -, -, ends⟩ := minutesOf_of_isTimeOfDay quiet.ends.2
    rw [Timestamp.inNamed_eq_inZone named, shown, ok_bind]
    split
    · rw [starts, ok_bind, ends, ok_bind]
      exact ⟨_, rfl⟩
    · exact ⟨_, rfl⟩
  · exact ⟨_, rfl⟩

end QuietHours

end MarketAlerts
