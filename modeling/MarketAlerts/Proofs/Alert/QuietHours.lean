import MarketAlerts.Calendar.ZoneRule
import MarketAlerts.Proofs.Alert.TimeOfDay

/-!
Quiet hours on the circle of the day. Whether a window runs through midnight or not, it holds the
minutes that come no later after its start than its end does. It silences them on the weekdays
chosen, by the clocks of its own zone if it has one.
-/
namespace MarketAlerts

open Calendar

theorem Calendar.Timestamp.minuteOfDay_lt (t : Timestamp) : t.minuteOfDay < 1440 :=
  Nat.mod_lt _ (by decide)

/-- An accepted time of day is a minute of the day. -/
theorem exists_minutesOf (time : TimeOfDay) : ∃ m : Nat, m < 1440 ∧ minutesOf time = .ok m := by
  obtain ⟨hours, minutes, hour, minute, read⟩ := minutesOf_of_isTimeOfDay time.2
  exact ⟨hours * 60 + minutes, by omega, read⟩

namespace QuietHours

/-- The minutes from one minute of the day on to another, through midnight if the other is
earlier. -/
def ahead (starts current : Nat) : Int := ((current : Int) - starts) % 1440

section Window

variable {starts ends current : Nat}

theorem ahead_of_le (later : starts ≤ current) (minute : current < 1440) :
    ahead starts current = (current : Int) - starts :=
  Int.emod_eq_of_lt (by omega) (by omega)

theorem ahead_of_lt (earlier : current < starts) (start : starts < 1440) :
    ahead starts current = (current : Int) - starts + 1440 := by
  rw [ahead, ← Int.add_emod_right]
  exact Int.emod_eq_of_lt (by omega) (by omega)

theorem inWindow_of_le (plain : starts ≤ ends) :
    inWindow starts ends current = true ↔ starts ≤ current ∧ current ≤ ends := by
  rw [inWindow, if_neg (by omega)]
  simp

theorem inWindow_of_lt (wraps : ends < starts) :
    inWindow starts ends current = true ↔ starts ≤ current ∨ current ≤ ends := by
  rw [inWindow, if_pos (by omega)]
  simp

/-- Both kinds of window are stretches of the circle. -/
theorem inWindow_iff_ahead_le (start : starts < 1440) (stop : ends < 1440)
    (minute : current < 1440) :
    inWindow starts ends current = true ↔ ahead starts current ≤ ahead starts ends := by
  rcases Nat.lt_or_ge ends starts with wraps | plain
  · -- The end is a day later than its minute says, and so is every minute before the start.
    rw [inWindow_of_lt wraps, ahead_of_lt wraps start]
    rcases Nat.lt_or_ge current starts with before | after
    · rw [ahead_of_lt before start]
      omega
    · rw [ahead_of_le after minute]
      omega
  · rw [inWindow_of_le plain, ahead_of_le plain stop]
    rcases Nat.lt_or_ge current starts with before | after
    · rw [ahead_of_lt before start]
      omega
    · rw [ahead_of_le after minute]
      omega

end Window

section

variable [Installation]

/-- The window is switched on, and the local day is one of those chosen: weekdays count from Sunday,
and the first of all days was a Monday. -/
def IsOn (quiet : QuietHours) (there : Timestamp) : Prop :=
  quiet.enabled = true ∧ (there.wall / day + 1) % 7 ∈ quiet.weekdays.map (·.val)

variable (quiet : QuietHours) {fallback : Option String} {now there : Timestamp}

/-- Once the clocks of the zone are read and so are the bounds, quiet hours are told. -/
theorem holds_of_shown (shown : now.inNamed (quiet.zoneName fallback) = .ok there)
    {starts ends : Int} (start : minutesOf quiet.starts = .ok starts)
    (stop : minutesOf quiet.ends = .ok ends) : ∃ silent, quiet.holds now fallback = .ok silent ∧
      (silent = true ↔ quiet.IsOn there ∧ inWindow starts ends there.minuteOfDay = true) := by
  have weekday : there.weekday = (there.wall / day + 1) % 7 := rfl
  have chosen : quiet.weekdays.any (·.val == there.weekday) = true ↔
      (there.wall / day + 1) % 7 ∈ quiet.weekdays.map (·.val) := by simp [weekday]
  unfold holds IsOn
  rw [shown, ok_bind, start, ok_bind, stop, ok_bind, ← chosen]
  by_cases enabled : quiet.enabled = true
  · rw [if_pos enabled]
    split
    · next chosen => exact ⟨_, rfl, by simp [enabled, chosen]⟩
    · next others => exact ⟨_, rfl, by simp [others]⟩
  · rw [if_neg enabled]
    exact ⟨_, rfl, by simp [enabled]⟩

/-- Without a zone of its own the one to fall back on is asked, and universal time where none is
named. -/
theorem zoneName_of_none (h : quiet.zone = none) :
    quiet.zoneName fallback = (fallback.filter (· ≠ "")).getD "UTC" := by
  rw [zoneName, h]
  cases fallback with
  | none => rfl
  | some name =>
    unfold Zone.nameOr Option.filter
    by_cases blank : name = "" <;> simp [Zone.defaultName, blank]

/-- A zone of its own is asked, whatever there is to fall back on. -/
theorem zoneName_of_zone {own : NamedZone} (h : quiet.zone = some own) :
    quiet.zoneName fallback = own.name := by
  rw [zoneName, h]

theorem holds_of_zone {own : NamedZone} (h : quiet.zone = some own) (other : Option String) :
    quiet.holds now other = quiet.holds now fallback := by
  rw [holds, holds, quiet.zoneName_of_zone h, quiet.zoneName_of_zone h]

/-- Where the clocks of the zone in force show a time, quiet hours are told. They hold if and only
if the window is switched on, the local weekday is chosen, and the local minute comes no later after
the start than the end does on the circle of the day. Both bounds belong to the window: one that
ends where it starts is a single minute, and one that ends before it starts runs through midnight. A
zone of its own decides alone, and without one the zone to fall back on does. -/
theorem holds_iff_ahead_le (shown : now.inNamed (quiet.zoneName fallback) = .ok there) :
    let weekday := (there.wall / day + 1) % 7
    let current := there.wall / minute % 1440
    ∃ starts ends : Nat, starts < 1440 ∧ ends < 1440 ∧
      minutesOf quiet.starts = .ok starts ∧ minutesOf quiet.ends = .ok ends ∧
      ∃ silent, quiet.holds now fallback = .ok silent ∧
        (silent = true ↔ quiet.enabled = true ∧ weekday ∈ quiet.weekdays.map (·.val) ∧
          ((current : Int) - starts) % 1440 ≤ ((ends : Int) - starts) % 1440) ∧
        (starts ≤ ends → (silent = true ↔ quiet.IsOn there ∧ starts ≤ current ∧ current ≤ ends)) ∧
        (starts = ends → (silent = true ↔ quiet.IsOn there ∧ current = starts)) ∧
        (ends < starts → (silent = true ↔ quiet.IsOn there ∧ (starts ≤ current ∨ current ≤ ends))) ∧
        (quiet.zone = none → now.inNamed ((fallback.filter (· ≠ "")).getD "UTC") = .ok there) ∧
        ∀ own, quiet.zone = some own →
          now.inZone own.zone = .ok there ∧ ∀ other, quiet.holds now other = .ok silent := by
  intro weekday current
  obtain ⟨starts, first, start⟩ := exists_minutesOf quiet.starts
  obtain ⟨ends, last, stop⟩ := exists_minutesOf quiet.ends
  obtain ⟨silent, told, iff⟩ := quiet.holds_of_shown shown start stop
  have clock : there.minuteOfDay = current := rfl
  have within : current < 1440 := there.minuteOfDay_lt
  rw [clock] at iff
  refine ⟨starts, ends, first, last, start, stop, silent, told, ?_, fun plain => ?_, fun same => ?_,
    fun wraps => ?_, fun bare => ?_, fun own zoned => ⟨?_, fun other => ?_⟩⟩
  · rw [iff, inWindow_iff_ahead_le first last within, IsOn, and_assoc]
    rfl
  · rw [iff, inWindow_of_le plain]
  · rw [iff, inWindow_of_le (Nat.le_of_eq same)]
    exact and_congr_right fun _ => by omega
  · rw [iff, inWindow_of_lt wraps]
  · rwa [quiet.zoneName_of_none bare] at shown
  · rw [quiet.zoneName_of_zone zoned, Timestamp.inNamed_eq_inZone own.is_known] at shown
    exact shown
  · rw [quiet.holds_of_zone zoned other, told]

end

/-- The third of July 2024, a Wednesday, at eight in the morning on Tokyo clocks. -/
def wednesdayAtEight : Timestamp :=
  { wall := (Date.mk 2024 7 3).toDays * day + 480 * minute
    offset := some ZoneRule.tokyo.standard
    wall_lt := by decide +kernel }

/-- The same time in universal time, where it still is Tuesday. -/
def tuesdayAtEleven : Timestamp :=
  { wall := (Date.mk 2024 7 2).toDays * day + 1380 * minute
    offset := none
    wall_lt := by decide +kernel }

/-- From ten to eight, on Wednesdays in Tokyo. -/
def tokyoWednesdays : QuietHours :=
  { QuietHours.default with
    enabled := true
    weekdays := QuietHours.default.weekdays.filter (·.val = 3)
    zone := NamedZone.ofName? "Asia/Tokyo" }

/-- The last minute is still a quiet one, and the zone to fall back on does not matter. -/
theorem holds_tokyoWednesdays :
    tuesdayAtEleven.inNamed (tokyoWednesdays.zoneName (some "UTC")) = .ok wednesdayAtEight ∧
      (wednesdayAtEight.wall / day + 1) % 7 = 3 ∧ tokyoWednesdays.weekdays.map (·.val) = [3] ∧
      tokyoWednesdays.holds tuesdayAtEleven (some "UTC") = .ok true := by
  have shown : tuesdayAtEleven.inNamed (tokyoWednesdays.zoneName (some "UTC")) =
      .ok wednesdayAtEight := by
    decide +kernel
  have wednesday : (wednesdayAtEight.wall / day + 1) % 7 = 3 := by decide +kernel
  have chosen : tokyoWednesdays.weekdays.map (·.val) = [3] := by decide
  have on : tokyoWednesdays.IsOn wednesdayAtEight := by
    refine ⟨rfl, ?_⟩
    rw [wednesday, chosen]
    exact List.mem_singleton_self 3
  obtain ⟨starts, ends, -, -, start, stop, silent, told, -, -, -, wraps, -⟩ :=
    tokyoWednesdays.holds_iff_ahead_le shown
  have ten : minutesOf tokyoWednesdays.starts = .ok 1320 := by decide +kernel
  have eight : minutesOf tokyoWednesdays.ends = .ok 480 := by decide +kernel
  have early : starts = 1320 := Int.ofNat_inj.1 (Except.ok.inj (start.symm.trans ten))
  have late : ends = 480 := Int.ofNat_inj.1 (Except.ok.inj (stop.symm.trans eight))
  have current : wednesdayAtEight.wall / minute % 1440 = 480 := by decide +kernel
  have silences : silent = true := (wraps (by omega)).2 ⟨on, .inr (by omega)⟩
  exact ⟨shown, wednesday, chosen, silences ▸ told⟩

end QuietHours

end MarketAlerts
