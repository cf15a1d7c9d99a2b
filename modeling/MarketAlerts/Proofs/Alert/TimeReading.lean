import MarketAlerts.Calendar.ZoneRule
import MarketAlerts.Proofs.Alert.TimeGrammar

/-!
Every time that quiet hours take can be read, and it is read as the minute of the day that its
digits write, in whatever script they are. So quiet hours fail where the time cannot be told in
their zone, and nowhere else.
-/
namespace MarketAlerts

open Calendar Text

/-- The number that two digits of any script write. -/
def pair? (tens ones : Char) : Option Nat := do
  return 10 * (← digit? tens) + (← digit? ones)

/-- A text writes an hour and a minute: two pairs of digits around a colon, and perhaps a line break
after them. -/
def WritesTime (text : String) (hour minute : Nat) : Prop :=
  ∃ a b c d ending, text.toList = a :: b :: ':' :: c :: d :: ending ∧
    (ending = [] ∨ ending = ['\n']) ∧
    pair? a b = some hour ∧ pair? c d = some minute

/-- Half past eight, the second digits in another script. -/
example : WritesTime "0\u0668:3\u0660\n" 8 30 :=
  ⟨'0', '\u0668', '3', '\u0660', ['\n'], by decide +kernel,
    .inr rfl, by decide +kernel, by decide +kernel⟩

theorem minutesOf_of_writesTime {text : String} {hour minute : Nat}
    (written : WritesTime text hour minute) : minutesOf text = .ok (60 * hour + minute : Nat) := by
  obtain ⟨a, b, c, d, ending, shape, ends, hours, minutes⟩ := written
  simp only [pair?, bind, Option.bind_eq_some_iff, pure, Option.some.injEq] at hours minutes
  obtain ⟨_, ha, _, hb, rfl⟩ := hours
  obtain ⟨_, hc, _, hd, rfl⟩ := minutes
  rw [minutesOf_of_digits shape ends ha hb hc hd]
  push_cast
  rw [Int.mul_comm 60]

theorem IsLooseTime.writesTime {text : String} (loose : IsLooseTime text) :
    ∃ hour < 24, ∃ minute < 60, WritesTime text hour minute := by
  obtain ⟨hour, late, minute, few, b, d, ending, shape, ones, -, rest, ends⟩ := loose
  have front : digit? (digitChar (hour / 10)) = some (hour / 10) := digit?_digitChar (by omega)
  have back : digit? (digitChar (minute / 10)) = some (minute / 10) := digit?_digitChar (by omega)
  refine ⟨hour, late, minute, few, _, b, _, d, ending, shape, ends, ?_, ?_⟩
  · simp [pair?, front, ones, Nat.div_add_mod]
  · simp [pair?, back, rest, Nat.div_add_mod]

namespace QuietHours

section

variable [Installation]

/-- Quiet hours that are in force fail with the zone, and only with it. -/
theorem holds_eq_error_iff (quiet : QuietHours) (now : Timestamp) (fallback : Option String)
    (fault : Fault) : quiet.holds now fallback = .error fault ↔
      quiet.enabled = true ∧ now.inNamed (quiet.zoneName fallback) = .error fault := by
  obtain ⟨_, _, -, -, starts⟩ := minutesOf_of_isTimeOfDay quiet.starts.2
  obtain ⟨_, _, -, -, ends⟩ := minutesOf_of_isTimeOfDay quiet.ends.2
  unfold holds
  cases quiet.enabled with
  | false => simp [pure, Except.pure]
  | true =>
    cases now.inNamed (quiet.zoneName fallback) with
    | error found => simp [bind, Except.bind]
    | ok there =>
      simp only [if_true, ok_bind, starts, ends]
      split <;> simp [pure, Except.pure]

/-- A text that quiet hours take for their start or their end, whatever else they are given, is read
as the minute of the day that its digits write. So quiet hours that are made fail where the time
cannot be told in their zone, and nowhere else. -/
theorem taken_times_are_read :
    (∀ fields quiet key text, read (.record fields) = .valid quiet → key = "start_time" ∨
    key = "end_time" →
      fields.lookup key = some (.text text) →
      ∃ hour < 24, ∃ minute < 60, WritesTime text hour minute ∧
        minutesOf text = .ok (60 * hour + minute : Nat) ∧ 60 * hour + minute ≤ 1439) ∧
    ∀ (quiet : QuietHours) (now : Timestamp) (fallback : Option String) (fault : Fault),
      quiet.holds now fallback = .error fault ↔
        quiet.enabled = true ∧ now.inNamed (quiet.zoneName fallback) = .error fault := by
  refine ⟨fun fields quiet key text made either given => ?_, holds_eq_error_iff⟩
  obtain ⟨starts, ends⟩ := val_of_read made
  have accepted : isTimeOfDay text = true := by
    rcases either with rfl | rfl
    · exact starts given ▸ quiet.starts.2
    · exact ends given ▸ quiet.ends.2
  obtain ⟨hour, late, minute, few, written⟩ := (isTimeOfDay_iff.1 accepted).writesTime
  exact ⟨hour, late, minute, few, written, minutesOf_of_writesTime written, by omega⟩

end

theorem taken_times_are_read_half_past_eight :
    (∃ hour < 24, ∃ minute < 60, WritesTime "0\u0668:3\u0660\n" hour minute ∧
      minutesOf "0\u0668:3\u0660\n" = .ok (60 * hour + minute : Nat) ∧ 60 * hour + minute ≤ 1439) ∧
    ({ default with enabled := true } : QuietHours).holds ⟨0, none, by decide⟩ (some "Nowhere") =
      .error (.unknownZone "Nowhere") := by
  obtain ⟨reading, failing⟩ := taken_times_are_read
  have loose : IsLooseTime "0\u0668:3\u0660\n" := isTimeOfDay_iff.1 (by decide +kernel)
  obtain ⟨quiet, made⟩ := (exists_read_iff (.inr rfl)).2 loose
  refine ⟨reading _ quiet "end_time" _ made (.inr rfl) List.lookup_cons_self, ?_⟩
  exact (failing _ _ _ _).2 ⟨rfl, by decide +kernel⟩

end QuietHours

end MarketAlerts
