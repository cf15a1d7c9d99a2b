import MarketAlerts.Calendar.ZoneRule
import MarketAlerts.Proofs.Alert.TimeOfDay
import MarketAlerts.Proofs.Document.Checked

/-!
Which texts quiet hours take for their start and their end. The time of a clock, such as 08:30, is
one of them; with digits of other scripts, or with a line break behind it, it is taken as well. Any
other text is refused by name.
-/
namespace MarketAlerts

open Document Checked Text

/-- An hour from 00 to 23 and a minute from 00 to 59 around a colon, all in plain digits. -/
def IsClockTime (text : String) : Prop :=
  ∃ hour < 24, ∃ minute < 60, text.toList =
    [digitChar (hour / 10), digitChar (hour % 10), ':', digitChar (minute / 10),
      digitChar (minute % 10)]

/-- The time of a clock is accepted, and of what is accepted nothing else has five characters of
ASCII. -/
theorem isClockTime_iff {text : String} : IsClockTime text ↔
    IsLooseTime text ∧ text.toList.length = 5 ∧ ∀ c ∈ text.toList, c.toNat < 128 := by
  constructor
  · rintro ⟨hour, late, minute, few, shape⟩
    have codes : ∀ value < 10, (digitChar value).toNat < 128 := by decide +kernel
    refine ⟨⟨hour, late, minute, few, digitChar (hour % 10), digitChar (minute % 10), [], shape,
      digit?_digitChar (by omega), fun _ => rfl, digit?_digitChar (by omega),
      .inl rfl⟩, by rw [shape]; rfl, ?_⟩
    rw [shape]
    simp only [List.forall_mem_cons]
    exact ⟨codes _ (by omega), codes _ (by omega), by decide, codes _ (by omega),
      codes _ (by omega), by simp⟩
  · rintro ⟨⟨hour, late, minute, few, b, d, ending, shape, ones, -, rest, ends⟩, five, ascii⟩
    rw [shape] at five ascii
    obtain rfl : ending = [] := List.length_eq_zero_iff.1 (by simpa using five)
    simp only [List.forall_mem_cons] at ascii
    obtain ⟨-, hb, -, -, hd, -⟩ := ascii
    refine ⟨hour, late, minute, few, ?_⟩
    rw [shape, eq_digitChar_of_ascii hb ones, eq_digitChar_of_ascii hd rest]

namespace QuietHours

theorem asTimeOfDay_text_eq_valid_iff {text : String} {time : TimeOfDay} :
    asTimeOfDay (.text text) = .valid time ↔ time.val = text := by
  have reading : asTimeOfDay (.text text) =
      if h : isTimeOfDay text = true then .valid ⟨text, h⟩ else flaw (.notTimeOfDay text) := rfl
  rw [reading]
  constructor
  · intro made
    split at made
    · cases made
      rfl
    · cases made
  · rintro rfl
    exact dif_pos time.2

theorem issues_asTimeOfDay (key text : String) : ((asTimeOfDay (.text text)).under key).issues =
    if isTimeOfDay text = true then [] else [⟨[key], .notTimeOfDay text⟩] := by
  have reading : asTimeOfDay (.text text) =
      if h : isTimeOfDay text = true then .valid ⟨text, h⟩ else flaw (.notTimeOfDay text) := rfl
  rw [reading]
  split <;> rfl

variable {fields : Fields} {text : String}

theorem optional_of_lookup {key : String} (given : fields.lookup key = some (.text text))
    (otherwise : TimeOfDay) :
    fields.optional key otherwise asTimeOfDay = (asTimeOfDay (.text text)).under key := by
  rw [Fields.optional, given]
  rfl

theorem not_mem_issues_optional {α : Type} {key other : String} {defect : Defect} {otherwise : α}
    {reader : Datum → Checked α} (apart : other ≠ key) :
    ⟨[key], defect⟩ ∉ (fields.optional other otherwise reader).issues :=
  fun found => apart (Option.some.inj (head_path_of_mem_under found)).symm

section

variable [Installation] {quiet : QuietHours}

theorem times_of_read (made : read (.record fields) = .valid quiet) :
    fields.optional "start_time" default.starts asTimeOfDay = .valid quiet.starts ∧
      fields.optional "end_time" default.ends asTimeOfDay = .valid quiet.ends := by
  obtain ⟨_, zone, four, -, rfl⟩ := seq_eq_valid_iff.1 made
  obtain ⟨_, days, three, -, rfl⟩ := seq_eq_valid_iff.1 four
  obtain ⟨_, ends, two, last, rfl⟩ := seq_eq_valid_iff.1 three
  obtain ⟨_, starts, one, first, rfl⟩ := seq_eq_valid_iff.1 two
  obtain ⟨enabled, -, rfl⟩ := map_eq_valid_iff.1 one
  exact ⟨first, last⟩

/-- The texts of the two times are kept as they are given. -/
theorem val_of_read (made : read (.record fields) = .valid quiet) :
    (fields.lookup "start_time" = some (.text text) → quiet.starts.val = text) ∧
      (fields.lookup "end_time" = some (.text text) → quiet.ends.val = text) := by
  obtain ⟨starts, ends⟩ := times_of_read made
  constructor
  · intro given
    rw [optional_of_lookup given, under_eq_valid_iff] at starts
    exact asTimeOfDay_text_eq_valid_iff.1 starts
  · intro given
    rw [optional_of_lookup given, under_eq_valid_iff] at ends
    exact asTimeOfDay_text_eq_valid_iff.1 ends

/-- A time that is refused is named, and only a refused one is. -/
theorem mem_issues_read_iff {key : String} (either : key = "start_time" ∨ key = "end_time")
    (given : fields.lookup key = some (.text text)) :
    ⟨[key], .notTimeOfDay text⟩ ∈ (read (.record fields)).issues ↔ ¬ IsLooseTime text := by
  have own (otherwise : TimeOfDay) :
      ⟨[key], .notTimeOfDay text⟩ ∈ (fields.optional key otherwise asTimeOfDay).issues ↔
      ¬ IsLooseTime text := by
    rw [optional_of_lookup given, issues_asTimeOfDay, ← isTimeOfDay_iff]
    split <;> simp_all
  simp only [read, Datum.asRecord, issues_seq, issues_map, List.mem_append]
  rcases either with rfl | rfl
  · rw [own]
    simp only [Fields.nullable, not_mem_issues_optional (show "enabled" ≠ "start_time" by decide),
      not_mem_issues_optional (show "end_time" ≠ "start_time" by decide),
      not_mem_issues_optional (show "days" ≠ "start_time" by decide),
      not_mem_issues_optional (show "timezone" ≠ "start_time" by decide), false_or, or_false]
  · rw [own]
    simp only [Fields.nullable, not_mem_issues_optional (show "enabled" ≠ "end_time" by decide),
      not_mem_issues_optional (show "start_time" ≠ "end_time" by decide),
      not_mem_issues_optional (show "days" ≠ "end_time" by decide),
      not_mem_issues_optional (show "timezone" ≠ "end_time" by decide), false_or, or_false]

/-- A time alone makes quiet hours if and only if it is accepted. -/
theorem exists_read_iff {key : String} (either : key = "start_time" ∨ key = "end_time") :
    (∃ quiet, read (.record [(key, .text text)]) = .valid quiet) ↔ IsLooseTime text := by
  have given : List.lookup key [(key, Datum.text text)] = some (.text text) := List.lookup_cons_self
  constructor
  · rintro ⟨quiet, made⟩
    by_contra refused
    have found := (mem_issues_read_iff either given).2 refused
    rw [made] at found
    cases found
  · intro loose
    let time : TimeOfDay := ⟨text, isTimeOfDay_iff.2 loose⟩
    have taken (otherwise : TimeOfDay) :
        Fields.optional [(key, .text text)] key otherwise asTimeOfDay = .valid time := by
      rw [optional_of_lookup given, under_eq_valid_iff]
      exact asTimeOfDay_text_eq_valid_iff.2 rfl
    rcases either with rfl | rfl
    · refine ⟨{ default with starts := time }, ?_⟩
      simp only [read, Datum.asRecord, taken]
      rfl
    · refine ⟨{ default with ends := time }, ?_⟩
      simp only [read, Datum.asRecord, taken]
      rfl

/-- For their start as for their end, quiet hours take a text if and only if it is loosely a time;
any other is named in what is refused, and what is taken is kept as it is. Each time of a clock is
taken, and nothing else that has five characters of ASCII. -/
theorem takes_loose_times (text : String) :
    (∀ key, key = "start_time" ∨ key = "end_time" →
      ((∃ quiet, read (.record [(key, .text text)]) = .valid quiet) ↔ IsLooseTime text) ∧
      ∀ fields : Fields, fields.lookup key = some (.text text) →
        (⟨[key], .notTimeOfDay text⟩ ∈ (read (.record fields)).issues ↔ ¬ IsLooseTime text)) ∧
    (∀ fields quiet, read (.record fields) = .valid quiet →
      (fields.lookup "start_time" = some (.text text) → quiet.starts.val = text) ∧
      (fields.lookup "end_time" = some (.text text) → quiet.ends.val = text)) ∧
    (IsClockTime text ↔ IsLooseTime text ∧ text.toList.length = 5 ∧ ∀ c ∈ text.toList,
    c.toNat < 128) :=
  ⟨fun _ either => ⟨exists_read_iff either, fun _ => mem_issues_read_iff either⟩, fun _ _ =>
    val_of_read, isClockTime_iff⟩

end

theorem takes_loose_times_midnight :
    (∃ quiet, read (.record [("end_time", .text "23:59")]) = .valid quiet) ∧
      ⟨["end_time"], .notTimeOfDay "24:00"⟩ ∈
      (read (.record [("end_time", .text "24:00")])).issues := by
  obtain ⟨last, -, clock⟩ := takes_loose_times "23:59"
  obtain ⟨past, -⟩ := takes_loose_times "24:00"
  have loose : IsLooseTime "23:59" := (clock.1 ⟨23, by decide, 59, by decide, by decide +kernel⟩).1
  have late : ¬ IsLooseTime "24:00" := by
    rw [← isTimeOfDay_iff]
    decide +kernel
  exact ⟨(last _ (.inr rfl)).1.2 loose, ((past _ (.inr rfl)).2 _ List.lookup_cons_self).2 late⟩

/-- A time of a clock with a line break behind it is no time of a clock, and is taken for one. -/
theorem takes_line_break :
    ¬ ∀ text, (∃ quiet, read (.record [("start_time", .text text)]) = .valid quiet) ↔
    IsClockTime text := by
  intro exact
  have loose : IsLooseTime "22:00\n" := isTimeOfDay_iff.1 (by decide +kernel)
  obtain ⟨-, five, -⟩ :=
    isClockTime_iff.1 ((exact "22:00\n").1 ((exists_read_iff (.inl rfl)).2 loose))
  exact absurd five (by decide +kernel)

/-- Eight hours and thirty minutes, each with a second digit of another script. -/
example : IsLooseTime "0\u0668:3\u0660" := isTimeOfDay_iff.1 (by decide +kernel)

end QuietHours

end MarketAlerts
