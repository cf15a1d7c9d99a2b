import MarketAlerts.Installation
import MarketAlerts.Proofs.Calendar.Days

/-!
What the clocks of a zone show at an instant, and where the calendar can hold it. The instant of a
time decides both; how the time was written does not.
-/
namespace MarketAlerts.Calendar

namespace Zone

/-- What the clocks of a zone show at the instant of a time, in microseconds from the start of day
0. -/
def clock (zone : Zone) (t : Timestamp) : Int :=
  t.instant + (zone.offsetAt t.instant.toNat).micros

/-- The calendar holds the instant of a time both in universal time and on the clocks of the
zone. -/
structure Reaches (zone : Zone) (t : Timestamp) : Prop where
  instant_nonneg : 0 ≤ t.instant
  instant_lt : t.instant < horizon
  clock_nonneg : 0 ≤ zone.clock t
  clock_lt : zone.clock t < horizon

instance (zone : Zone) (t : Timestamp) : Decidable (zone.Reaches t) :=
  decidable_of_iff
    ((0 ≤ t.instant ∧ t.instant < horizon) ∧ 0 ≤ zone.clock t ∧ zone.clock t < horizon)
    ⟨fun ⟨⟨a, b⟩, c, d⟩ => ⟨a, b, c, d⟩, fun ⟨a, b, c, d⟩ => ⟨⟨a, b⟩, c, d⟩⟩

/-- The date in a zone at the instant of a time. -/
def dateOf (zone : Zone) (t : Timestamp) : Date := Date.ofDays (zone.clock t / day).toNat

/-- The day of that date. -/
def dayAt (zone : Zone) (t : Timestamp) : Nat := (zone.clock t / day).toNat

theorem Reaches.dayAt_lt {zone : Zone} {t : Timestamp} (h : zone.Reaches t) :
    zone.dayAt t < lastDay := by
  have unit : day = 86400000000 := by decide
  have early := h.clock_nonneg
  have late := h.clock_lt
  unfold horizon at late
  unfold dayAt
  rw [unit] at late ⊢
  omega

section Names

variable [Installation] {name : String}

theorem find?_eq_some_iff {zone : Zone} : find? name = some zone ↔ find name = .ok zone := by
  rw [find?]
  cases find name <;> simp [Except.toOption]

theorem find_of_pathFault? {fault : Fault} (improper : pathFault? name = some fault) :
    find name = .error fault := by
  rw [find, improper]

/-- No zone is called by the empty name, since that is no path. -/
theorem find_empty : find "" = .error (.crookedZone "") := find_of_pathFault? (by decide +kernel)

theorem nameOr_of_find? {zone : Zone} (known : find? name = some zone) :
    nameOr (some name) = name := by
  have named : name.isEmpty = false := by
    rw [String.isEmpty_eq_false_iff]
    rintro rfl
    rw [find?_eq_some_iff, find_empty] at known
    contradiction
  rw [nameOr, named]
  rfl

end Names

end Zone

namespace Timestamp

theorem ofWall_of_lt {wall : Int} (nonneg : 0 ≤ wall) (lt : wall < horizon)
    (offset : Option Offset) : ofWall wall offset = .ok ⟨wall.toNat, offset, by omega⟩ := by
  rw [ofWall, ofWall?, dif_pos ⟨nonneg, lt⟩]

theorem ofWall_eq_ok_iff {wall : Int} {offset : Option Offset} {t : Timestamp} :
    ofWall wall offset = .ok t ↔ (t.wall : Int) = wall ∧ t.offset = offset := by
  constructor
  · intro made
    unfold ofWall ofWall? at made
    by_cases inside : 0 ≤ wall ∧ wall < horizon
    · rw [dif_pos inside] at made
      obtain rfl := Except.ok.inj made
      exact ⟨Int.toNat_of_nonneg inside.1, rfl⟩
    · rw [dif_neg inside] at made
      contradiction
  · rintro ⟨rfl, rfl⟩
    exact ofWall_of_lt (Int.natCast_nonneg _) (Int.ofNat_lt.2 t.wall_lt) t.offset

theorem shift_eq_error_iff {t : Timestamp} {span : Int} {fault : Fault} :
    t.shift span = .error fault ↔
      fault = .dateOutOfRange ∧ ¬ (0 ≤ t.wall + span ∧ t.wall + span < horizon) := by
  unfold shift ofWall ofWall?
  by_cases inside : 0 ≤ t.wall + span ∧ t.wall + span < horizon
  · rw [dif_pos inside]
    simp [inside]
  · rw [dif_neg inside]
    simp [inside, eq_comm]

/-- Moving the wall clock moves the instant as far. -/
theorem instant_shift {t moved : Timestamp} {span : Int} (h : t.shift span = .ok moved) :
    moved.instant = t.instant + span := by
  obtain ⟨wall, offset⟩ := ofWall_eq_ok_iff.1 h
  rw [instant, instant, wall, offsetOrUtc, offset, offsetOrUtc]
  omega

variable {t : Timestamp} {zone : Zone}

/-- A time is shown in a zone exactly if the calendar holds it there. -/
theorem inZone_eq_ok_iff {there : Timestamp} :
    t.inZone zone = .ok there ↔ zone.Reaches t ∧ (there.wall : Int) = zone.clock t ∧
      there.offset = some (zone.offsetAt t.instant.toNat) := by
  unfold inZone
  by_cases held : 0 ≤ t.instant ∧ t.instant < horizon
  · rw [ofWall_of_lt held.1 held.2]
    have wall : ((t.instant.toNat : Nat) : Int) = t.instant := Int.toNat_of_nonneg held.1
    simp only [bind, Except.bind, wall, ofWall_eq_ok_iff]
    constructor
    · rintro ⟨shown, offset⟩
      replace shown : (there.wall : Int) = zone.clock t := shown
      have lt : (there.wall : Int) < horizon := Int.ofNat_lt.2 there.wall_lt
      have nonneg : (0 : Int) ≤ there.wall := Int.natCast_nonneg _
      rw [shown] at lt nonneg
      exact ⟨⟨held.1, held.2, nonneg, lt⟩, shown, offset⟩
    · exact And.right
  · have out : ofWall t.instant (some .utc) = .error .dateOutOfRange := by
      rw [ofWall, ofWall?, dif_neg held]
    rw [out]
    exact ⟨nofun, fun shown => absurd ⟨shown.1.instant_nonneg, shown.1.instant_lt⟩ held⟩

theorem inZone_of_reaches (h : zone.Reaches t) : ∃ there, t.inZone zone = .ok there ∧
    (there.wall : Int) = zone.clock t ∧ there.offset = some (zone.offsetAt t.instant.toNat) := by
  refine ⟨⟨(zone.clock t).toNat, some (zone.offsetAt t.instant.toNat), ?_⟩, ?_⟩
  · exact (Int.toNat_lt h.clock_nonneg).2 h.clock_lt
  · have shown := Int.toNat_of_nonneg h.clock_nonneg
    exact ⟨inZone_eq_ok_iff.2 ⟨h, shown, rfl⟩, shown, rfl⟩

section Names

variable [Installation] {name : String}

theorem inNamed_eq_inZone (known : Zone.find? name = some zone) (t : Timestamp) :
    t.inNamed name = t.inZone zone := by
  rw [inNamed, Zone.find?_eq_some_iff.1 known]
  rfl

/-- Who is shown a time by name is shown it by a zone that is known. -/
theorem exists_reaches_of_inNamed {there : Timestamp} (shown : t.inNamed name = .ok there) :
    ∃ zone, Zone.find? name = some zone ∧ zone.Reaches t := by
  cases found : Zone.find name with
  | error fault =>
    rw [inNamed, found] at shown
    contradiction
  | ok zone =>
    have known := Zone.find?_eq_some_iff.2 found
    rw [inNamed_eq_inZone known] at shown
    exact ⟨zone, known, (inZone_eq_ok_iff.1 shown).1⟩

end Names

/-- A time that is written in the years 2 to 9998. -/
structure IsOrdinary (t : Timestamp) : Prop where
  two_le : 2 ≤ Date.yearOf t.days
  le_last : Date.yearOf t.days ≤ 9998

instance (t : Timestamp) : Decidable t.IsOrdinary :=
  decidable_of_iff (2 ≤ Date.yearOf t.days ∧ Date.yearOf t.days ≤ 9998)
    ⟨fun ⟨a, b⟩ => ⟨a, b⟩, fun ⟨a, b⟩ => ⟨a, b⟩⟩

theorem IsOrdinary.aware (h : t.IsOrdinary) : t.aware.IsOrdinary := ⟨h.two_le, h.le_last⟩

/-- An ordinary time is a year or more away from both ends of the calendar. -/
theorem IsOrdinary.wall (h : t.IsOrdinary) : 365 * day ≤ t.wall ∧ t.wall + 365 * day < horizon := by
  have early : 365 ≤ t.wall / day := yearOf_le_iff_of_two_le.1 h.two_le
  have late : t.wall / day < lastDay - 365 := lt_lastDay_of_yearOf_le h.le_last
  have units : day = 86400000000 ∧ lastDay = 3652059 := by decide
  unfold horizon
  rw [units.2] at late ⊢
  rw [units.1] at early late ⊢
  omega

/-- The clocks of every zone show an ordinary time. -/
theorem IsOrdinary.reaches (h : t.IsOrdinary) (zone : Zone) : zone.Reaches t := by
  obtain ⟨early, late⟩ := h.wall
  have written := t.offsetOrUtc.lt_day
  have shown := (zone.offsetAt t.instant.toNat).lt_day
  have instant : t.instant = t.wall - t.offsetOrUtc.micros := rfl
  have clock : zone.clock t = t.instant + (zone.offsetAt t.instant.toNat).micros := rfl
  constructor <;> omega

/-- A year back from an ordinary time the calendar has not ended. -/
theorem IsOrdinary.exists_shift (h : t.IsOrdinary) {span : Nat} (short : span ≤ 365 * day) :
    ∃ before, t.shift (-span) = .ok before := by
  obtain ⟨early, late⟩ := h.wall
  exact ⟨_, ofWall_of_lt (by omega) (by omega) t.offset⟩

theorem days_of_clock {there : Timestamp} (shown : (there.wall : Int) = zone.clock t) :
    there.days = (zone.clock t / day).toNat := by
  rw [days, ← shown]
  rfl

end Timestamp

end MarketAlerts.Calendar
