import Uptime.Time.Calendar

/-!
# Days and dates

`Date.dayNumber` and `Date.ofDayNumber` count the same calendar. The date of a day lies in the year
and the month that begin last before it (`isDateOf_ofDayNumber`); from this follow that it has the
number of that day (`dayNumber_ofDayNumber`), that it exists in the calendar (`IsDateOf.day_le`) and
that later days have later dates (`before_of_lt`).
-/

namespace Uptime.Date

/-- Days from 0000-03-01 to the first of March of a year. -/
def marchDay (year : Int) : Int := 365 * year + year / 4 - year / 100 + year / 400

/-- The year counted from March to which a date belongs. -/
def marchYear (d : Date) : Int := if d.month ≤ 2 then d.year - 1 else d.year

/-- Months since March. -/
def fromMarch (d : Date) : Nat := (d.month + 9) % 12

theorem marchDay_era (era : Int) (year : Nat) : marchDay (era * 400 + year) =
    era * 146097 + (365 * year + year / 4 - year / 100 + year / 400 : Nat) := by
  unfold marchDay
  omega

theorem marchDay_mono {a b : Int} (h : a ≤ b) : marchDay a ≤ marchDay b := by
  unfold marchDay
  omega

/-- A year from March to March has 366 days if the February in it has 29. -/
theorem marchDay_succ (year : Int) :
    marchDay (year + 1) = marchDay year + if isLeapYear (year + 1) then 366 else 365 := by
  unfold marchDay isLeapYear
  simp only [Bool.and_eq_true, Bool.or_eq_true, beq_iff_eq, bne_iff_ne]
  by_cases hundred : (year + 1) % 100 = 0
  · by_cases four : (year + 1) % 400 = 0
    · rw [if_pos ⟨by omega, .inr four⟩]
      omega
    · rw [if_neg (by omega)]
      omega
  · have same : (year + 1) / 400 = year / 400 ∧ (year + 1) / 100 = year / 100 := by omega
    rw [same.1, same.2]
    split <;> omega

theorem dayNumber_eq (d : Date) : d.dayNumber + 719468 =
    marchDay d.marchYear + (daysBeforeMonth d.fromMarch + d.day - 1 : Nat) := by
  have unfolded : d.dayNumber = d.marchYear / 400 * 146097 + (d.marchYear % 400 * 365 +
    d.marchYear % 400 / 4 - d.marchYear % 400 / 100 +
      (daysBeforeMonth d.fromMarch + d.day - 1 : Nat)) - 719468 := rfl
  rw [unfolded]
  unfold marchDay
  omega

/-! ## From days to dates -/

/-- Within a century of an era the guess that takes a year off for every four years is right. -/
theorem yearOfEra_century {doe t y q : Nat} (ht : t = doe / 1460) (hy : y = (doe - t + q) / 365)
    (few : q < 4) (low : 36524 * q ≤ doe)
    (high : doe < 36524 * (q + 1) ∨ q = 3 ∧ doe = 146096) :
    365 * y + y / 4 ≤ doe + y / 100 ∧
      doe + (y + 1) / 100 < 365 * (y + 1) + (y + 1) / 4 + (y + 1) / 400 := by
  have century : y / 100 = q := by omega
  have first : 365 * y + y / 4 ≤ doe + y / 100 := by omega
  refine ⟨first, ?_⟩
  by_cases last : y = 100 * q + 99
  · omega
  · have same : (y + 1) / 100 = q := by omega
    have quarter : t ≤ (y + 1) / 4 := by omega
    have whole : doe + q < 365 * (y + 1) + t := by omega
    omega

/-- The year of an era to which a day of it belongs. -/
def yearOfEra (day : Nat) : Nat := (day - day / 1460 + day / 36524 - day / 146096) / 365

theorem yearOfEra_spec {day : Nat} (h : day < 146097) :
    365 * yearOfEra day + yearOfEra day / 4 ≤ day + yearOfEra day / 100 ∧
      day + (yearOfEra day + 1) / 100 <
        365 * (yearOfEra day + 1) + (yearOfEra day + 1) / 4 + (yearOfEra day + 1) / 400 := by
  refine yearOfEra_century (q := day / 36524 - day / 146096) rfl ?_ ?_ ?_ ?_
  · unfold yearOfEra
    omega
  all_goals omega

theorem yearOfEra_lt {day : Nat} (h : day < 146097) : yearOfEra day < 400 := by
  unfold yearOfEra
  omega

/-- The day of a year from March belongs to the month that is found for it. -/
theorem month_spec {day month : Nat} (h : month = (5 * day + 2) / 153) :
    daysBeforeMonth month ≤ day ∧ day < daysBeforeMonth (month + 1) := by
  unfold daysBeforeMonth
  omega

theorem daysBeforeMonth_mono {a b : Nat} (h : a ≤ b) : daysBeforeMonth a ≤ daysBeforeMonth b := by
  unfold daysBeforeMonth
  omega

/-- The parts of the date of day `n`. -/
structure IsDateOf (n : Int) (d : Date) : Prop where
  month : 1 ≤ d.month ∧ d.month ≤ 12
  day : 1 ≤ d.day
  sum : n + 719468 = marchDay d.marchYear + (daysBeforeMonth d.fromMarch + d.day - 1 : Nat)
  year : n + 719468 < marchDay (d.marchYear + 1)
  next : daysBeforeMonth d.fromMarch + d.day ≤ daysBeforeMonth (d.fromMarch + 1)

/-- The date that is put together from the year and the month, both counted from March. -/
def ofMarch (year : Int) (month day : Nat) : Date :=
  { year := year + if (if month < 10 then month + 3 else month - 9) ≤ 2 then 1 else 0
    month := if month < 10 then month + 3 else month - 9
    day := day }

theorem ofMarch_spec (year : Int) {month : Nat} (day : Nat) (h : month < 12) :
    (ofMarch year month day).marchYear = year ∧ (ofMarch year month day).fromMarch = month ∧
      1 ≤ (ofMarch year month day).month ∧ (ofMarch year month day).month ≤ 12 := by
  unfold ofMarch marchYear fromMarch
  dsimp only
  by_cases late : month < 10
  · rw [if_pos late]
    omega
  · rw [if_neg late]
    omega

theorem ofDayNumber_eq {n era : Int} {day : Nat} (split : n + 719468 = era * 146097 + day)
    (lt : day < 146097) {year rest : Nat} (hy : year = yearOfEra day)
    (hr : rest = day - (365 * year + year / 4 - year / 100)) :
    ofDayNumber n = ofMarch (era * 400 + year) ((5 * rest + 2) / 153)
      (rest - daysBeforeMonth ((5 * rest + 2) / 153) + 1) := by
  have hera : (n + 719468) / 146097 = era := by omega
  have hday : ((n + 719468) % 146097).toNat = day := by omega
  subst hr hy hera hday
  rfl

theorem isDateOf_ofDayNumber (n : Int) : IsDateOf n (ofDayNumber n) := by
  obtain ⟨era, day, split, lt⟩ : ∃ (era : Int) (day : Nat),
      n + 719468 = era * 146097 + day ∧ day < 146097 :=
    ⟨(n + 719468) / 146097, ((n + 719468) % 146097).toNat, by omega, by omega⟩
  obtain ⟨low, high⟩ := yearOfEra_spec lt
  have few := yearOfEra_lt lt
  have date := ofDayNumber_eq split lt rfl rfl
  generalize yearOfEra day = year at *
  have start := marchDay_era era year
  have stop : marchDay (era * 400 + year + 1) = era * 146097 +
      (365 * (year + 1) + (year + 1) / 4 - (year + 1) / 100 + (year + 1) / 400 : Nat) :=
    Int.add_assoc (era * 400) year 1 ▸ marchDay_era era (year + 1)
  have longest := marchDay_succ (era * 400 + year)
  generalize hr : day - (365 * year + year / 4 - year / 100) = rest at date
  have short : rest ≤ 365 := by
    split at longest <;> omega
  obtain ⟨before, after⟩ := month_spec (Eq.refl ((5 * rest + 2) / 153))
  have valid : (5 * rest + 2) / 153 < 12 := by omega
  obtain ⟨hyear, hmonth, one, twelve⟩ :=
    ofMarch_spec (era * 400 + year) (rest - daysBeforeMonth ((5 * rest + 2) / 153) + 1) valid
  rw [← date] at hyear hmonth one twelve
  have hd : (ofDayNumber n).day = rest - daysBeforeMonth ((5 * rest + 2) / 153) + 1 := by
    rw [date]
    rfl
  refine ⟨⟨one, twelve⟩, ?_, ?_, ?_, ?_⟩
  · omega
  · rw [hyear, hmonth, hd, start]
    omega
  · rw [hyear, stop]
    omega
  · rw [hmonth, hd]
    omega

theorem dayNumber_ofDayNumber (n : Int) : (ofDayNumber n).dayNumber = n := by
  have number := dayNumber_eq (ofDayNumber n)
  have sum := (isDateOf_ofDayNumber n).sum
  omega

/-- All months but February are as long as the count from March says. -/
theorem length_month : ∀ month < 13, 1 ≤ month → month ≠ 2 → ∀ year,
    daysBeforeMonth ((month + 9) % 12 + 1) - daysBeforeMonth ((month + 9) % 12) =
      daysInMonth year month := by
  intro month lt pos other year
  unfold daysInMonth
  rw [if_neg other]
  revert month
  decide

theorem IsDateOf.day_le {n : Int} {d : Date} (h : IsDateOf n d) :
    d.day ≤ daysInMonth d.year d.month := by
  by_cases february : d.month = 2
  · have sum := h.sum
    have year := h.year
    rw [marchDay_succ] at year
    have january : d.marchYear + 1 = d.year := by
      unfold marchYear
      omega
    have eleven : d.fromMarch = 11 := by
      unfold fromMarch
      omega
    have before : daysBeforeMonth 11 = 337 := rfl
    rw [january] at year
    rw [eleven, before] at sum
    unfold daysInMonth
    rw [if_pos february]
    -- What is left of the year after its first eleven months is its February.
    split at year
    · next leap =>
      rw [if_pos leap]
      omega
    · next common =>
      rw [if_neg common]
      omega
  · have length := length_month d.month (Nat.lt_succ_of_le h.month.2) h.month.1 february d.year
    have next := h.next
    unfold fromMarch at next
    omega

theorem ext_iff {a b : Date} : a = b ↔ a.year = b.year ∧ a.month = b.month ∧ a.day = b.day :=
  Iff.of_eq (mk.injEq ..)

/-- Whether a date is earlier. -/
def Before (a b : Date) : Prop :=
  a.year < b.year ∨ a.year = b.year ∧ (a.month < b.month ∨ a.month = b.month ∧ a.day < b.day)

theorem before_of_lt {m n : Int} (h : m < n) : (ofDayNumber m).Before (ofDayNumber n) := by
  have a := isDateOf_ofDayNumber m
  have b := isDateOf_ofDayNumber n
  generalize ofDayNumber m = c at *
  generalize ofDayNumber n = d at *
  have years : c.marchYear ≤ d.marchYear := by
    refine Int.not_lt.1 fun later => ?_
    have start := marchDay_mono (Int.add_one_le_of_lt later)
    have here := a.sum
    have stop := b.year
    omega
  have months : c.marchYear = d.marchYear → c.fromMarch ≤ d.fromMarch := by
    intro same
    refine Nat.not_lt.1 fun later => ?_
    have start := daysBeforeMonth_mono (show d.fromMarch + 1 ≤ c.fromMarch from later)
    have first := a.sum
    have second := b.sum
    have stop := b.next
    have day := b.day
    rw [same] at first
    omega
  have days : c.marchYear = d.marchYear → c.fromMarch = d.fromMarch → c.day < d.day := by
    intro same month
    have first := a.sum
    have second := b.sum
    have day := a.day
    rw [same, month] at first
    omega
  have := a.month
  have := b.month
  unfold Before
  unfold marchYear fromMarch at *
  omega

end Uptime.Date
