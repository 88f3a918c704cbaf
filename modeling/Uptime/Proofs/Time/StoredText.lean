import Uptime.Proofs.Number.Padded
import Uptime.Proofs.Time.Calendar
import Uptime.Time.Text

/-!
# The stored text of an instant

The text under which an instant is stored keeps all of it: it sorts like the instant in the years
that have four digits (`text_lt_iff`), and it is read back as the same instant in every year that
can be represented (`read?_text`). Leap seconds at the end of a minute are no exception. One after
another second is written like the second that follows, and that is what it counts as from then on
(`settled`).
-/

namespace Uptime

open Number (padded ofDigits IsRun isRun_padded length_padded ofDigits_padded padded_lex_iff
  padded_ne_nil)

namespace Instant

/-- The nanoseconds stay within two seconds, the second of which is a leap second. -/
def Representable (t : Instant) : Prop := t.nanos < 2000000000

instance (t : Instant) : Decidable t.Representable := inferInstanceAs (Decidable (_ < _))

/-- The nanoseconds stay within the second, or within two in the last second of a minute, which a
leap second may follow. -/
def Valid (t : Instant) : Prop :=
  t.nanos < 1000000000 ∨ t.nanos < 2000000000 ∧ t.seconds % 60 = 59

/-- What the texts of an instant tell. A leap second that does not end a minute is written like the
second after it. -/
def settled (t : Instant) : Instant :=
  if 1000000000 ≤ t.nanos ∧ t.seconds % 60 ≠ 59 then ⟨t.seconds + 1, t.nanos - 1000000000⟩ else t

/-- Whether an instant is earlier; a leap second is later than the whole second in front of it. -/
def Before (a b : Instant) : Prop :=
  a.seconds < b.seconds ∨ a.seconds = b.seconds ∧ a.nanos < b.nanos

instance (a b : Instant) : Decidable (a.Before b) := inferInstanceAs (Decidable (_ ∨ _))

/-- An instant of the years whose texts sort like them. -/
structure Storable (t : Instant) : Prop where
  representable : t.Representable
  year : 0 ≤ t.civil.date.year ∧ t.civil.date.year ≤ 9999

variable {a b t : Instant}

theorem toList_text (t : Instant) : t.text.toList =
    yearText t.civil.date.year ++ '-' :: (padded 2 t.civil.date.month ++ '-' ::
      (padded 2 t.civil.date.day ++ ' ' :: (padded 2 t.civil.hour ++ ':' ::
        (padded 2 t.civil.minute ++ ':' :: (padded 2 (t.civil.second + t.nanos / 1000000000) ++
          '.' :: (padded 9 (t.nanos % 1000000000) ++ [])))))) := by
  have places : t.nanos % 1000000000 / Nat.pow 10 (9 - 9) = t.nanos % 1000000000 := Nat.div_one _
  have nanos : t.civil.nanos = t.nanos := rfl
  simp only [text, String.toList_ofList, Civil.dateText, Civil.clockText, Civil.fractionText,
    nanos, places, List.append_assoc, List.cons_append, List.append_nil]

theorem secondOfDay_lt (t : Instant) : t.secondOfDay.toNat < 86400 := by
  unfold secondOfDay
  omega

theorem Valid.representable (h : t.Valid) : t.Representable := by
  unfold Valid at h
  unfold Representable
  omega

theorem civil_clock_lt (h : t.Representable) : t.civil.hour < 24 ∧ t.civil.minute < 60 ∧
    t.civil.second + t.nanos / 1000000000 ≤ 60 := by
  have day := t.secondOfDay_lt
  unfold Representable at h
  show t.secondOfDay.toNat / 3600 < 24 ∧ t.secondOfDay.toNat / 60 % 60 < 60 ∧
    t.secondOfDay.toNat % 60 + t.nanos / 1000000000 ≤ 60
  unfold secondOfDay at *
  omega

theorem civil_date_lt (t : Instant) : t.civil.date.month < 100 ∧ t.civil.date.day < 100 := by
  have parts := Date.isDateOf_ofDayNumber t.day
  have short := parts.day_le
  have month := parts.month.2
  have days : ∀ year month, Date.daysInMonth year month ≤ 31 := by
    intro year month
    unfold Date.daysInMonth
    split
    · split <;> omega
    · split <;> omega
  have most := days (Date.ofDayNumber t.day).year (Date.ofDayNumber t.day).month
  show (Date.ofDayNumber t.day).month < 100 ∧ (Date.ofDayNumber t.day).day < 100
  omega

/-! ## Leap seconds -/

/-- Only a leap second that does not end a minute is told as something else. -/
theorem settled_eq_iff (h : t.Representable) : t.settled = t ↔ t.Valid := by
  unfold Representable at h
  unfold Valid settled
  split
  · next stray =>
    refine iff_of_false (fun same => ?_) (by omega)
    have seconds : t.seconds + 1 = t.seconds := congrArg Instant.seconds same
    omega
  · next plain => exact iff_of_true rfl (by omega)

theorem Representable.valid_settled (h : t.Representable) : t.settled.Valid := by
  unfold Representable at h
  unfold Valid settled
  split
  · exact .inl (show t.nanos - 1000000000 < 1000000000 by omega)
  · omega

/-- The day and the clock are the same after all, since the minute goes on. -/
theorem civil_settled (h : t.Representable) : t.settled.civil.date = t.civil.date ∧
    t.settled.civil.hour = t.civil.hour ∧ t.settled.civil.minute = t.civil.minute ∧
    t.settled.civil.second + t.settled.nanos / 1000000000 =
      t.civil.second + t.nanos / 1000000000 ∧
    t.settled.nanos % 1000000000 = t.nanos % 1000000000 := by
  unfold Representable at h
  unfold settled
  split
  · next stray =>
    have day : (t.seconds + 1) / 86400 = t.seconds / 86400 := by omega
    have clock : ((t.seconds + 1) % 86400).toNat = (t.seconds % 86400).toNat + 1 := by omega
    have minute : (t.seconds % 86400).toNat % 60 ≠ 59 := by omega
    refine ⟨congrArg Date.ofDayNumber day, ?_, ?_, ?_, ?_⟩
    · show ((t.seconds + 1) % 86400).toNat / 3600 = (t.seconds % 86400).toNat / 3600
      omega
    · show ((t.seconds + 1) % 86400).toNat / 60 % 60 = (t.seconds % 86400).toNat / 60 % 60
      omega
    · show ((t.seconds + 1) % 86400).toNat % 60 + (t.nanos - 1000000000) / 1000000000 =
        (t.seconds % 86400).toNat % 60 + t.nanos / 1000000000
      omega
    · show (t.nanos - 1000000000) % 1000000000 = t.nanos % 1000000000
      omega
  · exact ⟨rfl, rfl, rfl, rfl, rfl⟩

theorem text_settled (h : t.Representable) : t.settled.text = t.text := by
  obtain ⟨date, hour, minute, second, nanos⟩ := civil_settled h
  rw [← String.toList_inj, toList_text, toList_text, date, hour, minute, second, nanos]

theorem Storable.settled (h : t.Storable) : t.settled.Storable where
  representable := h.representable.valid_settled.representable
  year := (civil_settled h.representable).1 ▸ h.year

/-! ## Order -/

theorem lex_cons_iff {c : Char} {as bs : List Char} :
    List.Lex (· < ·) (c :: as) (c :: bs) ↔ List.Lex (· < ·) as bs := by
  rw [List.cons_lex_cons_iff]
  exact (or_iff_right (Char.lt_irrefl c)).trans (and_iff_right rfl)

/-- A number is compared by its quotients first and then by its remainders. -/
theorem sixty_lex_iff (m n : Nat) (p : Prop) :
    m / 60 < n / 60 ∨ m / 60 = n / 60 ∧ (m % 60 < n % 60 ∨ m % 60 = n % 60 ∧ p) ↔
      m < n ∨ m = n ∧ p := by
  have lt : m < n ↔ m / 60 < n / 60 ∨ m / 60 = n / 60 ∧ m % 60 < n % 60 := by omega
  have eq : m = n ↔ m / 60 = n / 60 ∧ m % 60 = n % 60 := by omega
  rw [lt, eq, and_assoc, or_assoc, ← and_or_left]

/-- Whether the clock at an instant shows less, from the hours down to the fraction. -/
def ClockBefore (a b : Instant) : Prop :=
  a.civil.hour < b.civil.hour ∨ a.civil.hour = b.civil.hour ∧
    (a.civil.minute < b.civil.minute ∨ a.civil.minute = b.civil.minute ∧
      (a.civil.second + a.nanos / 1000000000 < b.civil.second + b.nanos / 1000000000 ∨
        a.civil.second + a.nanos / 1000000000 = b.civil.second + b.nanos / 1000000000 ∧
          a.nanos % 1000000000 < b.nanos % 1000000000))

/-- On one day the earlier instant is the one whose clock shows less. -/
theorem clockBefore_iff (ha : a.Valid) (hb : b.Valid) (same : a.day = b.day) :
    a.ClockBefore b ↔ a.Before b := by
  have hour : ∀ t : Instant, t.civil.hour = t.secondOfDay.toNat / 60 / 60 := fun t => by
    show t.secondOfDay.toNat / 3600 = _
    omega
  have minute : ∀ t : Instant, t.civil.minute = t.secondOfDay.toNat / 60 % 60 := fun _ => rfl
  have second : ∀ t : Instant, t.civil.second = t.secondOfDay.toNat % 60 := fun _ => rfl
  unfold ClockBefore
  rw [hour, hour, minute, minute, sixty_lex_iff, second, second]
  unfold Valid at ha hb
  unfold Before
  unfold day at same
  unfold secondOfDay
  omega

theorem before_of_day_lt (lt : a.day < b.day) : a.Before b ∧ ¬b.Before a := by
  unfold day at lt
  unfold Before
  omega

/-- Texts are compared by their dates first and then by their clocks. -/
theorem text_lt_iff_civil (ha : a.Storable) (hb : b.Storable) : a.text < b.text ↔
    a.civil.date.Before b.civil.date ∨ a.civil.date = b.civil.date ∧ a.ClockBefore b := by
  have lex : a.text < b.text ↔ List.Lex (· < ·) a.text.toList b.text.toList := Iff.rfl
  have year : ∀ {t : Instant}, t.Storable →
      yearText t.civil.date.year = padded 4 t.civil.date.year.natAbs := fun h => if_pos h.year
  have ha1 := civil_clock_lt ha.representable
  have hb1 := civil_clock_lt hb.representable
  have ha2 := a.civil_date_lt
  have hb2 := b.civil_date_lt
  have ha3 := ha.year
  have hb3 := hb.year
  have four : Nat.pow 10 4 = 10000 := rfl
  have two : Nat.pow 10 2 = 100 := rfl
  have nine : Nat.pow 10 9 = 1000000000 := rfl
  have none : ¬List.Lex (· < ·) ([] : List Char) [] := nofun
  rw [lex, toList_text, toList_text, year ha, year hb,
    padded_lex_iff (by decide) (by omega) (by omega), lex_cons_iff,
    padded_lex_iff (by decide) (by omega) (by omega), lex_cons_iff,
    padded_lex_iff (by decide) (by omega) (by omega), lex_cons_iff,
    padded_lex_iff (by decide) (by omega) (by omega), lex_cons_iff,
    padded_lex_iff (by decide) (by omega) (by omega), lex_cons_iff,
    padded_lex_iff (by decide) (by omega) (by omega), lex_cons_iff,
    padded_lex_iff (by decide) (by omega) (by omega), iff_false_intro none, and_false, or_false]
  have lt : a.civil.date.year.natAbs < b.civil.date.year.natAbs ↔
      a.civil.date.year < b.civil.date.year := by omega
  have eq : a.civil.date.year.natAbs = b.civil.date.year.natAbs ↔
      a.civil.date.year = b.civil.date.year := by omega
  rw [lt, eq, Date.Before, Date.ext_iff, ClockBefore]
  simp only [and_or_left, and_assoc, or_assoc]

/-- The texts of two instants sort like what they tell. -/
theorem text_lt_iff (ha : a.Storable) (hb : b.Storable) :
    a.text < b.text ↔ a.settled.Before b.settled := by
  rw [← text_settled ha.representable, ← text_settled hb.representable,
    text_lt_iff_civil ha.settled hb.settled]
  have validA := ha.representable.valid_settled
  have validB := hb.representable.valid_settled
  generalize a.settled = a at *
  generalize b.settled = b at *
  -- Dates decide unless both instants lie on one day.
  rcases Int.lt_trichotomy a.day b.day with lt | same | gt
  · exact iff_of_true (.inl (Date.before_of_lt lt)) (before_of_day_lt lt).1
  · have date : a.civil.date = b.civil.date := congrArg Date.ofDayNumber same
    have level : ¬b.civil.date.Before b.civil.date := by
      unfold Date.Before
      omega
    rw [date, clockBefore_iff validA validB same, or_iff_right level, and_iff_right rfl]
  · have before : b.civil.date.Before a.civil.date := Date.before_of_lt gt
    refine iff_of_false ?_ (before_of_day_lt gt).2
    rw [Date.ext_iff]
    unfold Date.Before at *
    omega

end Instant

/-! ## Reading back -/

namespace TimeReader

theorem isBlank_of_isDigit {c : Char} (h : c.isDigit = true) : Text.isBlank c = false := by
  have range := Number.toNat_of_isDigit h
  simp [Text.isBlank]
  omega

theorem trimStart_run {xs : List Char} (rest : List Char) (hx : IsRun xs) (some : xs ≠ []) :
    Text.trimStart (xs ++ rest) = xs ++ rest := by
  obtain ⟨c, cs, rfl⟩ := List.exists_cons_of_ne_nil some
  have digit := isBlank_of_isDigit (hx c List.mem_cons_self)
  rw [Text.trimStart, List.cons_append, List.dropWhile_cons_of_neg (by simp [digit])]

/-- A run of digits is read if what may still follow of the number is no digit. -/
theorem number?_run {least most : Nat} {xs rest : List Char} (hx : IsRun xs)
    (enough : least ≤ xs.length) (within : xs.length ≤ most)
    (stop : ∀ c, (rest.take (most - xs.length)).head? = some c → c.isDigit = false) :
    number? least most (xs ++ rest) = some (ofDigits xs, rest) := by
  have found : ((xs ++ rest).take most).takeWhile Char.isDigit = xs := by
    rw [List.take_append, List.take_of_length_le within]
    exact congrArg Prod.fst (Number.spanDigits_append hx stop)
  unfold number?
  simp only [found, if_neg (Nat.not_lt.2 enough), List.drop_left]

theorem number?_padded {width n : Nat} (pos : 0 < width) (lt : n < Nat.pow 10 width) {least : Nat}
    (enough : least ≤ width) (rest : List Char) :
    number? least width (padded width n ++ rest) = some (n, rest) := by
  have length := length_padded pos lt
  rw [number?_run (isRun_padded width n) (by omega) (by omega) (by simp [length]), ofDigits_padded]

theorem number1?_padded (width n : Nat) (rest : List Char)
    (stop : ∀ c, rest.head? = some c → c.isDigit = false) :
    number1? (padded width n ++ rest) = some (n, rest) := by
  have some := List.length_pos_iff.2 (padded_ne_nil width n)
  rw [number1?, number?_run (isRun_padded width n) some (by simp) ?_, ofDigits_padded]
  intro c first
  refine stop c ?_
  cases rest with
  | nil => simp at first
  | cons d rest => simpa [List.take_cons] using first

theorem field?_padded {n : Nat} (lt : n < 100) (rest : List Char) :
    field? (padded 2 n ++ rest) = some (n, rest) := by
  rw [field?, trimStart_run rest (isRun_padded 2 n) (padded_ne_nil 2 n),
    number?_padded (by decide) lt (by decide)]

theorem not_sign_padded {width n : Nat} {rest cs : List Char} {c : Char}
    (h : padded width n ++ rest = c :: cs) : c.isDigit = true := by
  obtain ⟨d, ds, shape⟩ := List.exists_cons_of_ne_nil (padded_ne_nil width n)
  refine isRun_padded width n c ?_
  rw [shape] at h ⊢
  rw [(List.cons.inj h).1]
  exact List.mem_cons_self

/-- A year is read back whatever its sign, in front of a dash. -/
theorem year?_yearText (year : Int) (rest : List Char) :
    year? (yearText year ++ '-' :: rest) = some (year, '-' :: rest) := by
  have stop : ∀ c, ('-' :: rest).head? = some c → c.isDigit = false := by
    rintro c ⟨⟩
    rfl
  unfold yearText
  split
  · next four =>
    have lt : year.natAbs < Nat.pow 10 4 := by
      show year.natAbs < 10000
      omega
    unfold year?
    rw [trimStart_run _ (isRun_padded 4 year.natAbs) (padded_ne_nil 4 _)]
    split
    · next eq => exact absurd (not_sign_padded eq) (by decide)
    · next eq => exact absurd (not_sign_padded eq) (by decide)
    · have back : (year.natAbs : Int) = year := by omega
      rw [number?_padded (by decide) lt (by decide), Option.map_some, back]
  · by_cases neg : year < 0
    · have back : -(year.natAbs : Int) = year := by omega
      rw [if_pos neg]
      show (number1? (padded 4 year.natAbs ++ '-' :: rest)).map _ = _
      rw [number1?_padded _ _ _ stop, Option.map_some, back]
    · have back : (year.natAbs : Int) = year := by omega
      rw [if_neg neg]
      show (number1? (padded 4 year.natAbs ++ '-' :: rest)).map _ = _
      rw [number1?_padded _ _ _ stop, Option.map_some, back]

/-- Decimals are read in nanoseconds if what follows them is no digit. -/
theorem fraction?_padded {places n : Nat} (pos : 0 < places) (le : places ≤ 9)
    (lt : n < Nat.pow 10 places) (rest : List Char)
    (stop : ∀ c, rest.head? = some c → c.isDigit = false) :
    fraction? ('.' :: (padded places n ++ rest)) =
      some (n * Nat.pow 10 (9 - places), rest) := by
  have length : (padded places n).length = places := length_padded pos lt
  have all : (padded places n ++ rest).takeWhile Char.isDigit = padded places n :=
    congrArg Prod.fst (Number.spanDigits_append (isRun_padded places n) stop)
  have kept : (padded places n).take 9 = padded places n :=
    List.take_of_length_le (by omega)
  have left : (padded places n ++ rest).drop places = rest := List.drop_left' length
  show decimals? (padded places n ++ rest) = _
  unfold decimals?
  simp only [all, kept, length, left, ofDigits_padded, List.isEmpty_iff,
    if_neg (padded_ne_nil places n)]

/-- The numbers that an instant is written with stand for it. -/
theorem civil?_civil {t : Instant} (valid : t.Valid)
    (range : Date.firstYear ≤ t.civil.date.year ∧ t.civil.date.year ≤ Date.lastYear) :
    (civil? t.civil.date.year t.civil.date.month t.civil.date.day t.civil.hour t.civil.minute
      (t.civil.second + t.nanos / 1000000000) (t.nanos % 1000000000)).map (·.instant 0) =
        some t := by
  have parts := Date.isDateOf_ofDayNumber t.day
  have date : t.civil.date.isValid = true := by
    have month : 1 ≤ t.civil.date.month ∧ t.civil.date.month ≤ 12 := parts.month
    have one : 1 ≤ t.civil.date.day := parts.day
    have short : t.civil.date.day ≤ Date.daysInMonth t.civil.date.year t.civil.date.month :=
      parts.day_le
    simp only [Date.isValid, range.1, range.2, month.1, month.2, one, short, decide_true,
      Bool.and_self]
  obtain ⟨hour, minute, second⟩ := Instant.civil_clock_lt valid.representable
  have number : t.civil.date.dayNumber = t.day := Date.dayNumber_ofDayNumber t.day
  have clock : t.civil.hour * 3600 + t.civil.minute * 60 + t.civil.second =
      t.secondOfDay.toNat := by
    show t.secondOfDay.toNat / 3600 * 3600 + t.secondOfDay.toNat / 60 % 60 * 60 +
      t.secondOfDay.toNat % 60 = _
    omega
  have whole : t.day * 86400 + t.secondOfDay.toNat = t.seconds := by
    unfold Instant.day Instant.secondOfDay
    omega
  have leap : min (t.civil.second + t.nanos / 1000000000) 59 = t.civil.second ∧
      t.nanos % 1000000000 +
        (if t.civil.second + t.nanos / 1000000000 = 60 then 1000000000 else 0) = t.nanos := by
    have base : t.civil.second = t.secondOfDay.toNat % 60 := rfl
    unfold Instant.Valid at valid
    unfold Instant.secondOfDay at base
    split <;> omega
  unfold civil?
  simp only [date, hour, minute, second, decide_true, Bool.and_self, if_true, leap.1, leap.2,
    Option.map_some, Civil.instant, clock, number, whole]
  simp

theorem stored?_text {t : Instant} (valid : t.Valid)
    (range : Date.firstYear ≤ t.civil.date.year ∧ t.civil.date.year ≤ Date.lastYear) :
    stored? t.text.toList = some t := by
  obtain ⟨hour, minute, second⟩ := Instant.civil_clock_lt valid.representable
  obtain ⟨month, day⟩ := t.civil_date_lt
  have fraction : fraction? ('.' :: (padded 9 (t.nanos % 1000000000) ++ [])) =
      some (t.nanos % 1000000000, []) := by
    rw [fraction?_padded (by decide) (Nat.le_refl 9) (Nat.mod_lt _ (by decide)) [] nofun]
    rw [Nat.sub_self]
    exact congrArg (fun n => some (n, [])) (Nat.mul_one _)
  -- The blank between date and time is skipped in front of the hours.
  have hours : ∀ rest, field? (Text.trimStart (' ' :: (padded 2 t.civil.hour ++ rest))) =
      some (t.civil.hour, rest) := by
    intro rest
    have blank : ∀ cs, Text.trimStart (' ' :: cs) = Text.trimStart cs := fun _ => rfl
    rw [blank, trimStart_run _ (isRun_padded 2 _) (padded_ne_nil 2 _), field?_padded (by omega)]
  rw [t.toList_text, stored?, year?_yearText]
  simp only [Option.bind_eq_bind, Option.bind_some, char?, if_true, field?_padded month,
    field?_padded day, hours, field?_padded (by omega : t.civil.minute < 100),
    field?_padded (by omega : t.civil.second + t.nanos / 1000000000 < 100),
    fraction, List.isEmpty_nil, civil?_civil valid range]

end TimeReader

/-- What is stored of an instant is read back as what it tells. -/
theorem Instant.read?_text {t : Instant} (h : t.Representable)
    (range : Date.firstYear ≤ t.civil.date.year ∧ t.civil.date.year ≤ Date.lastYear) :
    Instant.read? t.text = some t.settled := by
  have here := (civil_settled h).1 ▸ range
  rw [← text_settled h, Instant.read?, TimeReader.stored?_text h.valid_settled here]
  rfl

theorem Instant.Storable.read?_text {t : Instant} (h : t.Storable) :
    Instant.read? t.text = some t.settled := by
  have first : Date.firstYear = -262143 := rfl
  have last : Date.lastYear = 262142 := rfl
  have year := h.year
  exact Instant.read?_text h.representable (by omega)

end Uptime
