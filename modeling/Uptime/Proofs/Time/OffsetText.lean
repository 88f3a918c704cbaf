import Uptime.Proofs.Time.StoredText

/-!
# Texts with an offset from UTC

An instant can also be written with the date and the clock of a place east or west of Greenwich and
the offset behind them. Such a text is none of a stored instant, since a `T` stands where a stored
one has its blank (`stored?_offsetText`), and it is read back as the same instant if its decimals
hold all of the fraction (`offsetTime?_offsetText`). So each form is read as what it was written
for, but for leap seconds that do not end a minute (`Instant.read?_written`).
-/

namespace Uptime

open Number (padded ofDigits IsRun isRun_padded length_padded ofDigits_padded padded_ne_nil)

/-- An offset from UTC in hours and minutes. No offset at all is `Z` if that is asked for. -/
def zoneText (minutes : Int) (zulu : Bool) : List Char :=
  if zulu ∧ minutes = 0 then ['Z']
  else (if minutes < 0 then '-' else '+') ::
    (padded 2 (minutes.natAbs / 60) ++ ':' :: padded 2 (minutes.natAbs % 60))

namespace Instant

/-- The instant at which the clocks of Greenwich show what they show now so many minutes east. -/
def shifted (t : Instant) (minutes : Int) : Instant :=
  { t with seconds := t.seconds + minutes * 60 }

/-- Date, `T`, time and decimals as they are so many minutes east of Greenwich, and the offset. -/
def offsetText (t : Instant) (minutes : Int) (places : Nat) (zulu : Bool) : String :=
  let c := (t.shifted minutes).civil
  let fraction := if places = 0 then [] else c.fractionText places
  String.ofList (c.dateText ++ 'T' :: c.clockText ++ fraction ++ zoneText minutes zulu)

/-- Whether so many decimals hold the whole fraction of the second. -/
def HeldBy (t : Instant) (places : Nat) : Prop := Nat.pow 10 (9 - places) ∣ t.nanos

instance (t : Instant) (places : Nat) : Decidable (t.HeldBy places) :=
  inferInstanceAs (Decidable (_ ∣ _))

variable {t : Instant}

theorem shifted_zero (t : Instant) : t.shifted 0 = t := by
  show Instant.mk (t.seconds + 0 * 60) t.nanos = t
  rw [Int.zero_mul, Int.add_zero]

/-- The form with `Z` is the one of Greenwich with the decimals that are needed. -/
theorem zuluText_eq (t : Instant) : t.zuluText = t.offsetText 0 t.civil.places true := by
  rw [offsetText, shifted_zero]
  rfl

/-- The decimals that are needed hold the whole fraction. -/
theorem heldBy_places (t : Instant) : t.HeldBy t.civil.places := by
  have nanos : t.civil.nanos = t.nanos := rfl
  unfold HeldBy Civil.places
  rw [nanos]
  dsimp only
  split
  · next none =>
    show 1000000000 ∣ t.nanos
    omega
  · split
    · show 1000000 ∣ t.nanos
      omega
    · split
      · show 1000 ∣ t.nanos
        omega
      · exact Nat.one_dvd _

/-- Offsets are in whole minutes, so that a leap second is the last of its minute everywhere. -/
theorem Valid.shifted (h : t.Valid) (minutes : Int) : (t.shifted minutes).Valid := by
  unfold Valid at h ⊢
  show t.nanos < 1000000000 ∨ t.nanos < 2000000000 ∧ (t.seconds + minutes * 60) % 60 = 59
  omega

/-- So is a leap second that does not end its minute. -/
theorem settled_shifted (t : Instant) (minutes : Int) :
    (t.shifted minutes).settled = t.settled.shifted minutes := by
  have place : (t.seconds + minutes * 60) % 60 = t.seconds % 60 := by omega
  unfold settled shifted
  simp only [place]
  split
  · exact congrArg (Instant.mk · _) (Int.add_right_comm ..)
  · rfl

/-- Decimals that hold the whole fraction hold it also where a second is taken off. -/
theorem HeldBy.settled {places : Nat} (held : t.HeldBy places) : t.settled.HeldBy places := by
  have second : Nat.pow 10 (9 - places) ∣ 1000000000 := Nat.pow_dvd_pow 10 (Nat.sub_le 9 places)
  unfold Instant.settled
  split
  · exact Nat.dvd_sub held second
  · exact held

theorem toList_offsetText (t : Instant) (minutes : Int) (places : Nat) (zulu : Bool) :
    (t.offsetText minutes places zulu).toList =
      yearText (t.shifted minutes).civil.date.year ++ '-' ::
        (padded 2 (t.shifted minutes).civil.date.month ++ '-' ::
          (padded 2 (t.shifted minutes).civil.date.day ++ 'T' ::
            (padded 2 (t.shifted minutes).civil.hour ++ ':' ::
              (padded 2 (t.shifted minutes).civil.minute ++ ':' ::
                (padded 2 ((t.shifted minutes).civil.second + t.nanos / 1000000000) ++
                  ((if places = 0 then [] else
                    '.' :: padded places (t.nanos % 1000000000 / Nat.pow 10 (9 - places))) ++
                      zoneText minutes zulu)))))) := by
  have nanos : (t.shifted minutes).civil.nanos = t.nanos := rfl
  simp only [offsetText, String.toList_ofList, Civil.dateText, Civil.clockText, Civil.fractionText,
    nanos, List.append_assoc, List.cons_append]

end Instant

namespace TimeReader

/-! ## Reading the parts -/

/-- What follows the decimals is neither a point nor a digit. -/
theorem zoneText_head {minutes : Int} {zulu : Bool} {c : Char}
    (h : (zoneText minutes zulu).head? = some c) : c.isDigit = false ∧ c ≠ '.' := by
  unfold zoneText at h
  split at h
  · cases h
    exact ⟨rfl, by decide⟩
  · split at h <;> cases h <;> exact ⟨rfl, by decide⟩

theorem pow_nine {places : Nat} (le : places ≤ 9) :
    Nat.pow 10 (9 - places) * Nat.pow 10 places = 1000000000 := by
  have sum : 9 - places + places = 9 := by omega
  exact (Nat.pow_add 10 (9 - places) places).symm.trans (congrArg (10 ^ ·) sum)

/-- Decimals that hold the whole fraction give it back; where none are written there is none. -/
theorem fraction?_held {nanos places : Nat} (le : places ≤ 9) (lt : nanos < 1000000000)
    (held : Nat.pow 10 (9 - places) ∣ nanos) {rest : List Char}
    (stop : ∀ c, rest.head? = some c → c.isDigit = false ∧ c ≠ '.') :
    fraction?
        ((if places = 0 then [] else '.' :: padded places (nanos / Nat.pow 10 (9 - places))) ++
          rest) = some (nanos, rest) := by
  have whole : nanos / Nat.pow 10 (9 - places) * Nat.pow 10 (9 - places) = nanos :=
    Nat.div_mul_cancel held
  split
  · next none =>
    have zero : nanos = 0 := by
      rw [none] at held
      exact Nat.eq_zero_of_dvd_of_lt held lt
    rw [List.nil_append, zero]
    unfold fraction?
    split
    · exact absurd rfl (stop _ rfl).2
    · rfl
  · next some =>
    have fits : nanos / Nat.pow 10 (9 - places) < Nat.pow 10 places := by
      refine Nat.div_lt_of_lt_mul ?_
      rw [pow_nine le]
      exact lt
    have read := fraction?_padded (Nat.pos_of_ne_zero some) le fits rest fun c first =>
      (stop c first).1
    rw [whole] at read
    exact read

/-- Hours and minutes of an offset are read behind its sign. -/
theorem offset?_signed {mark : Char} {sign : Int} (plain : mark ≠ 'Z' ∧ mark ≠ 'z')
    (marks : ∀ cs, offsetSign? (mark :: cs) = some (sign, cs)) {hours minutes : Nat}
    (day : hours < 24) (hour : minutes < 60) :
    offset? (mark :: (padded 2 hours ++ ':' :: padded 2 minutes)) =
      some (sign * (hours * 3600 + minutes * 60 : Nat), []) := by
  have hundred : Nat.pow 10 2 = 100 := rfl
  have first : number? 2 2 (padded 2 hours ++ ':' :: padded 2 minutes) =
      some (hours, ':' :: padded 2 minutes) :=
    number?_padded (by decide) (by omega) (Nat.le_refl 2) _
  have last : number? 2 2 (padded 2 minutes ++ []) = some (minutes, []) :=
    number?_padded (by decide) (by omega) (Nat.le_refl 2) []
  rw [List.append_nil] at last
  unfold offset?
  split
  · next eq => exact absurd (List.cons.inj eq).1 plain.1
  · next eq => exact absurd (List.cons.inj eq).1 plain.2
  · simp only [marks, Option.bind_eq_bind, Option.bind_some, first, char?, if_true, last, day, hour,
      decide_true, Bool.and_self]

/-- An offset below a whole day is read back in seconds. -/
theorem offset?_zoneText {minutes : Int} (day : minutes.natAbs < 1440) (zulu : Bool) :
    offset? (zoneText minutes zulu) = some (minutes * 60, []) := by
  have hours : minutes.natAbs / 60 < 24 := by omega
  have rest : minutes.natAbs % 60 < 60 := Nat.mod_lt _ (by decide)
  unfold zoneText
  split
  · next none =>
    rw [none.2]
    rfl
  · split
    · next west =>
      have back : -1 * ((minutes.natAbs / 60 * 3600 + minutes.natAbs % 60 * 60 : Nat) : Int) =
          minutes * 60 := by omega
      rw [offset?_signed (by decide) (fun _ => rfl) hours rest, back]
    · next east =>
      have back : 1 * ((minutes.natAbs / 60 * 3600 + minutes.natAbs % 60 * 60 : Nat) : Int) =
          minutes * 60 := by omega
      rw [offset?_signed (by decide) (fun _ => rfl) hours rest, back]

/-! ## The whole text -/

variable {t : Instant} {minutes : Int}

/-- A stored instant has a blank where a text with an offset has its `T`, and no number begins
with that. -/
theorem stored?_offsetText (minutes : Int) (places : Nat) (zulu : Bool) :
    stored? (t.offsetText minutes places zulu).toList = none := by
  obtain ⟨month, day⟩ := (t.shifted minutes).civil_date_lt
  have letter : ∀ cs, field? (Text.trimStart ('T' :: cs)) = none := fun _ => rfl
  rw [t.toList_offsetText, stored?, year?_yearText]
  simp only [Option.bind_eq_bind, Option.bind_some, char?, if_true, field?_padded month,
    field?_padded day, letter, Option.bind_none]

/-- At an offset the numbers of an instant stand for one that is so much earlier. -/
theorem civil?_offset {t : Instant} (valid : t.Valid)
    (range : Date.firstYear ≤ t.civil.date.year ∧ t.civil.date.year ≤ Date.lastYear)
    (offset : Int) :
    (civil? t.civil.date.year t.civil.date.month t.civil.date.day t.civil.hour t.civil.minute
      (t.civil.second + t.nanos / 1000000000) (t.nanos % 1000000000)).map (·.instant offset) =
        some ⟨t.seconds - offset, t.nanos⟩ := by
  obtain ⟨c, made, here⟩ := Option.map_eq_some_iff.1 (civil?_civil valid range)
  refine Option.map_eq_some_iff.2 ⟨c, made, ?_⟩
  obtain ⟨seconds, nanos⟩ := Instant.mk.inj here
  rw [Civil.instant, nanos, ← seconds, Int.sub_zero]

theorem offsetTime?_offsetText (valid : t.Valid) (offset : minutes.natAbs < 1440)
    (year : 0 ≤ (t.shifted minutes).civil.date.year ∧
      (t.shifted minutes).civil.date.year ≤ 9999) {places : Nat} (le : places ≤ 9)
    (held : t.HeldBy places) (zulu : Bool) :
    offsetTime? (t.offsetText minutes places zulu).toList = some t := by
  obtain ⟨hour, minute, second⟩ := Instant.civil_clock_lt (valid.shifted minutes).representable
  obtain ⟨month, day⟩ := (t.shifted minutes).civil_date_lt
  have first : Date.firstYear = -262143 := rfl
  have last : Date.lastYear = 262142 := rfl
  have years : ∀ rest, number? 4 4 (yearText (t.shifted minutes).civil.date.year ++ rest) =
      some ((t.shifted minutes).civil.date.year.natAbs, rest) := by
    intro rest
    have four : (t.shifted minutes).civil.date.year.natAbs < Nat.pow 10 4 := by
      show _ < 10000
      omega
    rw [yearText, if_pos year]
    exact number?_padded (by decide) four (Nat.le_refl 4) rest
  have positive : ((t.shifted minutes).civil.date.year.natAbs : Int) =
      (t.shifted minutes).civil.date.year := by omega
  have two : ∀ {n : Nat}, n < 100 → ∀ rest, number? 2 2 (padded 2 n ++ rest) = some (n, rest) :=
    fun lt rest => number?_padded (by decide) lt (Nat.le_refl 2) rest
  have behind : ∀ c, (zoneText minutes zulu).head? = some c → c.isDigit = false ∧ c ≠ '.' :=
    fun _ => zoneText_head
  have fraction := fraction?_held le (Nat.mod_lt t.nanos (show 0 < 1000000000 by decide))
    ((Nat.dvd_mod_iff ⟨_, (pow_nine le).symm⟩).2 held) behind
  have shown := civil?_offset (valid.shifted minutes) (by omega) (minutes * 60)
  have back : (t.shifted minutes).seconds - minutes * 60 = t.seconds := Int.add_sub_cancel ..
  rw [back] at shown
  have clock : (t.shifted minutes).civil.second + t.nanos / 1000000000 < 100 :=
    Nat.lt_of_le_of_lt second (by decide)
  rw [t.toList_offsetText, offsetTime?]
  -- The date, the clock, the fraction and the offset, each up to what stands behind it.
  refine Option.bind_eq_some_iff.2 ⟨_, years _, ?_⟩
  refine Option.bind_eq_some_iff.2 ⟨_, rfl, Option.bind_eq_some_iff.2 ⟨_, two month _, ?_⟩⟩
  refine Option.bind_eq_some_iff.2 ⟨_, rfl, Option.bind_eq_some_iff.2 ⟨_, two day _, ?_⟩⟩
  refine Option.bind_eq_some_iff.2 ⟨_, rfl, Option.bind_eq_some_iff.2 ⟨_, two (by omega) _, ?_⟩⟩
  refine Option.bind_eq_some_iff.2 ⟨_, rfl, Option.bind_eq_some_iff.2 ⟨_, two (by omega) _, ?_⟩⟩
  refine Option.bind_eq_some_iff.2 ⟨_, rfl, Option.bind_eq_some_iff.2 ⟨_, two clock _, ?_⟩⟩
  refine Option.bind_eq_some_iff.2 ⟨_, fraction, ?_⟩
  refine Option.bind_eq_some_iff.2 ⟨_, offset?_zoneText offset zulu, ?_⟩
  rw [← positive] at shown
  exact shown

end TimeReader

namespace Instant

variable {t : Instant} {minutes : Int}

theorem offsetText_settled (h : t.Representable) (minutes : Int) (places : Nat) (zulu : Bool) :
    t.settled.offsetText minutes places zulu = t.offsetText minutes places zulu := by
  have there : (t.shifted minutes).Representable := h
  obtain ⟨date, hour, minute, second, nanos⟩ := civil_settled there
  rw [settled_shifted] at date hour minute second nanos
  have second : (t.settled.shifted minutes).civil.second + t.settled.nanos / 1000000000 =
      (t.shifted minutes).civil.second + t.nanos / 1000000000 := second
  have nanos : t.settled.nanos % 1000000000 = t.nanos % 1000000000 := nanos
  rw [← String.toList_inj, toList_offsetText, toList_offsetText, date, hour, minute, second, nanos]

theorem read?_offsetText (h : t.Representable) (offset : minutes.natAbs < 1440)
    (year : 0 ≤ (t.shifted minutes).civil.date.year ∧
      (t.shifted minutes).civil.date.year ≤ 9999) {places : Nat} (le : places ≤ 9)
    (held : t.HeldBy places) (zulu : Bool) :
    read? (t.offsetText minutes places zulu) = some t.settled := by
  have there : (t.shifted minutes).Representable := h
  have year := (civil_settled there).1 ▸ year
  rw [settled_shifted] at year
  rw [← offsetText_settled h, read?, TimeReader.stored?_offsetText,
    TimeReader.offsetTime?_offsetText h.valid_settled offset year le held.settled]
  rfl

/-- The time of a record is read back from the form in which records are shown. -/
theorem Storable.read?_zuluText (h : t.Storable) : read? t.zuluText = some t.settled := by
  have le : t.civil.places ≤ 9 := by
    unfold Civil.places
    dsimp only
    split
    · decide
    · split
      · decide
      · split <;> decide
  have here : t.shifted 0 = t := t.shifted_zero
  rw [zuluText_eq]
  exact read?_offsetText h.representable (by decide) (here.symm ▸ h.year) le t.heldBy_places true

/-- What is written of an instant is read back as what it tells, in both forms: as it is stored, in
every year that can be represented, and with an offset in whole minutes below a day, where the date
there has a year of four digits and the decimals hold the whole fraction. That is the instant itself
unless it lies in a leap second that does not end a minute, and then the same fraction of the next
second. -/
theorem read?_written (h : t.Representable) :
    (Date.firstYear ≤ t.civil.date.year ∧ t.civil.date.year ≤ Date.lastYear →
      read? t.text = some t.settled) ∧
    (∀ minutes : Int, minutes.natAbs < 1440 →
      0 ≤ (t.shifted minutes).civil.date.year ∧ (t.shifted minutes).civil.date.year ≤ 9999 →
      ∀ places ≤ 9, t.HeldBy places → ∀ zulu,
        read? (t.offsetText minutes places zulu) = some t.settled) ∧
    (t.settled = t ↔ t.nanos < 1000000000 ∨ t.seconds % 60 = 59) := by
  refine ⟨fun range => read?_text h range, fun minutes offset year places le held zulu => ?_, ?_⟩
  · exact read?_offsetText h offset year le held zulu
  · rw [settled_eq_iff h, Valid]
    exact or_congr_right (and_iff_right h)

/-- Half a second into the leap second at the end of 2016, read back from its stored text and from
the text with the offset of the Marquesas; and a leap second in the first minute of all. -/
theorem read?_written_leap :
    read? (Instant.text ⟨1483228799, 1500000000⟩) = some ⟨1483228799, 1500000000⟩ ∧
      offsetText ⟨1483228799, 1500000000⟩ (-570) 3 false = "2016-12-31T14:29:60.500-09:30" ∧
      read? (offsetText ⟨1483228799, 1500000000⟩ (-570) 3 false) =
        some ⟨1483228799, 1500000000⟩ ∧
      read? (Instant.text ⟨-8334601228741, 1000000001⟩) = some ⟨-8334601228741, 1000000001⟩ := by
  have leap : Representable ⟨1483228799, 1500000000⟩ := by decide
  have first : Representable ⟨-8334601228741, 1000000001⟩ := by decide
  obtain ⟨stored, offset, same⟩ := read?_written leap
  obtain ⟨firstStored, -, firstSame⟩ := read?_written first
  rw [same.2 (.inr rfl)] at stored offset
  rw [firstSame.2 (.inr rfl)] at firstStored
  refine ⟨stored (by decide), ?_, ?_, firstStored (by decide)⟩
  · decide +kernel
  · exact offset (-570) (by decide) (by decide) 3 (by decide) (by decide) false

/-- Not every instant is read back as it was: this one has a leap second in the middle of a minute,
and its text is that of the second after it. -/
theorem leap_not_kept : ¬∀ t : Instant, t.Representable →
    Date.firstYear ≤ t.civil.date.year ∧ t.civil.date.year ≤ Date.lastYear →
    read? t.text = some t := by
  intro kept
  have written : Instant.text ⟨30, 1500000000⟩ = Instant.text ⟨31, 500000000⟩ := by decide +kernel
  have stray := kept ⟨30, 1500000000⟩ (by decide) (by decide)
  rw [written, kept ⟨31, 500000000⟩ (by decide) (by decide)] at stray
  cases stray

end Instant

end Uptime
