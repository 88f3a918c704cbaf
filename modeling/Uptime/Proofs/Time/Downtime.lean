import Uptime.Proofs.Time.StoredText
import Uptime.Status

/-!
# The text about a downtime

The text about a downtime gives a whole number of one unit, and only one number of one unit can be
read off it (`downtimeOf_inj`). The unit is the largest that goes into the time, and the number is
how often it does (`tells_inLargestUnit`). Of two times the longer one is never told as less, even
where the units differ (`Tells.mono`), and without leap seconds the time grows with the instant that
it is taken at (`nanosSince_le`).
-/

namespace Uptime

namespace Duration

/-! ## Numbers of a unit -/

/-- How many of a unit make up the next larger one. -/
def Unit.limit? : Unit → Option Nat
  | .hours => none
  | .minutes | .seconds => some 60
  | .milliseconds => some 1000

/-- A duration is told as the whole number of the largest unit that goes into it, or of milliseconds
if none does. -/
structure Tells (d : Duration) (n : Nat) (u : Unit) : Prop where
  reached : n * u.nanoseconds ≤ d.nanoseconds
  notPassed : d.nanoseconds < (n + 1) * u.nanoseconds
  once : u ≠ .milliseconds → 1 ≤ n
  /-- As many as make up the next larger unit are told in that unit. -/
  below : ∀ limit, u.limit? = some limit → n < limit

theorem Unit.nanoseconds_pos (u : Unit) : 0 < u.nanoseconds := by
  cases u <;> decide

/-- Milliseconds are the smallest unit. -/
theorem Unit.ne_milliseconds {u v : Unit} (lt : u.nanoseconds < v.nanoseconds) :
    v ≠ .milliseconds := by
  rintro rfl
  cases u <;> simp [nanoseconds] at lt

/-- Fewer than the limit of a unit stay below every larger unit. -/
theorem Unit.limit_le {u v : Unit} (lt : u.nanoseconds < v.nanoseconds) :
    ∃ limit, u.limit? = some limit ∧ limit * u.nanoseconds ≤ v.nanoseconds := by
  cases u <;> cases v <;> simp [limit?, nanoseconds] at lt ⊢

/-- The largest unit goes into the duration, and the next larger one does not. -/
theorem largestUnit_fits (d : Duration) :
    (d.largestUnit ≠ .milliseconds → d.largestUnit.nanoseconds ≤ d.nanoseconds) ∧
      ∀ limit, d.largestUnit.limit? = some limit →
        d.nanoseconds < limit * d.largestUnit.nanoseconds := by
  unfold largestUnit seconds
  split
  · refine ⟨fun _ => ?_, nofun⟩
    show 3600000000000 ≤ d.nanoseconds
    omega
  · split
    · refine ⟨fun _ => ?_, ?_⟩
      · show 60000000000 ≤ d.nanoseconds
        omega
      · rintro limit ⟨⟩
        show d.nanoseconds < 60 * 60000000000
        omega
    · split
      · refine ⟨fun _ => ?_, ?_⟩
        · show 1000000000 ≤ d.nanoseconds
          omega
        · rintro limit ⟨⟩
          show d.nanoseconds < 60 * 1000000000
          omega
      · refine ⟨fun same => absurd rfl same, ?_⟩
        rintro limit ⟨⟩
        show d.nanoseconds < 1000 * 1000000
        omega

theorem tells_inLargestUnit (d : Duration) : d.Tells d.inLargestUnit d.largestUnit := by
  have unit := d.largestUnit.nanoseconds_pos
  obtain ⟨fits, larger⟩ := d.largestUnit_fits
  constructor
  case reached => exact Nat.div_mul_le_self ..
  case notPassed => exact Nat.lt_mul_of_div_lt (Nat.lt_succ_self _) unit
  case once =>
    intro large
    exact Nat.div_pos (fits large) unit
  case below =>
    intro limit next
    exact Nat.div_lt_of_lt_mul (Nat.mul_comm .. ▸ larger limit next)

/-- Of two durations the longer one is not told as less. -/
theorem Tells.mono {d e : Duration} {n m : Nat} {u v : Unit} (hd : d.Tells n u) (he : e.Tells m v)
    (le : d ≤ e) : n * u.nanoseconds ≤ m * v.nanoseconds := by
  have le : d.nanoseconds ≤ e.nanoseconds := le
  have reached := hd.reached
  have notPassed := he.notPassed
  rcases Nat.lt_trichotomy u.nanoseconds v.nanoseconds with smaller | same | larger
  · -- What is told in the smaller unit has not reached the larger one.
    obtain ⟨limit, next, whole⟩ := Unit.limit_le smaller
    calc n * u.nanoseconds ≤ limit * u.nanoseconds :=
          Nat.mul_le_mul_right _ (Nat.le_of_lt (hd.below limit next))
      _ ≤ v.nanoseconds := whole
      _ ≤ m * v.nanoseconds := Nat.le_mul_of_pos_left _ (he.once (Unit.ne_milliseconds smaller))
  · rw [← same] at notPassed ⊢
    have lt : n * u.nanoseconds < (m + 1) * u.nanoseconds := by omega
    exact Nat.mul_le_mul_right _ (Nat.le_of_lt_succ (Nat.lt_of_mul_lt_mul_right lt))
  · obtain ⟨limit, next, whole⟩ := Unit.limit_le larger
    have some : u.nanoseconds ≤ n * u.nanoseconds :=
      Nat.le_mul_of_pos_left _ (hd.once (Unit.ne_milliseconds larger))
    have few : (m + 1) * v.nanoseconds ≤ limit * v.nanoseconds :=
      Nat.mul_le_mul_right _ (he.below limit next)
    omega

end Duration

/-! ## The time that has elapsed -/

namespace Instant

variable {since now later : Instant}

/-- Between instants that lie in no leap second seconds and nanoseconds simply count. -/
theorem nanosSince_of_ordinary (hs : since.isLeap = false) (hn : now.isLeap = false) :
    now.nanosSince since =
      (now.seconds * 1000000000 + now.nanos) - (since.seconds * 1000000000 + since.nanos) := by
  have hs : ¬1000000000 ≤ since.nanos := of_decide_eq_false hs
  have hn : ¬1000000000 ≤ now.nanos := of_decide_eq_false hn
  unfold nanosSince
  simp only [if_neg hs, if_neg hn, ite_self]
  omega

theorem nanosSince_le (hs : since.isLeap = false) (hn : now.isLeap = false)
    (hl : later.isLeap = false) (before : now.Before later) :
    now.nanosSince since ≤ later.nanosSince since := by
  rw [nanosSince_of_ordinary hs hn, nanosSince_of_ordinary hs hl]
  have within : ¬1000000000 ≤ now.nanos := of_decide_eq_false hn
  rcases before with earlier | ⟨same, less⟩ <;> omega

theorem nanoseconds_since (now since : Instant) :
    ((now.since since).nanoseconds : Int) = max 0 (now.nanosSince since) := by
  show ((now.nanosSince since).toNat : Int) = _
  omega

end Instant

/-! ## The text -/

/-- The text that tells a downtime as a number of a unit. -/
def downtimeOf (name : String) (n : Nat) (u : Duration.Unit) : String :=
  name ++ " has been offline for " ++ (toString n ++ u.suffix)

theorem downtimeText_eq (name : String) (now since : Instant) : downtimeText name now since =
    downtimeOf name (now.since since).inLargestUnit (now.since since).largestUnit := by
  rw [downtimeText, Duration.readable, downtimeOf, Number.toString_eq_digits]

theorem Duration.Unit.suffix_inj {u v : Duration.Unit} (same : u.suffix.toList = v.suffix.toList) :
    u = v := by
  cases u <;> cases v <;> simp [suffix] at same ⊢

/-- One number of one unit can be read off the text. -/
theorem downtimeOf_inj {name : String} {n m : Nat} {u v : Duration.Unit}
    (same : downtimeOf name n u = downtimeOf name m v) : n = m ∧ u = v := by
  have parted : ∀ n (u : Duration.Unit), Number.spanDigits (Number.digits n ++ u.suffix.toList) =
      (Number.digits n, u.suffix.toList) := by
    intro n u
    refine Number.spanDigits_digits n ?_
    intro c first
    cases u <;> obtain rfl := Option.some.inj first <;> rfl
  have texts := congrArg String.toList ((String.append_right_inj _).1 same)
  simp only [String.toList_append, Number.toString_eq_digits, String.toList_ofList] at texts
  have parts := parted n u
  rw [texts, parted m v] at parts
  obtain ⟨digits, suffix⟩ := Prod.mk.inj parts
  have number := congrArg Number.ofDigits digits
  rw [Number.ofDigits_digits, Number.ofDigits_digits] at number
  exact ⟨number.symm, Duration.Unit.suffix_inj suffix.symm⟩

/-- A text that tells a downtime tells the time that has elapsed. -/
theorem tells_of_downtimeText {name : String} {now since : Instant} {n : Nat} {u : Duration.Unit}
    (text : downtimeText name now since = downtimeOf name n u) : (now.since since).Tells n u := by
  rw [downtimeText_eq] at text
  obtain ⟨rfl, rfl⟩ := downtimeOf_inj text
  exact Duration.tells_inLargestUnit _

/-- The text about a downtime tells the time that has elapsed in the largest unit that goes into it,
and without leap seconds no later text tells less. -/
theorem downtimeText_tells (name : String) (now since : Instant) :
    ((now.since since).nanoseconds : Int) = max 0 (now.nanosSince since) ∧
      (∃ n u, downtimeText name now since = downtimeOf name n u ∧ (now.since since).Tells n u) ∧
      ∀ later : Instant, since.isLeap = false → now.isLeap = false → later.isLeap = false →
        now.Before later → ∀ n u m v, downtimeText name now since = downtimeOf name n u →
          downtimeText name later since = downtimeOf name m v →
            n * u.nanoseconds ≤ m * v.nanoseconds := by
  refine ⟨Instant.nanoseconds_since now since, ?_, ?_⟩
  · exact ⟨_, _, downtimeText_eq name now since, Duration.tells_inLargestUnit _⟩
  · intro later hs hn hl before n u m v first second
    refine (tells_of_downtimeText first).mono (tells_of_downtimeText second) ?_
    exact Int.toNat_le_toNat (Instant.nanosSince_le hs hn hl before)

/-- A nanosecond before the hour is full the minutes are told, and then the hour. -/
theorem downtimeText_tells_hour :
    let since : Instant := ⟨-3600, 0⟩
    let now : Instant := ⟨-1, 999999999⟩
    let later : Instant := ⟨0, 0⟩
    (since.isLeap = false ∧ now.isLeap = false ∧ later.isLeap = false ∧ now.Before later) ∧
      downtimeText "db" now since = downtimeOf "db" 59 .minutes ∧
      downtimeText "db" later since = downtimeOf "db" 1 .hours ∧
      59 * Duration.Unit.minutes.nanoseconds ≤ 1 * Duration.Unit.hours.nanoseconds := by
  intro since now later
  have before : now.Before later := by decide
  have first : downtimeText "db" now since = downtimeOf "db" 59 .minutes := by decide +kernel
  have second : downtimeText "db" later since = downtimeOf "db" 1 .hours := by decide +kernel
  obtain ⟨-, -, grows⟩ := downtimeText_tells "db" now since
  exact ⟨⟨rfl, rfl, rfl, before⟩, first, second,
    grows later rfl rfl rfl before 59 .minutes 1 .hours first second⟩

/-- The leap second at 22:59:60 counts up to midnight, so that a time from it is told as less
then. -/
example :
    downtimeText "db" ⟨86399, 900000000⟩ ⟨82799, 1200000000⟩ = downtimeOf "db" 1 .hours ∧
      downtimeText "db" ⟨86400, 0⟩ ⟨82799, 1200000000⟩ = downtimeOf "db" 59 .minutes := by
  decide +kernel

end Uptime
