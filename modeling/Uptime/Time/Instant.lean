import Uptime.Time.Calendar
import Uptime.Time.Duration

/-!
# Instants

An instant is a number of seconds since 1970-01-01T00:00:00Z and nanoseconds within that second. A
second that is followed by a leap second holds two seconds' worth of nanoseconds. Leap seconds come
after the last second of a minute, where the second half is shown as `:60`, but nothing keeps an
instant from having one after any other second. `Instant.civil` and `Civil.instant` pass between an
instant and its date and time of day; `Instant.since` is the time from one instant to another.
-/

namespace Uptime

/-- A point in time; `nanos` is below `10^9`, or below `2 · 10^9` in a leap second. -/
structure Instant where
  seconds : Int
  nanos : Nat
deriving DecidableEq, Repr, Inhabited

/-- A date and a time of day. -/
structure Civil where
  date : Date
  hour : Nat
  minute : Nat
  second : Nat
  nanos : Nat
deriving DecidableEq, Repr

namespace Instant

/-- Days since 1970-01-01. -/
def day (t : Instant) : Int := t.seconds / 86400

/-- Seconds since midnight. -/
def secondOfDay (t : Instant) : Int := t.seconds % 86400

/-- The date and time of day. -/
def civil (t : Instant) : Civil :=
  let s := t.secondOfDay.toNat
  { date := Date.ofDayNumber t.day
    hour := s / 3600
    minute := s / 60 % 60
    second := s % 60
    nanos := t.nanos }

/-- Nanoseconds from `start` to `t`, negative if `t` is earlier. A leap second counts if it lies
between the two times of day. -/
def nanosSince (t start : Instant) : Int :=
  let leap : Int :=
    if start.secondOfDay < t.secondOfDay then if 1000000000 ≤ start.nanos then 1 else 0
    else if t.secondOfDay < start.secondOfDay then if 1000000000 ≤ t.nanos then -1 else 0
    else 0
  (t.seconds - start.seconds + leap) * 1000000000 + ((t.nanos : Int) - start.nanos)

/-- The time from `start` to `t`; none at all if `t` is earlier. -/
def since (t start : Instant) : Duration := ⟨(t.nanosSince start).toNat⟩

/-- Whether the instant lies in a leap second. -/
def isLeap (t : Instant) : Bool := 1000000000 ≤ t.nanos

/-- Nanoseconds since 1970, cut to 64 bits; zero before 1970. -/
def stamp (t : Instant) : UInt64 := UInt64.ofNat (t.seconds * 1000000000 + t.nanos).toNat

end Instant

/-- The instant of a date and time of day at the offset of so many seconds east. -/
def Civil.instant (c : Civil) (offset : Int) : Instant :=
  ⟨c.date.dayNumber * 86400 + (c.hour * 3600 + c.minute * 60 + c.second : Nat) - offset, c.nanos⟩

end Uptime
