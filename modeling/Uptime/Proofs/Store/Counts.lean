import Uptime.Program
import Uptime.Proofs.Store.Insertion

/-!
# Intervals and timeouts that are stored

A cell holds signed words, so an interval or a timeout from `2^63` on comes back as zero, and zero
stands for the shortest period and for the default timeout. All below comes back as it was, and then
the loop of the stored target has the period that was asked for (`add_returns`).
-/

namespace Uptime

namespace Store

/-- A word from `2^63` on is below zero as a signed one, and so it counts as zero. -/
theorem keptCount_eq_zero {n : UInt64} (h : 9223372036854775808 ≤ n.toNat) : keptCount n = 0 := by
  have word := n.toNat_lt
  have signed : n.toInt64.toInt = (n.toNat : Int).bmod 18446744073709551616 := by
    rw [← Int64.toInt_toBitVec, UInt64.toBitVec_toInt64, BitVec.toInt_eq_toNat_bmod]
    rfl
  have negative : n.toInt64.toInt.toNat = 0 := by
    rw [signed, Int.bmod_def]
    omega
  rw [keptCount, negative]
  rfl

theorem keptCount_eq_iff {n : UInt64} : keptCount n = n ↔ n.toNat < 9223372036854775808 := by
  refine ⟨fun same => Nat.lt_of_not_le fun beyond => ?_, keptCount_eq⟩
  rw [keptCount_eq_zero beyond] at same
  rw [← same] at beyond
  exact absurd beyond (by decide)

/-- The period of a count that is not kept is one second, which no such count stands for. -/
theorem periodOf_keptCount_eq_iff {n : UInt64} :
    Target.periodOf (keptCount n).toNat = Target.periodOf n.toNat ↔
      n.toNat < 9223372036854775808 := by
  refine ⟨fun same => Nat.lt_of_not_le fun beyond => ?_, fun fits => by rw [keptCount_eq fits]⟩
  have long : Target.periodOf n.toNat = .ofMicros n.toNat :=
    if_pos (Nat.le_trans (by decide) beyond)
  rw [keptCount_eq_zero beyond, long] at same
  have second : 1000000000 = n.toNat * 1000 := congrArg Duration.nanoseconds same
  omega

end Store

/-- How the target `t` comes back as `u` from a store. -/
structure Target.Returned (t u : Target) : Prop where
  same : u = { t with id := u.id, interval := u.interval, timeout := u.timeout }
  interval : u.interval = t.interval ↔ t.interval.toNat < 9223372036854775808
  timeout : u.timeout = t.timeout ↔ t.timeout.toNat < 9223372036854775808
  /-- The loop of the stored target has the period that was asked for just if that was kept. -/
  period : (Program.cycle u).period = t.period ↔ t.interval.toNat < 9223372036854775808
  patience : u.patience = t.patience ↔ t.timeout.toNat < 9223372036854775808
  /-- What is not kept is replaced by a default. -/
  shortest : 9223372036854775808 ≤ t.interval.toNat → u.period = .ofSeconds 1
  default : 9223372036854775808 ≤ t.timeout.toNat → u.patience = .ofSeconds Target.defaultTimeout

namespace Store

variable {s after : Store} {t : Target} {id : Int64}

theorem period_keptTarget (large : 9223372036854775808 ≤ t.interval.toNat) :
    (keptTarget id t).period = .ofSeconds 1 := by
  rw [Target.period, keptTarget, keptCount_eq_zero large]
  rfl

theorem patience_keptTarget (large : 9223372036854775808 ≤ t.timeout.toNat) :
    (keptTarget id t).patience = .ofSeconds Target.defaultTimeout := by
  rw [Target.patience, keptTarget, keptCount_eq_zero large]
  rfl

theorem returned_keptTarget (id : Int64) (t : Target) : t.Returned (keptTarget id t) where
  same := rfl
  interval := keptCount_eq_iff
  timeout := keptCount_eq_iff
  period := periodOf_keptCount_eq_iff
  patience := by
    refine ⟨fun same => Nat.lt_of_not_le fun beyond => ?_, fun fits => ?_⟩
    · have some : t.timeout ≠ 0 := by
        intro none
        rw [none] at beyond
        exact absurd beyond (by decide)
      rw [patience_keptTarget beyond, Target.patience, if_neg some] at same
      have default : 30 * 1000000000 = t.timeout.toNat * 1000000000 :=
        congrArg Duration.nanoseconds same
      omega
    · rw [Target.patience, keptTarget, keptCount_eq fits]
      rfl
  shortest := period_keptTarget
  default := patience_keptTarget

/-- A stored target is what is found under its id and the one target of this id among all. Its
interval and its timeout are what they were just if they are below `2^63`. -/
theorem add_returns (added : (s.add t).1 = (.ok id, after)) :
    ∃ u, t.Returned u ∧ u.id = id ∧ after.get id = .ok u ∧
      (∀ us, after.all = .ok us → ∀ v, v ∈ us ∧ v.id = id ↔ v = u) ∧
      ∀ ts, s.all = .ok ts → ∃ us, after.all = .ok us := by
  refine ⟨keptTarget id t, returned_keptTarget id t, rfl, get_added added, fun us listed v => ?_,
    fun ts listed => ?_⟩
  · obtain ⟨-, free, targets, -, rfl, placed⟩ := add_ok added
    rw [mem_of_all listed]
    constructor
    · rintro ⟨⟨r, hr, shown⟩, own⟩
      rw [placed, Table.mem_place] at hr
      rcases hr with rfl | old
      · exact Except.ok.inj (shown.symm.trans (target_row id t))
      · exact absurd ((id_of_target shown).symm.trans own) (free r old)
    · rintro rfl
      exact ⟨⟨_, placed ▸ Table.mem_place.2 (.inl rfl), target_row id t⟩, rfl⟩
  · obtain ⟨before, later, -, all⟩ := all_added added listed
    exact ⟨_, all⟩

/-- A target whose counts are beyond what a cell holds. -/
def beyond : Target :=
  { name := "a", interval := 9223372036854775808, timeout := 9223372036854775808 }

/-- A target with the greatest counts that are kept. -/
def greatest : Target :=
  { name := "a", interval := 9223372036854775807, timeout := 9223372036854775807 }

theorem add_returns_greatest : (Store.add greatest {}).1.1 = .ok 1 ∧
    ∃ u, (Store.add greatest {}).1.2.get 1 = .ok u ∧ u.interval = greatest.interval ∧
      u.timeout = greatest.timeout ∧ (Program.cycle u).period = greatest.period := by
  have added : (Store.add greatest {}).1 = (.ok 1, (Store.add greatest {}).1.2) := by rfl
  obtain ⟨u, returned, -, got, -⟩ := add_returns added
  exact ⟨congrArg Prod.fst added, u, got, returned.interval.2 (by decide),
    returned.timeout.2 (by decide), returned.period.2 (by decide)⟩

/-- Not every target comes back as it was stored: this one is checked every second. -/
theorem counts_not_kept : ¬∀ (s after : Store) (t : Target) (id : Int64),
    (s.add t).1 = (.ok id, after) → ∃ u, after.get id = .ok u ∧ u.interval = t.interval ∧
      u.timeout = t.timeout ∧ u.period = t.period ∧ u.patience = t.patience := by
  intro kept
  have added : (Store.add beyond {}).1 = (.ok 1, (Store.add beyond {}).1.2) := by rfl
  obtain ⟨u, got, interval, -⟩ := kept _ _ _ _ added
  rw [get_added added] at got
  cases got
  exact absurd interval (by decide)

end Store

end Uptime
