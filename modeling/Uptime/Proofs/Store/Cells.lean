import Uptime.Store.Reading

/-!
# Records as rows

The cells that targets, hits and failures are stored as, and what is read from them. A target comes
back as it was stored, but for a count from `2^63` on (`target_row`). Hits and failures need numbers
for their times and come back with their times normalised, the two zeros being one (`hit_row`,
`failure_row`).
-/

namespace Uptime

/-- The word for a kind is read as that kind. -/
theorem Kind.read_name (k : Kind) : Kind.read k.name = .ok k := by
  have word : k.name.trimBlanks.asciiLower = k.name := by cases k <;> decide
  simp only [Kind.read, word, Kind.named?_name]

namespace Store

open Table (cells)

/-! ## What is stored -/

/-- The cells of a target. -/
def targetCells (t : Target) : List Value := (Draft.ofTarget t).map (·.2)

/-- The cells of a hit. -/
def hitCells (h : Hit) : List Value :=
  [.integer h.targetId, Affinity.kept h.latency, Affinity.kept h.pingTime, .text h.createdAt.text]

/-- The cells of a failure. -/
def failureCells (f : Failure) : List Value :=
  [.integer f.targetId, .text f.issue, Affinity.kept f.pingTime, .integer f.errorCode.toInt64,
    .text f.createdAt.text]

theorem isNull_integer (n : Int64) : (Value.integer n).isNull = false := rfl

theorem isNull_text (s : String) : (Value.text s).isNull = false := rfl

theorem cells_ofTarget (t : Target) :
    cells Schema.targets.name (.ofTarget t) Schema.targets.columns = .ok (targetCells t) := by
  have text? : ∀ s, Affinity.text.apply (Value.ofText? s) = Value.ofText? s := by
    rintro (_ | _) <;> rfl
  have port : Affinity.integer.apply
      ((t.port.map fun p => Value.integer (Int64.ofNat p.toNat)).getD .null) =
        (t.port.map fun p => Value.integer (Int64.ofNat p.toNat)).getD .null := by
    cases t.port <;> rfl
  simp [cells, Table.cell, Schema.targets, Draft.ofTarget, Draft.get?, targetCells, text?, port]
  simp [Affinity.apply, isNull_integer, isNull_text]

/-- The first time of a hit that is no number keeps it from being stored. -/
theorem cells_ofHit (h : Hit) : cells Schema.hits.name (.ofHit h) Schema.hits.columns =
    if Number.isNaN h.latency then .error (.missing "hits" "latency")
    else if Number.isNaN h.pingTime then .error (.missing "hits" "ping_time")
    else .ok (hitCells h) := by
  cases latency : Number.isNaN h.latency <;> cases pingTime : Number.isNaN h.pingTime <;>
    simp [cells, Table.cell, Schema.hits, Draft.ofHit, Draft.get?, hitCells, Value.ofDouble,
      latency, pingTime, Affinity.apply, Affinity.isNull_kept, isNull_integer, isNull_text] <;>
    rfl

/-- A time that is no number keeps a failure from being stored. -/
theorem cells_ofFailure (f : Failure) :
    cells Schema.failures.name (.ofFailure f) Schema.failures.columns =
      if Number.isNaN f.pingTime then .error (.missing "failures" "ping_time")
      else .ok (failureCells f) := by
  cases pingTime : Number.isNaN f.pingTime <;>
    simp [cells, Table.cell, Schema.failures, Draft.ofFailure, Draft.get?, failureCells,
      Value.ofDouble, pingTime, Affinity.apply, Affinity.isNull_kept, isNull_integer, isNull_text]
  rfl

/-! ## What is read -/

/-- What is left of a count of 64 bits: nothing from `2^63` on. -/
def keptCount (n : UInt64) : UInt64 := UInt64.ofNat n.toInt64.toInt.toNat

theorem keptCount_eq {n : UInt64} (h : n.toNat < 9223372036854775808) : keptCount n = n := by
  have signed : n.toInt64.toInt = n.toNat := by
    have word := UInt64.toInt64_ofNat' (n := n.toNat)
    rw [UInt64.ofNat_toNat] at word
    rw [word, Int64.toInt_ofNat_of_lt h]
  rw [keptCount, signed, Int.toNat_natCast, UInt64.ofNat_toNat]

theorem port_ofNat (p : UInt16) : Decoder.port (.integer (Int64.ofNat p.toNat)) = .ok p := by
  have lt := p.toNat_lt
  have signed : (Int64.ofNat p.toNat).toInt = p.toNat := Int64.toInt_ofNat_of_lt (by omega)
  have range : (0 ≤ (p.toNat : Int) && (p.toNat : Int) < 65536) = true := by
    simp
    omega
  simp only [Decoder.port, signed, range, if_true, Int.toNat_natCast, UInt16.ofNat_toNat]

theorem code_toInt64 (n : Int32) : Decoder.code (.integer n.toInt64) = .ok n := by
  have low := n.le_toInt
  have high := n.toInt_lt
  have range : (-2147483648 ≤ n.toInt && n.toInt < 2147483648) = true := by
    simp
    omega
  simp only [Decoder.code, Int32.toInt_toInt64, range, if_true, Int32.ofInt_toInt]

theorem target_row (id : Int64) (t : Target) : Row.target ⟨id, targetCells t⟩ =
    .ok { t with id, interval := keptCount t.interval, timeout := keptCount t.timeout } := by
  have port : Decoder.port.optional
      ((t.port.map fun p => Value.integer (Int64.ofNat p.toNat)).getD .null) = .ok t.port := by
    cases t.port with
    | none => rfl
    | some p => exact congrArg (Except.map some) (port_ofNat p)
  have text? : ∀ s, Decoder.text.optional (Value.ofText? s) = .ok s := by
    rintro (_ | _) <;> rfl
  have flag : Decoder.flag (.integer (if t.verifySsl then 1 else 0)) = .ok t.verifySsl := by
    cases t.verifySsl <;> rfl
  have text : ∀ s, Decoder.text (.text s) = .ok s := fun _ => rfl
  have count : ∀ n : UInt64, Decoder.count (.integer n.toInt64) = .ok (keptCount n) := fun _ => rfl
  have integer : ∀ n, Decoder.integer (.integer n) = .ok n := fun _ => rfl
  simp [Row.target, Row.all, Schema.targets, targetCells, Draft.ofTarget, Selected.get, port, text?,
    port_ofNat, flag, text, count, integer, Kind.read_name]
  rfl

/-- A time span as it is stored: the two zeros are one. -/
def keptDouble (x : Float) : Float := if Number.isZero x then 0 else x

theorem kept_eq (x : Float) : Affinity.kept x = .real (keptDouble x) := by
  unfold Affinity.kept keptDouble
  split <;> rfl

theorem double_kept (x : Float) : Decoder.double (Affinity.kept x) = .ok (keptDouble x) := by
  rw [kept_eq]
  rfl

theorem hit_row (now : Instant) (id : Int64) (h : Hit) : Row.hit now ⟨id, hitCells h⟩ =
    .ok { h with
      latency := keptDouble h.latency
      pingTime := keptDouble h.pingTime
      createdAt := (Instant.read? h.createdAt.text).getD now } := by
  have text : ∀ s, Decoder.text (.text s) = .ok s := fun _ => rfl
  have integer : ∀ n, Decoder.integer (.integer n) = .ok n := fun _ => rfl
  simp [Row.hit, Row.rest, Schema.hits, hitCells, Selected.get, text, double_kept, integer]
  rfl

theorem failure_row (now : Instant) (id : Int64) (f : Failure) :
    Row.failure now ⟨id, failureCells f⟩ =
      .ok { f with
        pingTime := keptDouble f.pingTime
        createdAt := (Instant.read? f.createdAt.text).getD now } := by
  have text : ∀ s, Decoder.text (.text s) = .ok s := fun _ => rfl
  have integer : ∀ n, Decoder.integer (.integer n) = .ok n := fun _ => rfl
  simp [Row.failure, Row.rest, Schema.failures, failureCells, Selected.get, text, double_kept,
    integer, code_toInt64]
  rfl

end Store

end Uptime
