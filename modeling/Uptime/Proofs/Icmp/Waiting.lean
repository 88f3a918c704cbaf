import Uptime.Icmp.Echo
import Uptime.Proofs.Icmp.Matching

/-!
# Waiting for a reply

Data that are no reply to the request are foreign. Each of them begins another read with a time of
its own, but that time never ends before the timeout of the whole, so it does not matter when a read
began (`heard_data`), and the first arrival that is not foreign decides. So the wait succeeds with
the first reply that comes within the timeout, and foreign arrivals have no influence
(`exchange_hears`).
-/

namespace Uptime.Icmp

/-- Arrivals in the order in which they come. -/
def InOrder (as : List Arrival) : Prop := as.Pairwise fun a b => a.after ≤ b.after

instance (as : List Arrival) : Decidable (InOrder as) :=
  inferInstanceAs (Decidable (as.Pairwise fun a b => a.after ≤ b.after))

namespace Arrival

/-- Data that are accepted. -/
def isAccepted (accepts : List UInt8 → Bool) (a : Arrival) : Bool :=
  match a.data with
  | .ok data => accepts data
  | .error _ => false

/-- Data that are not accepted. -/
def isForeign (accepts : List UInt8 → Bool) (a : Arrival) : Bool :=
  match a.data with
  | .ok data => !accepts data
  | .error _ => false

/-- All else decides what the wait comes to. -/
def decides (accepts : List UInt8 → Bool) (a : Arrival) : Bool := !a.isForeign accepts

/-- A read that fails. -/
def fails (a : Arrival) : Bool :=
  match a.data with
  | .ok _ => false
  | .error _ => true

/-- A read that fails other than by running out of time. -/
def failsOtherwise (a : Arrival) : Bool :=
  match a.data with
  | .ok _ => false
  | .error e => !e.isTimeout

/-- What an arrival that decides comes to. -/
def verdict (timeout : Duration) (a : Arrival) : Except ProbeError Duration :=
  match a.data with
  | .ok _ => if timeout ≤ a.after then .error (.timeout timeout) else .ok a.after
  | .error e => .error (if e.isTimeout then .timeout timeout else .ofSystem e)

variable {accepts : List UInt8 → Bool} {timeout : Duration} {a : Arrival}

theorem decides_of_isAccepted (accepted : a.isAccepted accepts = true) :
    a.decides accepts = true := by
  rcases a with ⟨t, e | data⟩
  · rfl
  · have accepted : accepts data = true := accepted
    simp [decides, isForeign, accepted]

theorem not_isForeign_iff : ¬a.isForeign accepts = true ↔ a.decides accepts = true := by
  simp [decides]

theorem fails_of_isAccepted (accepted : a.isAccepted accepts = true) : a.fails = false := by
  rcases a with ⟨t, e | data⟩
  · cases accepted
  · rfl

theorem fails_of_isForeign (foreign : a.isForeign accepts = true) : a.fails = false := by
  rcases a with ⟨t, e | data⟩
  · cases foreign
  · rfl

theorem failsOtherwise_of_isForeign (foreign : a.isForeign accepts = true) :
    a.failsOtherwise = false := by
  rcases a with ⟨t, e | data⟩
  · cases foreign
  · rfl

theorem verdict_of_early (read : a.fails = false) (early : a.after < timeout) :
    a.verdict timeout = .ok a.after := by
  rcases a with ⟨t, e | data⟩
  · cases read
  · exact if_neg (Nat.not_le.2 early)

theorem verdict_of_late (timely : a.failsOtherwise = false) (late : timeout ≤ a.after) :
    a.verdict timeout = .error (.timeout timeout) := by
  rcases a with ⟨t, e | data⟩
  · have upInTime : e.isTimeout = true := by simpa [failsOtherwise] using timely
    simp [verdict, upInTime]
  · exact if_pos late

/-- A read that does not fail otherwise is early data or comes to the end of the time. -/
theorem verdict_cases (timely : a.failsOtherwise = false) :
    a.verdict timeout = .error (.timeout timeout) ∨ ∃ d, a.verdict timeout = .ok d := by
  by_cases late : timeout ≤ a.after
  · exact .inl (verdict_of_late timely late)
  · rcases a with ⟨t, e | data⟩
    · have upInTime : e.isTimeout = true := by simpa [failsOtherwise] using timely
      simp [verdict, upInTime]
    · exact .inr ⟨t, if_neg late⟩

end Arrival

/-- The result of waiting for data that are accepted. -/
def heard (accepts : List UInt8 → Bool) (timeout : Duration) (as : List Arrival) :
    Except ProbeError Duration :=
  (waitForReply accepts timeout .zero as).result

section Accepting

variable {accepts : List UInt8 → Bool} {timeout : Duration}

/-! ## One arrival -/

/-- Data end the wait as too late or as accepted, or another read begins. -/
theorem result_data (last t : Duration) (data : List UInt8) (rest : List Arrival) :
    (waitForReply accepts timeout last (⟨t, .ok data⟩ :: rest)).result =
      if timeout ≤ t then .error (.timeout timeout)
      else if accepts (data.take bufferLength) then .ok t
      else (waitForReply accepts timeout t rest).result := by
  rw [waitForReply]
  simp only []
  split
  · next beyond =>
    rw [Duration.lt_iff, Duration.nanoseconds_add] at beyond
    rw [if_pos]
    rw [Duration.le_iff]
    omega
  · split
    · rfl
    · split
      · rfl
      · rfl

/-- It does not matter when the first read began. -/
theorem result_eq_heard (last : Duration) (as : List Arrival) :
    (waitForReply accepts timeout last as).result = heard accepts timeout as := by
  rcases as with _ | ⟨⟨t, e | data⟩, rest⟩
  · rfl
  · rfl
  · rw [heard, result_data, result_data]

-- What does not fit in the buffer is no matter to what is accepted.
variable (whole : ∀ data, accepts (data.take bufferLength) = accepts data)

include whole

theorem heard_data (t : Duration) (data : List UInt8) (rest : List Arrival) :
    heard accepts timeout (⟨t, .ok data⟩ :: rest) =
      if timeout ≤ t then .error (.timeout timeout)
      else if accepts data then .ok t else heard accepts timeout rest := by
  rw [heard, result_data, result_eq_heard, whole]

theorem heard_own {a : Arrival} (own : a.decides accepts = true) (rest : List Arrival) :
    heard accepts timeout (a :: rest) = a.verdict timeout := by
  rcases a with ⟨t, e | data⟩
  · rfl
  · have accepted : accepts data = true := by
      simpa [Arrival.decides, Arrival.isForeign] using own
    rw [heard_data whole, if_pos accepted]
    rfl

/-- A foreign one is passed over as long as there is time. -/
theorem heard_foreign {a : Arrival} (foreign : a.isForeign accepts = true) (rest : List Arrival) :
    heard accepts timeout (a :: rest) =
      if timeout ≤ a.after then .error (.timeout timeout) else heard accepts timeout rest := by
  rcases a with ⟨t, e | data⟩
  · cases foreign
  · have refused : ¬accepts data = true := by simpa [Arrival.isForeign] using foreign
    rw [heard_data whole, if_neg refused]

/-! ## All arrivals -/

/-- A success is that of the first arrival that is not foreign. -/
theorem first_of_heard {as : List Arrival} {d : Duration}
    (success : heard accepts timeout as = .ok d) :
    ∃ before a rest, as = before ++ a :: rest ∧ (∀ b ∈ before, b.isForeign accepts = true) ∧
      a.isAccepted accepts = true ∧ a.after = d ∧ d < timeout := by
  induction as with
  | nil => cases success
  | cons a rest ih =>
    by_cases foreign : a.isForeign accepts = true
    · rw [heard_foreign whole foreign] at success
      split at success
      · cases success
      · obtain ⟨before, b, after, rfl, passed, accepted⟩ := ih success
        refine ⟨a :: before, b, after, rfl, ?_, accepted⟩
        intro c hc
        rcases List.mem_cons.1 hc with rfl | hc
        · exact foreign
        · exact passed c hc
    · rw [heard_own whole (Arrival.not_isForeign_iff.1 foreign)] at success
      rcases a with ⟨t, e | data⟩
      · cases success
      · have accepted : accepts data = true := by simpa [Arrival.isForeign] using foreign
        simp only [Arrival.verdict] at success
        split at success
        · cases success
        · next early =>
          cases success
          rw [Duration.le_iff] at early
          refine ⟨[], _, rest, rfl, nofun, accepted, rfl, ?_⟩
          rw [Duration.lt_iff]
          omega

/-- If data are accepted within the timeout and no read fails before them, there is a success. -/
theorem heard_of_accepted {before rest : List Arrival} {a : Arrival}
    (inOrder : InOrder (before ++ a :: rest)) (accepted : a.isAccepted accepts = true)
    (early : a.after < timeout) (read : ∀ b ∈ before, b.fails = false) :
    ∃ d, heard accepts timeout (before ++ a :: rest) = .ok d := by
  induction before with
  | nil =>
    rw [List.nil_append, heard_own whole (Arrival.decides_of_isAccepted accepted)]
    exact ⟨_, Arrival.verdict_of_early (Arrival.fails_of_isAccepted accepted) early⟩
  | cons b before ih =>
    obtain ⟨first, inOrder⟩ := List.pairwise_cons.1 inOrder
    have earlier : b.after < timeout := Nat.lt_of_le_of_lt (first a (by simp)) early
    have notLate : ¬timeout ≤ b.after := Nat.not_le.2 earlier
    have readOn : ∀ c ∈ before, c.fails = false := fun c hc => read c (List.mem_cons_of_mem b hc)
    by_cases foreign : b.isForeign accepts = true
    · rw [List.cons_append, heard_foreign whole foreign, if_neg notLate]
      exact ih inOrder readOn
    · rw [List.cons_append, heard_own whole (Arrival.not_isForeign_iff.1 foreign)]
      exact ⟨_, Arrival.verdict_of_early (read b List.mem_cons_self) earlier⟩

/-- As long as reads fail by running out of time only, the first arrival that is not foreign
decides. -/
theorem heard_eq_verdict {as : List Arrival} (inOrder : InOrder as)
    (timely : ∀ a ∈ as, a.failsOtherwise = false) :
    heard accepts timeout as =
      ((as.find? (Arrival.decides accepts)).map (Arrival.verdict timeout)).getD
        (.error (.timeout timeout)) := by
  induction as with
  | nil => rfl
  | cons a rest ih =>
    obtain ⟨first, inOrder⟩ := List.pairwise_cons.1 inOrder
    have timelyOn : ∀ b ∈ rest, b.failsOtherwise = false := fun b hb =>
      timely b (List.mem_cons_of_mem a hb)
    by_cases foreign : a.isForeign accepts = true
    · have passed : ¬a.decides accepts = true := by simp [Arrival.decides, foreign]
      rw [heard_foreign whole foreign, List.find?_cons_of_neg passed]
      split
      · next late =>
        -- Whatever else comes is late as well.
        cases found : rest.find? (Arrival.decides accepts) with
        | none => rfl
        | some b =>
          have member := List.mem_of_find?_eq_some found
          have later : timeout ≤ b.after := Nat.le_trans late (first b member)
          exact (Arrival.verdict_of_late (timelyOn b member) later).symm
      · exact ih inOrder timelyOn
    · have own := Arrival.not_isForeign_iff.1 foreign
      rw [heard_own whole own, List.find?_cons_of_pos own]
      rfl

end Accepting

/-! ## Echoes over a socket -/

/-- Where all calls succeed, an echo over a socket comes to what waiting comes to. -/
theorem result_exchange {h : EchoHost} (calls : h.refusal? = none) (type : SocketType) (v6 : Bool)
    (i : Identity) (now : Instant) (timeout : Duration) :
    (exchange h type v6 i now timeout).result =
      heard (isReply v6 i (type == .raw)) timeout (h.arrivals (request v6 i now)) := by
  rw [exchange, calls]
  rfl

/-- What an echo comes to, as a result of what arrives. -/
structure Hears (accepts : List UInt8 → Bool) (timeout : Duration)
    (result : List Arrival → Except ProbeError Duration) (as : List Arrival) : Prop where
  /-- It succeeds just if data that are accepted come within the timeout, and no read fails before
  them. -/
  success : (∃ d, result as = .ok d) ↔ ∃ before a rest, as = before ++ a :: rest ∧
    a.isAccepted accepts = true ∧ a.after < timeout ∧ ∀ b ∈ before, b.fails = false
  /-- Its time is that of the first such data. -/
  first : ∀ d, result as = .ok d → d < timeout ∧ ∃ before a rest, as = before ++ a :: rest ∧
    (∀ b ∈ before, b.isForeign accepts = true) ∧ a.isAccepted accepts = true ∧ a.after = d
  /-- If reads fail by running out of time only, so does the echo, -/
  timely : (∀ a ∈ as, a.failsOtherwise = false) →
    result as = .error (.timeout timeout) ∨ ∃ d, result as = .ok d
  /-- and foreign arrivals may be put anywhere among the others or be left out. -/
  deaf : (∀ a ∈ as, a.failsOtherwise = false) → ∀ others, InOrder others →
    others.filter (Arrival.decides accepts) = as.filter (Arrival.decides accepts) →
      result others = result as

/-- An echo over a socket whose calls succeed hears the first reply within the timeout, whatever
else arrives. -/
theorem exchange_hears {h : EchoHost} (calls : h.refusal? = none) (type : SocketType) (v6 : Bool)
    (i : Identity) (now : Instant) (timeout : Duration) {as : List Arrival}
    (inOrder : InOrder as) :
    Hears (isReply v6 i (type == .raw)) timeout (fun as =>
      (exchange { h with arrivals := fun _ => as } type v6 i now timeout).result) as := by
  have whole : ∀ data, isReply v6 i (type == .raw) (data.take bufferLength) =
      isReply v6 i (type == .raw) data := fun data => isReply_take v6 i _ data (by decide)
  have result (as : List Arrival) :
      (exchange { h with arrivals := fun _ => as } type v6 i now timeout).result =
        heard (isReply v6 i (type == .raw)) timeout as :=
    result_exchange (h := { h with arrivals := fun _ => as }) calls type v6 i now timeout
  simp only [result]
  constructor
  case success =>
    constructor
    · rintro ⟨d, success⟩
      obtain ⟨before, a, rest, split, foreign, accepted, rfl, early⟩ := first_of_heard whole success
      refine ⟨before, a, rest, split, accepted, early, fun b hb => ?_⟩
      exact Arrival.fails_of_isForeign (foreign b hb)
    · rintro ⟨before, a, rest, rfl, accepted, early, read⟩
      exact heard_of_accepted whole inOrder accepted early read
  case first =>
    intro d success
    obtain ⟨before, a, rest, split, foreign, accepted, time, early⟩ := first_of_heard whole success
    exact ⟨early, before, a, rest, split, foreign, accepted, time⟩
  case timely =>
    intro timely
    rw [heard_eq_verdict whole inOrder timely]
    cases found : as.find? (Arrival.decides (isReply v6 i (type == .raw))) with
    | none => exact .inl rfl
    | some a => exact Arrival.verdict_cases (timely a (List.mem_of_find?_eq_some found))
  case deaf =>
    intro timely others inOrder' same
    have timely' : ∀ a ∈ others, a.failsOtherwise = false := by
      intro a ha
      by_cases foreign : a.isForeign (isReply v6 i (type == .raw)) = true
      · exact Arrival.failsOtherwise_of_isForeign foreign
      · have kept := List.mem_filter.2 ⟨ha, Arrival.not_isForeign_iff.1 foreign⟩
        rw [same] at kept
        exact timely a (List.mem_filter.1 kept).1
    rw [heard_eq_verdict whole inOrder timely, heard_eq_verdict whole inOrder' timely',
      ← List.head?_filter, ← List.head?_filter, same]

/-- The request itself, the reply to an earlier one and the reply, as a raw socket may deliver
them. -/
def traffic : List Arrival :=
  [⟨.ofMillis 1, .ok [8, 0, 0, 0, 18, 52, 0, 2]⟩, ⟨.ofMillis 2, .ok [0, 0, 0, 0, 18, 52, 0, 1]⟩,
    ⟨.ofMillis 3, .ok [0, 0, 0, 0, 18, 52, 0, 2]⟩]

/-- Among all of them the reply is heard. -/
theorem exchange_hears_traffic : InOrder traffic ∧
    ∃ d, (exchange { arrivals := fun _ => traffic } .raw false ⟨4660, 2⟩ ⟨0, 0⟩
      (.ofSeconds 1)).result = .ok d := by
  have inOrder : InOrder traffic := by decide
  have hears := exchange_hears (h := {}) rfl .raw false ⟨4660, 2⟩ ⟨0, 0⟩ (.ofSeconds 1) inOrder
  exact ⟨inOrder, hears.success.2
    ⟨traffic.take 2, _, [], rfl, by decide, by decide, by decide⟩⟩

end Uptime.Icmp
