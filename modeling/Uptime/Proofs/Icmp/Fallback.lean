import Uptime.Icmp.Echo

/-!
# The way out of an echo

An echo asks a socket first, and the `ping` command only where no sockets are to be had or the
socket is not permitted (`FallsBack`). The socket is waited for no longer than the timeout
(`awaits_awaitReply`), and no echo over a socket runs a command (`commands_ping`). So what comes of
an echo is either what was heard over the socket (`attempt_of_not_fallsBack`) or what the command
comes to (`attempt_of_fallsBack`), and in the one case no command was run and in the other at most
one.
-/

namespace Uptime.Icmp

/-! ## Waiting for the worker -/

/-- What waiting for a worker comes to. -/
structure Awaits (timeout : Duration) (w : Worker) (a : Awaited) : Prop where
  /-- A worker that ends in time is heard, and if it leaves no result, this is an error. -/
  early : w.after < timeout → a.elapsed = w.after ∧
    a.result = w.result.getD (.error (.network "ICMP worker exited without a result"))
  /-- The wait for another one ends with the timeout. -/
  late : timeout < w.after → a.elapsed = timeout ∧ a.result = .error (.timeout timeout)
  bounded : a.elapsed ≤ timeout
  /-- The worker's result is taken just if it is what the wait comes to when the worker ends. -/
  delivered : a.delivered = true ↔
    ∃ result, w.result = some result ∧ a.result = result ∧ a.elapsed = w.after

/-- The timer ends a wait of whole milliseconds when its time is up. -/
theorem wakeAfter_zero {timeout : Duration} (whole : timeout.Whole) :
    Duration.zero.wakeAfter timeout = timeout := by
  have begins : Duration.zero + timeout = timeout := Duration.ext_iff.2 (Nat.zero_add _)
  rw [Duration.wakeAfter, begins, whole.roundedUp_eq]

/-- A worker that ends in time is heard. -/
theorem awaitReply_of_early {timeout : Duration} (whole : timeout.Whole) {w : Worker}
    (early : w.after < timeout) : awaitReply timeout w =
      { result := w.result.getD (.error (.network "ICMP worker exited without a result"))
        elapsed := w.after, delivered := w.result.isSome } := by
  simp only [awaitReply, wakeAfter_zero whole]
  rw [if_pos early]
  cases w.result <;> rfl

/-- The wait for another one ends with the timeout. -/
theorem awaitReply_of_late {timeout : Duration} (whole : timeout.Whole) {w : Worker}
    (late : ¬w.after < timeout) : awaitReply timeout w =
      { result := .error (.timeout timeout), elapsed := timeout, delivered := false } := by
  simp only [awaitReply, wakeAfter_zero whole]
  rw [if_neg late]

theorem awaits_awaitReply {timeout : Duration} (whole : timeout.Whole) {w : Worker}
    (apart : w.after ≠ timeout) : Awaits timeout w (awaitReply timeout w) := by
  by_cases early : w.after < timeout
  · rw [awaitReply_of_early whole early]
    constructor
    case early => exact fun _ => ⟨rfl, rfl⟩
    case late => exact fun late => absurd late (Nat.not_lt.2 (Nat.le_of_lt early))
    case bounded => exact Nat.le_of_lt early
    case delivered =>
      rw [Option.isSome_iff_exists]
      refine exists_congr fun result => ?_
      constructor
      · intro left
        rw [left]
        exact ⟨rfl, rfl, rfl⟩
      · rintro ⟨left, -, -⟩
        exact left
  · rw [awaitReply_of_late whole early]
    constructor
    case early => exact fun now => absurd now early
    case late => exact fun _ => ⟨rfl, rfl⟩
    case bounded => exact Nat.le_refl _
    case delivered =>
      constructor
      · exact nofun
      · rintro ⟨-, -, -, same⟩
        exact absurd same.symm apart

/-! ## Commands that were run -/

/-- Whether a command was run. -/
def Act.isCommand : Act → Bool
  | .command _ => true
  | .socket _ _ | .sent _ | .received => false

/-- The commands among what was done. -/
def commands (acts : List Act) : List Act := acts.filter Act.isCommand

theorem mem_commands {acts : List Act} {arguments : List String} :
    .command arguments ∈ commands acts ↔ .command arguments ∈ acts := by
  simp [commands, Act.isCommand]

@[simp] theorem commands_append (a b : List Act) : commands (a ++ b) = commands a ++ commands b :=
  List.filter_append ..

@[simp] theorem commands_after (acts : List Act) (x : Exchange) :
    commands (x.after acts).acts = commands acts ++ commands x.acts :=
  commands_append acts x.acts

/-- However long it takes, waiting for a reply runs no command. -/
theorem commands_waitForReply (accepts : List UInt8 → Bool) (timeout last : Duration)
    (as : List Arrival) : commands (waitForReply accepts timeout last as).acts = [] := by
  induction as generalizing last with
  | nil => rfl
  | cons a rest ih =>
    rw [waitForReply]
    split
    · rfl
    · split
      · rfl
      · split
        · rfl
        · split
          · rfl
          · rw [commands_after, ih]
            rfl

theorem commands_exchange (h : EchoHost) (type : SocketType) (v6 : Bool) (i : Identity)
    (now : Instant) (timeout : Duration) :
    commands (exchange h type v6 i now timeout).acts = [] := by
  unfold exchange
  split
  · rfl
  · rw [commands_after, commands_waitForReply]
    rfl

/-- No echo over a socket runs a command, -/
theorem commands_ping (h : EchoHost) (ip : Ip) (i : Identity) (now : Instant)
    (timeout : Duration) : commands (ping h ip i now timeout).acts = [] := by
  unfold ping
  split
  · rw [commands_after, commands_exchange]
    rfl
  · simp only []
    split
    · rw [commands_after, commands_exchange]
      rfl
    · rfl

/-- nor does trying the sockets. -/
theorem commands_detect (h : EchoHost) : commands (detect h).2.1 = [] := by
  unfold detect
  simp only []
  split <;> rfl

/-- Where there is room for its time the command has a result. -/
theorem pingCommand_of_room {timeout : Duration} (room : Command.hasRoom timeout = true)
    (c : CommandHost) (ip : Ip) :
    (pingCommand c ip timeout).result =
      some (Command.result timeout (c (Command.arguments ip timeout))) := by
  rw [pingCommand, if_pos room]

theorem pingCommand_of_no_room {timeout : Duration} (full : ¬Command.hasRoom timeout = true)
    (c : CommandHost) (ip : Ip) : pingCommand c ip timeout = { acts := [], result := none } := by
  rw [pingCommand, if_neg full]

/-- The command is run once, unless it cannot be run or its time has no room. -/
theorem commands_pingCommand (c : CommandHost) (ip : Ip) (timeout : Duration) :
    commands (pingCommand c ip timeout).acts = [] ∨
      commands (pingCommand c ip timeout).acts = [.command (Command.arguments ip timeout)] := by
  by_cases room : Command.hasRoom timeout = true
  · rw [pingCommand, if_pos room]
    simp only []
    split
    · exact .inl rfl
    · exact .inr rfl
    · exact .inr rfl
  · rw [pingCommand_of_no_room room]
    exact .inl rfl

/-! ## The way out -/

/-- What is heard of an echo over a socket within its time. -/
def heardNatively (h : EchoHost) (ip : Ip) (i : Identity) (now : Instant) (timeout : Duration) :
    Except ProbeError Duration :=
  let x := ping h ip i now timeout
  if x.elapsed < timeout then x.result else .error (.timeout timeout)

/-- The command is the way out where sockets cannot be had, or where the echo over a socket is not
permitted. -/
def FallsBack (known : Capability) (h : EchoHost) (ip : Ip) (i : Identity) (now : Instant)
    (timeout : Duration) : Prop :=
  known = .commandOnly ∨
    ∃ reason, heardNatively h ip i now timeout = .error (.permissionDenied reason)

/-- Sockets of neither kind are permitted. -/
theorem fallsBack_of_denied {h : EchoHost} {raw datagram : SystemError} (noRaw : h.raw = some raw)
    (noDatagram : h.datagram = some datagram) (denied : datagram.isPermission = true)
    (known : Capability) (ip : Ip) (i : Identity) (now : Instant) {timeout : Duration}
    (pos : Duration.zero < timeout) : FallsBack known h ip i now timeout := by
  have refused : ping h ip i now timeout =
      .refused [.socket .raw ip.isV6, .socket .datagram ip.isV6] datagram := by
    rw [ping, noRaw]
    simp only [noDatagram]
  refine .inr ⟨datagram.message, ?_⟩
  rw [heardNatively, refused]
  exact (if_pos pos).trans (congrArg Except.error (if_pos denied))

section Attempting

variable {known : Capability} {h : EchoHost} {ip : Ip} {i : Identity} {now : Instant}
  {timeout : Duration} (whole : timeout.Whole) (c : CommandHost)

include whole

/-- Waiting for a worker that always leaves a result. -/
theorem result_awaitReply (h : EchoHost) (ip : Ip) (i : Identity) (now : Instant) :
    (awaitReply timeout ⟨(ping h ip i now timeout).elapsed,
      some (ping h ip i now timeout).result⟩).result = heardNatively h ip i now timeout := by
  simp only [heardNatively]
  split
  · next early =>
    rw [awaitReply_of_early whole early]
    rfl
  · next late => rw [awaitReply_of_late whole late]

theorem attempt_native (h : EchoHost) (ip : Ip) (i : Identity) (now : Instant) :
    attempt .native h c ip i now timeout =
      settle c ip timeout (ping h ip i now timeout).acts (heardNatively h ip i now timeout) := by
  rw [attempt, ← result_awaitReply whole]

theorem attempt_of_fallsBack (falls : FallsBack known h ip i now timeout) :
    commands (attempt known h c ip i now timeout).acts = commands (pingCommand c ip timeout).acts ∧
      (attempt known h c ip i now timeout).result = (pingCommand c ip timeout).result := by
  cases known with
  | commandOnly =>
    -- Computing what the command comes to would count to the bound on its time.
    rw [attempt]
    exact ⟨rfl, rfl⟩
  | native =>
    obtain unavailable | ⟨reason, denied⟩ := falls
    · cases unavailable
    · rw [attempt_native whole, denied, settle, Attempt.acts_after, Attempt.result_after,
        commands_append, commands_ping, List.nil_append]
      exact ⟨rfl, rfl⟩

theorem attempt_of_not_fallsBack (stays : ¬FallsBack known h ip i now timeout) :
    commands (attempt known h c ip i now timeout).acts = [] ∧
      (attempt known h c ip i now timeout).result = some (heardNatively h ip i now timeout) := by
  cases known with
  | commandOnly => exact absurd (.inl rfl) stays
  | native =>
    rw [attempt_native whole, settle]
    · exact ⟨commands_ping h ip i now timeout, rfl⟩
    · intro reason denied
      exact absurd (.inr ⟨reason, denied⟩) stays

end Attempting

end Uptime.Icmp
