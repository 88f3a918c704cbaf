import Uptime.Icmp.Await
import Uptime.Icmp.Command
import Uptime.Icmp.Packet
import Uptime.Log

/-!
# Echo sockets

An echo is sent over a raw socket, or over a datagram socket where raw ones are refused. What
arrives is looked at until a reply to the request is among it or the time is up. If the system
permits no echo socket, the `ping` command is asked instead.
-/

namespace Uptime.Icmp

/-- Something that comes to an echo socket, and when, counted from the sending. -/
structure Arrival where
  after : Duration
  /-- The data that arrive, or why the read that waits for data fails. -/
  data : Except SystemError (List UInt8)

/-- The outside world of the echo sockets: which calls fail, and what arrives after a request. -/
structure EchoHost where
  raw : Option SystemError := none
  datagram : Option SystemError := none
  /-- Setting the timeout of reads. -/
  readTimeout : Option SystemError := none
  /-- Setting the timeout of writes. -/
  writeTimeout : Option SystemError := none
  connect : Option SystemError := none
  send : Option SystemError := none
  /-- What arrives after a request was sent; when it ends, reads run out of time. -/
  arrivals : List UInt8 → List Arrival := fun _ => []

/-- Why a request cannot be sent over an open socket: the first of the calls up to the sending that
fails tells. -/
def EchoHost.refusal? (h : EchoHost) : Option SystemError :=
  h.readTimeout <|> h.writeTimeout <|> h.connect <|> h.send

/-- The two kinds of echo sockets. Only the raw one delivers the replies to others as well. -/
inductive SocketType where
  | raw
  | datagram
deriving DecidableEq, Repr

/-- Something that was done to the outside world. -/
inductive Act where
  /-- A socket was asked for. -/
  | socket (type : SocketType) (v6 : Bool)
  /-- A request was sent. -/
  | sent (packet : List UInt8)
  | received
  /-- The `ping` command was run with these arguments. -/
  | command (arguments : List String)
deriving DecidableEq, Repr

/-- The length of the buffer that data are received in. -/
def bufferLength : Nat := 1500

/-- What was done for an echo, how long it took from the sending, and what it came to. -/
structure Exchange where
  acts : List Act
  elapsed : Duration
  result : Except ProbeError Duration

namespace Exchange

/-- A call failed before anything was sent. -/
def refused (acts : List Act) (e : SystemError) : Exchange := ⟨acts, .zero, .error (.ofSystem e)⟩

/-- The same with something done before it. -/
def after (acts : List Act) (x : Exchange) : Exchange := { x with acts := acts ++ x.acts }

end Exchange

/-- Waits for the reply. Every read waits for the whole timeout, and `last` is the time of the read
before. -/
def waitForReply (accepts : List UInt8 → Bool) (timeout last : Duration) : List Arrival → Exchange
  | [] => ⟨[.received], last + timeout, .error (.timeout timeout)⟩
  | a :: rest =>
    match a.data with
    | .error e =>
      ⟨[.received], a.after, .error (if e.isTimeout then .timeout timeout else .ofSystem e)⟩
    | .ok data =>
      if last + timeout < a.after then ⟨[.received], last + timeout, .error (.timeout timeout)⟩
      else if timeout ≤ a.after then ⟨[.received], a.after, .error (.timeout timeout)⟩
      else if accepts (data.take bufferLength) then ⟨[.received], a.after, .ok a.after⟩
      else (waitForReply accepts timeout a.after rest).after [.received]

/-- An echo over a socket that was opened. -/
def exchange (h : EchoHost) (type : SocketType) (v6 : Bool) (i : Identity) (now : Instant)
    (timeout : Duration) : Exchange :=
  match h.refusal? with
  | some e => .refused [] e
  | none =>
    let packet := request v6 i now
    (waitForReply (isReply v6 i (type == .raw)) timeout .zero (h.arrivals packet)).after
      [.sent packet]

/-- One echo to an address over whichever socket can be had. -/
def ping (h : EchoHost) (ip : Ip) (i : Identity) (now : Instant) (timeout : Duration) : Exchange :=
  match h.raw with
  | none => (exchange h .raw ip.isV6 i now timeout).after [.socket .raw ip.isV6]
  | some _ =>
    let opened := [Act.socket .raw ip.isV6, Act.socket .datagram ip.isV6]
    match h.datagram with
    | none => (exchange h .datagram ip.isV6 i now timeout).after opened
    | some e => .refused opened e

/-- Whether echo sockets are to be had at all. -/
inductive Capability where
  | native
  | commandOnly
deriving DecidableEq, Repr

/-- Tries both kinds of sockets and tells the log what was found. -/
def detect (h : EchoHost) : Capability × List Act × Log.Entry :=
  let note (text : String) : Log.Entry :=
    { level := .info, source := .ping, message := "ICMP probe: " ++ text }
  match h.raw, h.datagram with
  | none, _ => (.native, [.socket .raw false], note "using native ICMP (RAW socket, privileged)")
  | some _, none =>
    (.native, [.socket .raw false, .socket .datagram false],
      note "using native ICMP (DGRAM socket, unprivileged)")
  | some _, some _ =>
    (.commandOnly, [.socket .raw false, .socket .datagram false],
      note "native ICMP unavailable, using command fallback")

/-- A command of the outside world. -/
abbrev CommandHost := List String → CommandRun

/-- An attempt: what was done, what was logged, and the round-trip time, unless it broke off. -/
structure Attempt where
  acts : List Act
  log : List Log.Entry := []
  result : Option (Except ProbeError Duration)

namespace Attempt

variable (acts : List Act) (log : List Log.Entry) (a : Attempt)

/-- The same with something done and logged before it. -/
def after : Attempt := { a with acts := acts ++ a.acts, log := log ++ a.log }

@[simp] theorem acts_after : (a.after acts log).acts = acts ++ a.acts := rfl

@[simp] theorem result_after : (a.after acts log).result = a.result := rfl

end Attempt

/-- One echo by the `ping` command. A command that cannot be run was not run. Without room for the
time to wait it breaks off before the run, and there is no result. -/
def pingCommand (c : CommandHost) (ip : Ip) (timeout : Duration) : Attempt :=
  if Command.hasRoom timeout then
    let arguments := Command.arguments ip timeout
    let run := c arguments
    let acts := match run with
      | .refused _ => []
      | .ended _ | .unfinished => [Act.command arguments]
    { acts, result := some (Command.result timeout run) }
  else { acts := [], result := none }

/-- What is made of an echo over a socket: one that is not permitted leaves it to the command. -/
def settle (c : CommandHost) (ip : Ip) (timeout : Duration) (acts : List Act) :
    Except ProbeError Duration → Attempt
  | .error (.permissionDenied reason) =>
    let message := "Native ping to " ++ ip.text ++
      " not permitted, falling back to command: " ++ reason
    (pingCommand c ip timeout).after acts [{ level := .warn, source := .ping, message }]
  | result => { acts, result := some result }

/-- One echo in whichever way can be had. The command is the way out where sockets cannot be had
from the start or are not permitted now. -/
def attempt (known : Capability) (h : EchoHost) (c : CommandHost) (ip : Ip) (i : Identity)
    (now : Instant) (timeout : Duration) : Attempt :=
  match known with
  | .commandOnly => pingCommand c ip timeout
  | .native =>
    let x := ping h ip i now timeout
    settle c ip timeout x.acts (awaitReply timeout ⟨x.elapsed, some x.result⟩).result

end Uptime.Icmp
