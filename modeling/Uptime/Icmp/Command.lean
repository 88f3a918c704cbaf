import Uptime.Icmp.PingText
import Uptime.Net.Ip
import Uptime.Text.Utf8

/-!
# The `ping` command

Where echo sockets are not to be had, the `ping` command is run for one echo.
-/

namespace Uptime.Icmp

/-- What a command that ended has left. -/
structure CommandOutput where
  stdout : List UInt8 := []
  stderr : List UInt8 := []
  /-- The exit status; zero is success. -/
  code : Int := 0

/-- How the run of a command ends. -/
inductive CommandRun where
  /-- It cannot be run. -/
  | refused (e : SystemError)
  | ended (output : CommandOutput)
  /-- It does not end in time. -/
  | unfinished

namespace Command

/-- The arguments for one echo to an address; the command waits for whole seconds, at least one. -/
def arguments (ip : Ip) (timeout : Duration) : List String :=
  [if ip.isV6 then "-6" else "-4", "-c", "1", "-W",
   String.ofList (Number.digits (max 1 timeout.seconds)), ip.text]

/-- Whether there is room for the time that the run of the command is waited for, which is a second
more than the timeout. -/
def hasRoom (timeout : Duration) : Bool := (timeout + .ofSeconds 1).isHeld

/-- What a command that failed says. -/
def complaint (stdout stderr : List Char) : String :=
  String.ofList (Text.trim (Text.trim stdout ++ ' ' :: Text.trim stderr))

/-- The round-trip time that the run of the command comes to. -/
def result (timeout : Duration) : CommandRun → Except ProbeError Duration
  | .refused e => .error (.command ("failed to execute ping: " ++ e.message))
  | .unfinished => .error (.timeout timeout)
  | .ended o =>
    let stdout := Text.Utf8.decodeLossy o.stdout
    let stderr := Text.Utf8.decodeLossy o.stderr
    if o.code = 0 then PingText.read (String.ofList stdout)
    else if Text.occursIn "timeout".toList stderr ||
        Text.occursIn "100% packet loss".toList stdout then .error (.timeout timeout)
    else .error (.command ("ping failed: " ++ complaint stdout stderr))

end Command

end Uptime.Icmp
