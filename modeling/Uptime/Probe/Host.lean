import Uptime.Log
import Uptime.Net.Resolver
import Uptime.Target
import Uptime.Text.Blank
import Uptime.Url.Reader

/-!
# The host of a target

A socket target's address is its host. The address of an HTTP or ICMP target may be one of the web,
and then its host counts; so may that of a gRPC target if it has a scheme. Whatever cannot be read
as such an address is taken as the host itself.
-/

namespace Uptime

/-- Whether the address of a target is read as one of the web. -/
def Target.mayBeUrl (t : Target) : Bool :=
  match t.kind with
  | .tcp | .udp => false
  | .grpc => Text.occursIn "://".toList t.address.toList
  | .http | .icmp => true

/-- The host of a target, and the warning about an address that cannot be read. -/
def Target.hostAndLog (t : Target) : String × List Log.Entry :=
  if t.mayBeUrl then
    match Url.read? t.address.toList with
    | some u =>
      match u.host with
      | some h => (String.ofList h.bare, [])
      | none => (t.address, [])
    | none =>
      let message := "GRPC Service: '" ++ t.name ++ "', Unable to parse URL '" ++ t.address ++ "'"
      (t.address, if t.kind = .grpc then [{ level := .warn, source := .names, message }] else [])
  else (t.address, [])

/-- The host of a target. -/
def Target.host (t : Target) : String := t.hostAndLog.1

/-- Whether the host of a target has an address. -/
def Target.lookup (t : Target) (r : Resolver) : Except ProbeError (List Ip) :=
  r.resolve t.host t.kind.lookup

end Uptime
