import Uptime.Kind
import Uptime.Net.Ip
import Uptime.Probe.Error

/-!
# Resolving host names

A resolver answers a name with addresses or a reason why it has none. A host that is an IP address
is taken as it is and never reaches it.
-/

namespace Uptime

/-- Why the resolver has no answer. -/
inductive LookupFailure where
  | unknownName
  | temporary
  | permanent
deriving DecidableEq, Repr

/-- The words for a failed lookup. -/
def LookupFailure.reason : LookupFailure → String
  | .unknownName => "Name or service not known"
  | .temporary => "Temporary failure in name resolution"
  | .permanent => "Non-recoverable failure in name resolution"

/-- What the resolver answers to a name. -/
abbrev Resolver := String → Except LookupFailure (List Ip)

namespace Resolver

/-- What is said about a failed lookup. -/
def failureText (f : LookupFailure) : String :=
  "failed to lookup address information: " ++ f.reason

/-- Asks for a name. A name with a NUL character cannot be asked for. -/
def ask (r : Resolver) (host : String) : Except SystemError (List Ip) :=
  if host.toList.contains '\x00' then
    .error (.other "file name contained an unexpected NUL byte")
  else (r host).mapError fun f => .other (failureText f)

/-- The addresses of a host: an address is its own. -/
def addresses (r : Resolver) (host : String) : Except SystemError (List Ip) :=
  match Ip.read? host.toList with
  | some ip => .ok [ip]
  | none => r.ask host

/-- The addresses of a host, of which there must be one. The two ways of looking up differ only in
that one leaves it to the resolver's side to recognise an address. -/
def resolve (r : Resolver) (host : String) (lookup : Lookup) : Except ProbeError (List Ip) :=
  let literal : Option Ip :=
    match lookup with
    | .ip => Ip.read? host.toList
    | .host => none
  match literal with
  | some ip => .ok [ip]
  | none =>
    if host.isEmpty then .error (.resolve host "empty host")
    else match r.addresses host with
      | .error e => .error (.resolve host e.message)
      | .ok [] => .error (.resolve host "no addresses found")
      | .ok ips => .ok ips

/-- Texts with two or more colons are addresses of the second family. -/
def isV6Text (address : String) : Bool := 2 ≤ address.toList.count ':'

/-- The address to which an echo request for a host is sent: the first one of the family that the
text of the host implies. -/
def echoAddress (r : Resolver) (host : String) : Except ProbeError Ip :=
  let wanted (ip : Ip) : Bool := ip.isV6 == isV6Text host
  match (Ip.read? host.toList).filter wanted with
  | some ip => .ok ip
  | none =>
    match r.addresses host with
    | .error e => .error (.network ("lookup " ++ host ++ ": " ++ e.message))
    | .ok ips =>
      match ips.find? wanted with
      | some ip => .ok ip
      | none =>
        let family := if isV6Text host then "IPv6" else "IPv4"
        .error (.network ("no " ++ family ++ " address found for " ++ host))

end Resolver

end Uptime
