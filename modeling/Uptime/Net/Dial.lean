import Uptime.Net.Resolver
import Uptime.Text.Blank

/-!
# Dialling

The text that is dialled is the host alone without a port, else host and port with a colon between
them; an address of the second family is put in brackets then. Dialling turns the text into
endpoints and connects to them.
-/

namespace Uptime

/-- The text to dial; port 0 is none. -/
def dialText (address : String) (port : Option UInt16) : String :=
  match port with
  | none => address
  | some p =>
    if p = 0 then address
    else
      let port := String.ofList (Number.digits p.toNat)
      if Resolver.isV6Text address then "[" ++ address ++ "]:" ++ port else address ++ ":" ++ port

/-- The port of a dialled text: decimal digits, with an optional plus sign. -/
def dialPort? (cs : List Char) : Option UInt16 :=
  let ds := match cs with
    | '+' :: rest => rest
    | _ => cs
  match Ip.number? 10 ds.length 65535 true ds with
  | some (n, []) => some (UInt16.ofNat n)
  | _ => none

/-- The endpoints that a dialled text names. The text is an address with a port, or a host for the
resolver and a port after the last colon. -/
def Resolver.endpoints (r : Resolver) (text : String) : Except SystemError (List Endpoint) :=
  match Endpoint.read? text.toList with
  | some e => .ok [e]
  | none =>
    match Text.cutLast? (· = ':') text.toList with
    | none => .error (.other "invalid socket address")
    | some (host, port) =>
      match dialPort? port with
      | none => .error (.other "invalid port value")
      | some p => (r.ask (String.ofList host)).map fun ips => ips.map (⟨·, p⟩)

/-- Whether a connection to an endpoint comes about. -/
abbrev Connector := Endpoint → Option SystemError

/-- Tries the endpoints in turn until one accepts; the error is that of the last one. -/
def Connector.first (c : Connector) : List Endpoint → Except SystemError Endpoint
  | [] => .error (.other "could not resolve to any address")
  | e :: es =>
    match c e with
    | none => .ok e
    | some failure =>
      match es with
      | [] => .error failure
      | _ => c.first es

end Uptime
