import Uptime.Net.Network
import Uptime.Net.Uri

/-!
# Channels to services

A channel leads to the host and the port that the authority of its address names. A secured channel
needs a host that can stand in a certificate: a name of labels, or an address. Connecting tries the
addresses of one family before those of the other, beginning with that of the first address.
-/

namespace Uptime.Grpc

/-- Why a channel does not come about. -/
inductive ChannelError where
  | address (why : Uri.Refusal)
  /-- The host cannot stand in a certificate. -/
  | name
  | lookup (e : SystemError)
  | connect (e : SystemError)

/-- What is said about the error, with all that is behind it. -/
def ChannelError.message : ChannelError → String
  | .address why => ProbeError.chain ["invalid URI", why.message]
  | .name => ProbeError.chain ["transport error", "invalid dns name"]
  | .lookup e => ProbeError.chain ["transport error", "dns error", "dns error", e.message]
  | .connect e =>
    ProbeError.chain ["transport error", "tcp connect error", "tcp connect error", e.message]

/-! ## Names in certificates -/

/-- Whether a character may stand in a label. -/
def isLabelChar (c : Char) : Bool := c.isAlphanum || c = '-' || c = '_'

/-- Whether a text is a label: up to 63 letters, digits, hyphens and underscores, with no hyphen at
either end. -/
def isLabel (cs : List Char) : Bool :=
  !cs.isEmpty && cs.length ≤ 63 && cs.all isLabelChar && cs.head? != some '-' &&
    cs.getLast? != some '-'

/-- Whether a text is a name of labels with points between them, of which the last is not a number;
one more point may follow. -/
def isName (cs : List Char) : Bool :=
  let labels := Text.pieces (· = '.') cs
  let labels := if labels.length > 1 && labels.getLast? = some [] then labels.dropLast else labels
  cs.length ≤ 253 && labels.all isLabel &&
    (match labels.getLast? with
      | some last => !last.all Char.isDigit
      | none => false)

/-- Whether a host can stand in a certificate. -/
def isCertifiable (host : String) : Bool :=
  isName host.toList || (Ip.read? host.toList).isSome

/-! ## Connecting -/

/-- The host of an authority without brackets. -/
def bareHost (authority : List UInt8) : List Char :=
  let cs := (Uri.host authority).dropWhile (· = '[')
  (cs.reverse.dropWhile (· = ']')).reverse

/-- The port of an authority; it depends on security if there is none. -/
def port (secure : Bool) (authority : List UInt8) : UInt16 :=
  match (Text.cutLast? (· = ':') (Uri.characters authority)).bind fun p => dialPort? p.2 with
  | some p => p
  | none => if secure then 443 else 80

/-- The addresses in the order in which they are tried. -/
def tried : List Ip → List Ip
  | [] => []
  | ip :: ips =>
    let same := (ip :: ips).filter fun i => i.isV6 == ip.isV6
    let others := ips.filter fun i => i.isV6 != ip.isV6
    same ++ others

/-- Why no address could be connected to, where there is none. -/
def noAddress : SystemError := .other "Network unreachable"

/-- Connects to the first endpoint that accepts. -/
def connect (n : Network) (endpoints : List Endpoint) : Except ChannelError Endpoint :=
  match endpoints with
  | [] => .error (.connect noAddress)
  | _ => (n.tcp.first endpoints).mapError .connect

/-- The authority of the channel to a host and a port, checked. -/
def authority? (secure : Bool) (host : String) (port : Option UInt16) :
    Except ChannelError (List UInt8) :=
  match Uri.authority? (if secure then "https" else "http") (dialText host port) with
  | .error why => .error (.address why)
  | .ok authority => if secure && !isCertifiable host then .error .name else .ok authority

/-- Opens a channel to an authority. -/
def dial (r : Resolver) (n : Network) (secure : Bool) (authority : List UInt8) :
    Except ChannelError Endpoint :=
  match r.addresses (String.ofList (bareHost authority)) with
  | .error e => .error (.lookup e)
  | .ok ips => connect n ((tried ips).map fun ip => ⟨ip, port secure authority⟩)

end Uptime.Grpc
