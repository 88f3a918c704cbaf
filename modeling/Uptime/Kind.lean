import Uptime.Text.Blank

/-!
# Protocol kinds

The protocol by which a target is checked, and the choices that hang on it: how its host is looked
up and which probe runs. `Kind.name` and `Kind.named?` are inverse (`named?_name`); `Kind.read?`
also takes blanks around the word and any letter case.
-/

namespace Uptime

/-- The protocol by which a target is checked. -/
inductive Kind where
  | http
  | tcp
  | udp
  | icmp
  | grpc
deriving DecidableEq, Repr

namespace Kind

/-- All kinds. -/
def all : List Kind := [.http, .tcp, .udp, .icmp, .grpc]

/-- The word for a kind. -/
def name : Kind → String
  | .http => "http"
  | .tcp => "tcp"
  | .udp => "udp"
  | .icmp => "icmp"
  | .grpc => "grpc"

/-- The kind with exactly this word. -/
def named? (s : String) : Option Kind := all.find? (·.name == s)

/-- The word is trimmed and put in lower case before it is looked up; the word that was looked up
is given back if there is no such kind. -/
def read (s : String) : Except String Kind :=
  let word := s.trimBlanks.asciiLower
  match named? word with
  | some kind => .ok kind
  | none => .error word

/-- What is said about a word that names no kind. -/
def unknownMessage (word : String) : String := "unknown protocol kind: " ++ word

theorem named?_name (k : Kind) : named? k.name = some k := by cases k <;> decide

theorem name_of_named? {s : String} {k : Kind} (h : named? s = some k) : k.name = s := by
  simpa using List.find?_some h

end Kind

/-- How a host is looked up. -/
inductive Lookup where
  /-- The resolver is always asked. -/
  | host
  /-- An address that is written out is taken as it is. -/
  | ip
deriving DecidableEq, Repr

/-- TCP targets ask the resolver even for written-out addresses. -/
def Kind.lookup : Kind → Lookup
  | .tcp => .host
  | _ => .ip

/-- The transport of a socket probe. -/
inductive Transport where
  | tcp
  | udp
deriving DecidableEq, Repr

/-- The word for a transport. -/
def Transport.name : Transport → String
  | .tcp => "tcp"
  | .udp => "udp"

/-- The ways to check a target. -/
inductive Probe where
  | http
  | socket (transport : Transport)
  | icmp
  | grpc
deriving DecidableEq, Repr

/-- The way to check targets of a kind. -/
def Kind.probe : Kind → Probe
  | .http => .http
  | .tcp => .socket .tcp
  | .udp => .socket .udp
  | .icmp => .icmp
  | .grpc => .grpc

/-- The name under which a way to check is listed. -/
def Probe.name : Probe → String
  | .http => "Http"
  | .socket .tcp => "Socket(Tcp)"
  | .socket .udp => "Socket(Udp)"
  | .icmp => "Icmp"
  | .grpc => "Grpc"

end Uptime
