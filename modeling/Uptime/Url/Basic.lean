import Uptime.Net.Ip

/-!
# Addresses of the web

An address has a scheme, perhaps a user, a host and a port, a path, and perhaps a query and a
fragment. All parts are kept as they are written, so the text of an address is its parts with their
marks.
-/

namespace Uptime

namespace Url

/-- A host. -/
inductive Host where
  | domain (name : List Char)
  | ip (address : Ip)
deriving DecidableEq, Repr

/-- The text of a host; an address of the second family stands in brackets and is written in groups
throughout. -/
def Host.text : Host → List Char
  | .domain name => name
  | .ip (.v4 o) => Ip.octetsText o
  | .ip (.v6 gs) => '[' :: Ip.compressed gs.toList ++ [']']

/-- The text of a host without brackets. -/
def Host.bare (h : Host) : List Char :=
  let cs := h.text.dropWhile (· == '[')
  (cs.reverse.dropWhile (· == ']')).reverse

/-- A path. -/
inductive Path where
  /-- The parts between slashes. -/
  | segments (parts : List (List Char))
  /-- A text without structure. -/
  | plain (text : List Char)
deriving DecidableEq, Repr

/-- The text of a path; there is a slash before each part. -/
def Path.text : Path → List Char
  | .segments parts => parts.flatMap fun p => '/' :: p
  | .plain text => text

end Url

/-- An address of the web. -/
structure Url where
  scheme : List Char
  user : List Char := []
  password : List Char := []
  host : Option Url.Host := none
  /-- The port, unless it is that of the scheme. -/
  port : Option UInt16 := none
  path : Url.Path
  query : Option (List Char) := none
  fragment : Option (List Char) := none
  /-- Whether two slashes stand before the host even where there is none. -/
  slashes : Bool := true
deriving DecidableEq, Repr

namespace Url

/-- The kinds of schemes that are read in different ways. -/
inductive SchemeKind where
  /-- Schemes of the web, which need a host. -/
  | web
  | file
  | other
deriving DecidableEq, Repr

/-- The kind of a scheme. -/
def schemeKind (scheme : List Char) : SchemeKind :=
  match String.ofList scheme with
  | "http" | "https" | "ws" | "wss" | "ftp" => .web
  | "file" => .file
  | _ => .other

/-- The port that a scheme has by itself. -/
def defaultPort (scheme : List Char) : Option UInt16 :=
  match String.ofList scheme with
  | "http" | "ws" => some 80
  | "https" | "wss" => some 443
  | "ftp" => some 21
  | _ => none

/-- User and password, if there are any, with the sign after them. -/
def credentialsText (u : Url) : List Char :=
  if u.user.isEmpty && u.password.isEmpty then []
  else u.user ++ (if u.password.isEmpty then [] else ':' :: u.password) ++ ['@']

/-- The part with the host. A path that begins with two slashes is kept apart from it. -/
def authorityText (u : Url) : List Char :=
  if u.slashes then
    '/' :: '/' :: u.credentialsText ++ ((u.host.map Host.text).getD []) ++
      (match u.port with
        | some p => ':' :: Number.digits p.toNat
        | none => [])
  else match u.path with
    | .segments ([] :: _ :: _) => ['/', '.']
    | _ => []

/-- The text of an address. -/
def text (u : Url) : List Char :=
  u.scheme ++ ':' :: u.authorityText ++ u.path.text ++
    (match u.query with
      | some q => '?' :: q
      | none => []) ++
    (match u.fragment with
      | some f => '#' :: f
      | none => [])

/-- The same address without user and password. -/
def withoutCredentials (u : Url) : Url := { u with user := [], password := [] }

end Url

end Uptime
