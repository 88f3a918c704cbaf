import Uptime.Text.Blank

/-!
# Request targets on the wire

Before a request is sent its address is checked once more, byte by byte, by rules that are stricter
than those by which addresses are read: an authority up to the first slash, question mark or hash,
and a path with perhaps a query. The authority names the host, and perhaps a port.
-/

namespace Uptime.Uri

/-- Why an address cannot be sent to. -/
inductive Refusal where
  | tooLong
  | character
  | authority
  | format
deriving DecidableEq, Repr

/-- What is said about the refusal. -/
def Refusal.message : Refusal → String
  | .tooLong => "uri too long"
  | .character => "invalid uri character"
  | .authority => "invalid authority"
  | .format => "invalid format"

/-- The most bytes that an address may have. -/
def maxLength : Nat := 65534

/-- Whether a byte may stand in an authority without further conditions. -/
def isAuthorityByte (b : UInt8) : Bool :=
  b < 128 && (let c := Char.ofNat b.toNat; c.isAlphanum || "!$&'()*+,-.;=_~".toList.contains c)

/-- Whether a byte may stand in a path. -/
def isPathByte (b : UInt8) : Bool :=
  b == 0x21 || (0x24 ≤ b && b ≤ 0x3b) || b == 0x3d || (0x40 ≤ b && b ≤ 0x5f) ||
    (0x61 ≤ b && b ≤ 0x7e) || 0x7f ≤ b || b == 0x22

/-- Whether a byte may stand in a query. -/
def isQueryByte (b : UInt8) : Bool :=
  b == 0x21 || (0x24 ≤ b && b ≤ 0x3b) || b == 0x3d || 0x3f ≤ b

/-- What has been seen of an authority. -/
structure Seen where
  /-- The colons since the last mark that ends the user or an address in brackets. -/
  colons : Nat := 0
  opened : Bool := false
  closed : Bool := false
  /-- Whether there was a percent sign since that mark. -/
  percent : Bool := false
  /-- Whether the last byte was the mark after the user. -/
  atSign : Bool := false
deriving DecidableEq, Repr

/-- The most colons that there may be between two marks. -/
def maxColons : Nat := 8

/-- Takes one more byte. -/
def Seen.step (s : Seen) (b : UInt8) : Except Refusal Seen :=
  let s := { s with atSign := false }
  match Char.ofNat b.toNat with
  | ':' => if maxColons ≤ s.colons then .error .authority else .ok { s with colons := s.colons + 1 }
  | '[' => if s.percent || s.opened then .error .authority else .ok { s with opened := true }
  | ']' =>
    if !s.opened || s.closed then .error .authority
    else .ok { s with closed := true, colons := 0, percent := false }
  | '@' => .ok { s with colons := 0, percent := false, atSign := true }
  | '%' => .ok { s with percent := true }
  | _ => if isAuthorityByte b then .ok s else .error .character

/-- Whether the authority may end here. -/
def Seen.isComplete (s : Seen) : Bool :=
  s.opened == s.closed && s.colons ≤ 1 && !s.atSign && !s.percent

/-- Whether a byte ends the authority. -/
def endsAuthority (b : UInt8) : Bool := b == 0x2f || b == 0x3f || b == 0x23

/-- Checks an authority. -/
def checkAuthority (bs : List UInt8) : Except Refusal Unit :=
  match bs.foldlM Seen.step {} with
  | .error e => .error e
  | .ok s => if s.isComplete then .ok () else .error .authority

/-- Checks what follows the authority; a fragment does not count. -/
def checkPath (bs : List UInt8) : Except Refusal Unit :=
  let body := bs.takeWhile (· != 0x23)
  let path := body.takeWhile (· != 0x3f)
  let query := (body.dropWhile (· != 0x3f)).drop 1
  if path.all isPathByte && query.all isQueryByte then .ok () else .error .character

/-- The authority of an address whose scheme is followed by `rest`. -/
def authority? (scheme rest : String) : Except Refusal (List UInt8) :=
  let bytes := rest.toUTF8.toList
  if maxLength < scheme.utf8ByteSize + 3 + bytes.length then .error .tooLong
  else
    let authority := bytes.takeWhile fun b => !endsAuthority b
    match checkAuthority authority with
    | .error e => .error e
    | .ok () =>
      if authority.isEmpty then .error .format
      else (checkPath (bytes.drop authority.length)).map fun _ => authority

/-- The characters of an authority; all of them are ASCII. -/
def characters (authority : List UInt8) : List Char := authority.map fun b => Char.ofNat b.toNat

/-- The host of an authority, with the brackets if it has any. -/
def host (authority : List UInt8) : List Char :=
  let text := characters authority
  let place := match Text.cutLast? (· = '@') text with
    | some (_, place) => place
    | none => text
  match place with
  | '[' :: _ => place.takeWhile (· ≠ ']') ++ [']']
  | _ => place.takeWhile (· ≠ ':')

end Uptime.Uri
