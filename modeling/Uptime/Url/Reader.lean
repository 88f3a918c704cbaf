import Uptime.Url.Host

/-!
# Reading addresses

Blanks and control characters around an address and tabs and line ends within it are skipped. In
schemes of the web and in `file` a backslash is as good as a slash. Parts of a path that are a point
are dropped, and those that are two points take the part before with them.
-/

namespace Uptime.Url

/-- A text without the control characters and blanks around it, and without tabs and line ends. -/
def cleaned (cs : List Char) : List Char :=
  let skipped (c : Char) : Bool := c.toNat ≤ 32
  let cs := cs.dropWhile skipped
  let cs := (cs.reverse.dropWhile skipped).reverse
  cs.filter fun c => c ≠ '\t' && c ≠ '\n' && c ≠ '\r'

/-- The scheme at the front in lower case, and what follows its colon. -/
def scheme? (cs : List Char) : Option (List Char × List Char) :=
  let isPart (c : Char) : Bool := c.isAlphanum || c = '+' || c = '-' || c = '.'
  match cs with
  | c :: _ =>
    if c.isAlpha then
      match cs.dropWhile isPart with
      | ':' :: rest => some ((cs.takeWhile isPart).map Char.toLower, rest)
      | _ => none
    else none
  | [] => none

/-- Whether a character separates the parts of a path. -/
def isSlash (kind : SchemeKind) (c : Char) : Bool := c = '/' || (kind ≠ .other && c = '\\')

/-- Whether a character ends the part with user, host and port. -/
def endsAuthority (kind : SchemeKind) (c : Char) : Bool := isSlash kind c || c = '?' || c = '#'

/-! ## User and host -/

/-- User and password of the part with the host, and the rest of it. What stands before the last `@`
belongs to the user. -/
def credentials (authority : List Char) : List Char × List Char × List Char :=
  match Text.cutLast? (· = '@') authority with
  | none => ([], [], authority)
  | some (before, rest) =>
    let user := before.takeWhile (· != ':')
    let password := (before.dropWhile (· != ':')).drop 1
    (percentText .user user, percentText .user password, rest)

/-- The parts before and after the colon that ends a host; within brackets a colon does not. -/
def cutPort (inBrackets : Bool) : List Char → List Char × Option (List Char)
  | [] => ([], none)
  | c :: cs =>
    if c = ':' && !inBrackets then ([], some cs)
    else
      let inside := if c = '[' then true else if c = ']' then false else inBrackets
      let (host, port) := cutPort inside cs
      (c :: host, port)

/-- The port in digits, if it is one; `some none` is none or that of the scheme. -/
def port? (scheme : List Char) : Option (List Char) → Option (Option UInt16)
  | none => some none
  | some ds =>
    if !ds.all Char.isDigit then none
    else
      let n := Number.ofDigits ds
      if 65535 < n then none
      else
        let port := UInt16.ofNat n
        some (if ds.isEmpty || some port = defaultPort scheme then none else some port)

/-! ## Paths -/

/-- The pieces of a path between slashes. -/
def pieces (kind : SchemeKind) (cs : List Char) : List (List Char) := Text.pieces (isSlash kind) cs

/-- Whether a part of a path is a point, however it is written. -/
def isDot (p : List Char) : Bool :=
  p = ['.'] || (String.ofList p).asciiLower = "%2e"

/-- Whether a part of a path is two points, however they are written. -/
def isDoubleDot (p : List Char) : Bool :=
  ["..", ".%2e", "%2e.", "%2e%2e"].contains (String.ofList p).asciiLower

/-- Whether a part of a path names a drive: a letter and a colon or a bar. -/
def isDrive : List Char → Bool
  | [c, d] => c.isAlpha && (d = ':' || d = '|')
  | _ => false

/-- The parts without the last one; a drive at the beginning of the path of a file stays. -/
def shortened (kind : SchemeKind) (done : List (List Char)) : List (List Char) :=
  match kind, done with
  | .file, [p] => if isDrive p then done else []
  | _, _ => done.dropLast

/-- Takes pieces into the parts of a path that are done. -/
def takePieces (kind : SchemeKind) (done : List (List Char)) : List (List Char) → List (List Char)
  | [] => done
  | p :: ps =>
    let p := percentText .path p
    let last := ps.isEmpty
    if isDoubleDot p then
      let done := shortened kind done
      takePieces kind (if last then done ++ [[]] else done) ps
    else if isDot p then takePieces kind (if last then done ++ [[]] else done) ps
    else
      let p := match kind, done, p with
        | .file, [], [c, _] => if isDrive p then [c, ':'] else p
        | _, _, _ => p
      takePieces kind (done ++ [p]) ps

/-- The parts of a path whose first slash was taken. -/
def segmentsOf (kind : SchemeKind) (cs : List Char) : List (List Char) :=
  let parts := takePieces kind [] (pieces kind cs)
  match kind with
  | .file =>
    let rest := parts.dropWhile List.isEmpty
    if rest.isEmpty then [[]] else rest
  | _ => parts

/-! ## Whole addresses -/

/-- What follows the question mark and the number sign. -/
structure Tail where
  body : List Char
  query : Option (List Char)
  fragment : Option (List Char)

/-- Cuts query and fragment off. -/
def Tail.of (kind : SchemeKind) (cs : List Char) : Tail :=
  let (before, fragment) := match Text.cut? (· = '#') cs with
    | some (b, f) => (b, some (percentText .fragment f))
    | none => (cs, none)
  let (body, query) := match Text.cut? (· = '?') before with
    | some (b, q) => (b, some (percentText (if kind = .other then .query else .webQuery) q))
    | none => (before, none)
  ⟨body, query, fragment⟩

/-- The path after the part with the host. Schemes of the web have at least a slash. -/
def pathAfterHost (kind : SchemeKind) (cs : List Char) : List (List Char) :=
  match cs with
  | [] => if kind = .other then [] else segmentsOf kind []
  | c :: rest => if isSlash kind c then segmentsOf kind rest else segmentsOf kind cs

/-- An address whose two slashes were taken. -/
def afterSlashes? (scheme : List Char) (kind : SchemeKind) (cs : List Char) : Option Url :=
  let t := Tail.of kind cs
  let authority := t.body.takeWhile fun c => !endsAuthority kind c
  let rest := t.body.dropWhile fun c => !endsAuthority kind c
  let (user, password, hostAndPort) := credentials authority
  let nothingAfterSign := authority = ['@'] &&
    (!rest.isEmpty || t.query.isSome || t.fragment.isSome)
  let (host, port) := cutPort false hostAndPort
  let named := !(user.isEmpty && password.isEmpty)
  match if kind = .web then (webHost? host).map some else otherHost? host with
  | none => none
  | some h =>
    if nothingAfterSign || (h.isNone && (named || port.isSome)) then none
    else
      match port? scheme port with
      | none => none
      | some p =>
        some { scheme, user, password, host := h, port := p,
               path := .segments (pathAfterHost kind rest)
               query := t.query, fragment := t.fragment }

/-- An address of a file. -/
def file? (scheme cs : List Char) : Option Url :=
  let t := Tail.of .file cs
  let made (host : Option Host) (path : List (List Char)) : Url :=
    { scheme, host, path := .segments path, query := t.query, fragment := t.fragment }
  match t.body with
  | c :: d :: rest =>
    if isSlash .file c && isSlash .file d then
      let name := rest.takeWhile fun c => !isSlash .file c
      let path := rest.dropWhile fun c => !isSlash .file c
      if isDrive name then some (made none (segmentsOf .file rest))
      else if name.isEmpty then some (made none (pathAfterHost .file path))
      else match webHost? name with
        | none => none
        | some (.domain ['l', 'o', 'c', 'a', 'l', 'h', 'o', 's', 't']) =>
          some (made none (pathAfterHost .file path))
        | some host =>
          let parts := pathAfterHost .file path
          let host := match parts with
            | p :: _ => if isDrive p then none else some host
            | [] => some host
          some (made host parts)
    else some (made none (pathAfterHost .file t.body))
  | _ => some (made none (pathAfterHost .file t.body))

/-- An address of a scheme of its own. -/
def other? (scheme cs : List Char) : Option Url :=
  match cs with
  | '/' :: '/' :: rest => afterSlashes? scheme .other rest
  | _ =>
    let t := Tail.of .other cs
    let path : Path := match t.body with
      | '/' :: rest => .segments (segmentsOf .other rest)
      | body => .plain (percentText .control body)
    some { scheme, path, query := t.query, fragment := t.fragment, slashes := false }

/-- Reads a whole text as an address. -/
def read? (cs : List Char) : Option Url :=
  match scheme? (cleaned cs) with
  | none => none
  | some (scheme, rest) =>
    match schemeKind scheme with
    | .web => afterSlashes? scheme .web (rest.dropWhile fun c => c = '/' || c = '\\')
    | .file => file? scheme rest
    | .other => other? scheme rest

end Uptime.Url
