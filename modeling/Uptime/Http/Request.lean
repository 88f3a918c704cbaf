import Uptime.Http.Headers
import Uptime.Net.Uri
import Uptime.Target
import Uptime.Url.Reader

/-!
# Requests

The request that a target asks for. A blank method is `GET`; one that posts carries the configured
data and says that they are JSON, beside whatever else is configured. An address is sent to if it is
one of the web, has a host, and can go on the wire.
-/

namespace Uptime.Http

/-- Why a request comes to nothing. -/
inductive RequestError where
  /-- No client could be set up. -/
  | client
  | method
  /-- The address cannot be read. -/
  | address
  /-- The address cannot be sent to. -/
  | unsendable (url : String)
  /-- The request was not sent or not answered. -/
  | exchange (url : String)
  /-- The answer leads elsewhere, and not to an end. -/
  | redirect (url : String)
  /-- The body of the answer breaks off. -/
  | body
deriving DecidableEq, Repr

/-- What is said about the error. -/
def RequestError.message : RequestError → String
  | .client => "builder error"
  | .method => "invalid HTTP method"
  | .address => "builder error"
  | .unsendable url => "builder error for url (" ++ url ++ ")"
  | .exchange url => "error sending request for url (" ++ url ++ ")"
  | .redirect url => "error following redirect for url (" ++ url ++ ")"
  | .body => "error decoding response body"

/-- The method of a target. -/
def method? (text : String) : Except RequestError String :=
  let word := text.trimBlanks.asciiUpper
  if word.isEmpty then .ok "GET"
  else if word.toList.all isTokenChar then .ok word
  else .error .method

/-- The user and the password, if there is one, that an address names. Percent signs are read, and
what is not UTF-8 then is not taken. -/
def credentials? (u : Url) : Option (String × Option String) :=
  match Text.Utf8.decode? (Url.percentDecode u.user) with
  | none => none
  | some user =>
    let password := if u.password.isEmpty then none
      else Text.Utf8.decode? (Url.percentDecode u.password)
    if user.isEmpty && password.isNone then none
    else some (String.ofList user, password.map String.ofList)

/-- A request. -/
structure Request where
  method : String
  /-- The address without user and password. -/
  url : Url
  credentials : Option (String × Option String) := none
  headers : Headers
  body : Option String
deriving DecidableEq, Repr

namespace Request

/-- The name of the header field for the type of a body. -/
def contentType : String := "content-type"

/-- The type of posted data. -/
def json : List UInt8 := "application/json".toUTF8.toList

/-- The method that posts data. -/
def post : String := "POST"

/-- The text of the address. -/
def urlText (r : Request) : String := String.ofList r.url.text

/-- Whether an address can be sent to: its scheme is that of the web, and all of it can go on the
wire. -/
def isSendable (u : Url) : Bool :=
  let scheme := String.ofList u.scheme
  (scheme == "http" || scheme == "https") &&
    (match Uri.authority? scheme (String.ofList (u.text.drop (u.scheme.length + 3))) with
      | .ok _ => true
      | .error _ => false)

/-- The request to an address with header fields, given the method and the data to post. -/
def make (method : String) (address : String) (headers : Headers) (data : Option String) :
    Except RequestError Request :=
  match Url.read? address.toList with
  | none => .error .address
  | some url =>
    if url.host.isNone then .error (.unsendable (String.ofList url.text))
    else
      let posts := method = post
      let credentials := credentials? url
      let r : Request :=
        { method, credentials,
          url := if credentials.isSome then url.withoutCredentials else url,
          headers := if posts then headers.append contentType json else headers,
          body := if posts then some (data.getD "") else none }
      if isSendable r.url then .ok r else .error (.unsendable r.urlText)

end Request

end Uptime.Http

namespace Uptime

/-- The request that a target asks for, or why there is none, and the warnings about its header
fields. -/
def Target.request (t : Target) : Except Http.RequestError Http.Request × List Log.Entry :=
  match Http.method? t.method with
  | .error e => (.error e, [])
  | .ok method =>
    let (headers, log) := Http.Headers.read t.headers
    (Http.Request.make method t.address headers t.postData, log)

end Uptime
