import Uptime.Number.Decimal

/-!
# JSON values

The tree of a JSON text. A string is `none` where an escape names half of a surrogate pair: such a
text is well formed but stands for no sequence of characters. Numbers with a fraction, an exponent
or the spelling `-0` are kept apart from integers, because no integer field takes them.
-/

namespace Uptime

/-- A JSON value. -/
inductive Json where
  | null
  | bool (b : Bool)
  | integer (n : Int)
  | real (d : Number.Decimal)
  | string (s : Option String)
  | array (items : List Json)
  | object (members : List (Option String × Json))

end Uptime
