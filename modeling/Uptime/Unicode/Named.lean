import Uptime.Unicode.Age
import Uptime.Unicode.Breaks
import Uptime.Unicode.Category
import Uptime.Unicode.Composition
import Uptime.Unicode.Properties
import Uptime.Unicode.ScriptExtensions

/-!
# Code points by the name of a property

A set of code points is named by a general category, a script, a property that code points have or
lack, or by a property and its value. Names are compared loosely: letter case, blanks, `-` and `_`
do not count, nor does a leading `is`.
-/

namespace Uptime.Unicode

/-- The code points that are halves of others in one encoding and never characters. -/
def surrogates : Ranges := [⟨0xd800, 0xdfff⟩]

/-- The letters of a name that count. -/
def looseLetters (cs : List Char) : List Char :=
  (cs.filter fun c => c != ' ' && c != '_' && c != '-' && c.toNat < 128).map Char.toLower

/-- A name as it is looked up. The name `isc` keeps its beginning. -/
def looseName (cs : List Char) : String :=
  match cs with
  | a :: b :: rest =>
    if a.toLower = 'i' && b.toLower = 's' then
      let name := looseLetters rest
      if name = ['c'] then "isc" else String.ofList name
    else String.ofList (looseLetters cs)
  | _ => String.ofList (looseLetters cs)

/-- The code of the entry that has a name. -/
def codeNamed? (entries : List (String × List String)) (name : String) : Option String :=
  (entries.find? fun e => e.2.contains name).map (·.1)

/-- The code points of a general category. That of the halves is not to be had. -/
def categoryNamed? (name : String) : Option Ranges :=
  match name with
  | "any" => some [⟨0, lastCodePoint⟩]
  | "ascii" => some [⟨0, 0x7f⟩]
  | "assigned" => some (categoryRanges "Cn").complement
  | _ => ((codeNamed? categoryNames name).filter (· != "Cs")).map categoryRanges

/-- The letters in the sense of the general category, numerals written with letters included. -/
def letters : Ranges := (categoryRanges "L").union (categoryRanges "Nl")

/-- The code points that a property gives to another one beyond what the general category says. -/
def contributed? (name : String) : Option Ranges :=
  match name with
  | "otheralphabetic" | "oalpha" => some ((readRanges alphabeticTable).minus letters)
  | "otherlowercase" | "olower" => some ((readRanges lowercaseTable).minus (categoryRanges "Ll"))
  | "otheruppercase" | "oupper" => some ((readRanges uppercaseTable).minus (categoryRanges "Lu"))
  | "othermath" | "omath" => some ((readRanges mathTable).minus (categoryRanges "Sm"))
  | "othergraphemeextend" | "ogrext" =>
    some ((readRanges graphemeExtendTable).minus
      ((categoryRanges "Me").union (categoryRanges "Mn")))
  | "otherdefaultignorablecodepoint" | "odi" =>
    some ((readRanges defaultIgnorableCodePointTable).minus
      ((categoryRanges "Cf").union (readRanges variationSelectorTable)))
  | "otheridstart" | "oids" => some ((readRanges idStartTable).minus letters)
  | "otheridcontinue" | "oidc" =>
    let plain := ["Mn", "Mc", "Nd", "Pc"].foldl (fun rs c => rs.union (categoryRanges c))
      (readRanges idStartTable)
    some ((readRanges idContinueTable).minus plain)
  | "graphemelink" | "grlink" => some (runRanges (· == "9") combiningRuns)
  | _ => none

/-- The code points that have a property. -/
def propertyNamed? (name : String) : Option Ranges :=
  match properties.find? fun p => p.1.contains name with
  | some p => some (readRanges p.2)
  | none => contributed? name

/-- The code of a script; that of code points without a script is not to be had. -/
def scriptCode? (name : String) : Option String :=
  (codeNamed? scriptNames name).filter (· != "Zzzz")

/-- The code points of a class of those that behave alike at some bounds. -/
def breakNamed? (names : List (String × List String)) (runs : List String) (name : String) :
    Option Ranges :=
  ((codeNamed? names name).filter (· != "XX")).map fun code => runRanges (· == code) runs

/-- The code points that were assigned up to a version of the standard, which is written `6.0` or
`v60`. -/
def ageNamed? (name : String) : Option Ranges :=
  let short (v : String) : String := "v" ++ String.ofList (v.toList.filter (· != '.'))
  (ages.findIdx? fun v => v == name || short v == name).map ageRanges

/-- The code points that a single name stands for. -/
def named? (name : List Char) : Option Ranges :=
  let n := looseName name
  categoryNamed? n <|> propertyNamed? n <|> (scriptCode? n).map scriptRanges

/-- The code points for which a property has a value. -/
def valued? (property value : List Char) : Option Ranges :=
  let v := looseName value
  match looseName property with
  | "gc" | "generalcategory" => categoryNamed? v
  | "sc" | "script" => (scriptCode? v).map scriptRanges
  | "scx" | "scriptextensions" => (scriptCode? v).map extensionRanges
  | "age" => ageNamed? v
  | "gcb" | "graphemeclusterbreak" => breakNamed? clusterBreakNames clusterBreakRuns v
  | "wb" | "wordbreak" => breakNamed? wordBreakNames wordBreakRuns v
  | "sb" | "sentencebreak" => breakNamed? sentenceBreakNames sentenceBreakRuns v
  | _ => none

/-- The decimal digits of all scripts. -/
def digits : Ranges := categoryRanges "Nd"

/-- The blanks of all scripts. -/
def blanks : Ranges := readRanges whiteSpaceTable

/-- The characters that words are made of. -/
def wordCharacters : Ranges :=
  (["M", "Nd", "Pc"].foldl (fun rs c => rs.union (categoryRanges c))
    (readRanges alphabeticTable)).union (readRanges joinControlTable)

end Uptime.Unicode
