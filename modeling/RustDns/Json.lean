import RustDns.Text

/-!
# JSON

Several columns hold a JSON array as text, and rules can be imported from a JSON
file.  Both are read and written with `serde_json`, which is a parameter here: a
text either is JSON of the wanted kind or the decoder fails.

`SerdeJson.plain` reads and writes the arrays of strings without escapes, commas
and blanks.
-/

namespace RustDns

/-- `serde_json::Value`.  A number is given by its text. -/
inductive Json.Value where
  | null
  | bool (value : Bool)
  | number (text : Str)
  | string (text : Str)
  | array (items : List Json.Value)
  | object (fields : List (Str × Json.Value))

def Json.Value.asStr : Json.Value → Option Str
  | .string text => some text
  | _ => none

/-- The decoders and the encoder that the code uses. -/
class SerdeJson where
  /-- `serde_json::from_str::<Value>(text)`, with the text of the error. -/
  fromStr : Str → Except Str Json.Value
  /-- `serde_json::to_string` on a value, which does not fail. -/
  toStr : Json.Value → Str
  /-- `serde_json::from_str::<Vec<String>>(text).ok()`. -/
  stringVec : Str → Option (List Str)
  /-- `serde_json::from_str::<Vec<Value>>(text).ok()`, with every value given by
  its `as_str`. -/
  valueVec : Str → Option (List (Option Str))

namespace Json

def parsePlainString (text : Str) : Option Str :=
  match Text.stripPrefix (str "\"") text with
  | some rest =>
    let body := rest.dropLast
    if rest.getLast? = some '"' ∧ ¬ body.contains '"' ∧ ¬ body.contains '\\' then some body
    else none
  | none => none

def parsePlainArray (text : Str) : Option (List Str) :=
  if text = str "[]" then some []
  else match Text.stripPrefix (str "[") text with
    | some rest =>
      if rest.getLast? = some ']' then (rest.dropLast.splitOn ',').mapM parsePlainString
      else none
    | none => none

/-- Writes an array of strings, without escapes. -/
def showPlain : Value → Str
  | .array items =>
    str "[" ++ Text.join (str ",") (items.map fun item =>
      str "\"" ++ item.asStr.getD [] ++ str "\"") ++ str "]"
  | _ => str "null"

end Json

@[reducible] def SerdeJson.plain : SerdeJson where
  fromStr := fun text =>
    match Json.parsePlainArray text with
    | some items => .ok (.array (items.map .string))
    | none => .error (str "expected value")
  toStr := Json.showPlain
  stringVec := Json.parsePlainArray
  valueVec := fun text => (Json.parsePlainArray text).map (List.map some)

end RustDns
