import SwitchInventory.Text.Quoted

namespace SwitchInventory.Json

/-- What stands in the place of an expected value. -/
inductive Found where
  | null
  | boolean (b : Bool)
  | integer (n : Int)
  /-- a number with a fraction or an exponent, or too large for an integer -/
  | real (written : String)
  | text (s : String)
  | list
  | object
  /-- the bare name of a variant that has content -/
  | unitVariant
  deriving DecidableEq, Repr

def Found.describe : Found → String
  | null => "null"
  | boolean b => "boolean `" ++ (if b then "true" else "false") ++ "`"
  | integer n => "integer `" ++ toString n ++ "`"
  | real written => "floating point `" ++ written ++ "`"
  | text s => "string " ++ Text.quote s
  | list => "sequence"
  | object => "map"
  | unitVariant => "unit variant"

/-- How a JSON value fails to be of the expected kind. -/
inductive Mismatch where
  | wrongType (found : Found) (expected : String)
  | wrongLength (length : Nat) (expected : String)
  | missingField (name : String)
  | duplicateField (name : String)
  | unknownVariant (name : String) (known : List String)
  deriving DecidableEq, Repr

def describeChoice : List String → String
  | [a] => "`" ++ a ++ "`"
  | [a, b] => "`" ++ a ++ "` or `" ++ b ++ "`"
  | names => "one of " ++ ", ".intercalate (names.map fun name => "`" ++ name ++ "`")

def Mismatch.message : Mismatch → String
  | wrongType found expected => "invalid type: " ++ found.describe ++ ", expected " ++ expected
  | wrongLength length expected =>
    "invalid length " ++ toString length ++ ", expected " ++ expected
  | missingField name => "missing field `" ++ name ++ "`"
  | duplicateField name => "duplicate field `" ++ name ++ "`"
  | unknownVariant name known =>
    "unknown variant `" ++ name ++ "`, expected " ++ describeChoice known

inductive Fault where
  /-- the text ends before the value does -/
  | ended
  /-- the text is not JSON -/
  | malformed
  /-- the text is JSON so far, but not of the expected kind -/
  | mismatch (m : Mismatch)
  deriving DecidableEq, Repr

end SwitchInventory.Json
