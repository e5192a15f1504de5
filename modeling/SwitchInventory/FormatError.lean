namespace SwitchInventory

inductive Fault where
  /-- a port specification without the double colon between switch and port -/
  | missingPortSeparator
  /-- a host or switch name that holds the reserved colon -/
  | reservedSeparator
  /-- a name with no characters left in it -/
  | emptyName
  /-- a flag whose value is neither true nor false -/
  | invalidBoolean
  /-- an entry before the first header -/
  | entryOutsideSection
  /-- a line that is neither a header nor an entry -/
  | missingValueSeparator
  /-- a header that is not closed -/
  | unterminatedSection
  deriving DecidableEq, Repr

/-- The cause in words, to be read after the name of the offending text. -/
def Fault.message : Fault → String
  | missingPortSeparator =>
    "is not a valid switch_name::port_name mapping, use a double colon :: as the separator"
  | reservedSeparator => "must not contain ':', it is reserved as a separator"
  | emptyName => "has an empty name"
  | invalidBoolean => "is not a valid boolean"
  | entryOutsideSection => "appears before any [section] header"
  | missingValueSeparator => "is not a key = value line"
  | unterminatedSection => "is missing the closing ]"

/-- A malformed configuration: the cause, the offending key, value or line, and the number of the
line it is on where that is known. -/
structure FormatError where
  fault : Fault
  subject : String
  line : Option Nat
  deriving DecidableEq, Repr

def FormatError.message (e : FormatError) : String :=
  let complaint := "'" ++ e.subject ++ "' " ++ e.fault.message
  match e.line with
  | some line => "line " ++ toString line ++ ": " ++ complaint
  | none => complaint

end SwitchInventory
