import SwitchInventory.Json.Numbers
import SwitchInventory.Json.Strings

namespace SwitchInventory.Json.Reader

variable {α : Type}

mutual

/-- Passes over a value that is nested at most `fuel` steps deep. -/
def skipValue : Nat → Reader Unit
  | 0 => throw .ended
  | fuel + 1 => do
    match ← peek with
    | 'n' => word "null".toList
    | 't' => word "true".toList
    | 'f' => word "false".toList
    | '"' => skipQuoted
    | '[' => do
      advance
      skipItems fuel true
    | '\x7b' => do
      advance
      skipMembers fuel true
    | c => if c = '-' || c.isDigit then skipNumber else throw .malformed

def skipItems : Nat → Bool → Reader Unit
  | 0, _ => throw .ended
  | fuel + 1, first => do
    if ← anotherItem first then
      skipValue fuel
      skipItems fuel false
    else advance

def skipMembers : Nat → Bool → Reader Unit
  | 0, _ => throw .ended
  | fuel + 1, first => do
    if ← anotherMember first then
      skipQuoted
      colon
      skipValue fuel
      skipMembers fuel false
    else advance

end

/-- Passes over a value. Each step takes a character, so the length of the text bounds them. -/
def skip : Reader Unit := do
  skipValue (2 * (← get).length + 1)

/-- Takes as much of the next value as it takes to report it. -/
def found : Reader Found := do
  match ← peek with
  | 'n' => do
    word "null".toList
    return .null
  | 't' => do
    word "true".toList
    return .boolean true
  | 'f' => do
    word "false".toList
    return .boolean false
  | '"' => return .text (← quoted)
  | '[' => return .list
  | '\x7b' => return .object
  | c => if c = '-' || c.isDigit then number else throw .malformed

/-- Fails because the next value is not of the expected kind. -/
def reject (expected : String) : Reader α := do
  throw (.mismatch (.wrongType (← found) expected))

end SwitchInventory.Json.Reader
