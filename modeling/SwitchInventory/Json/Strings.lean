import SwitchInventory.Json.Reader

namespace SwitchInventory.Json

def hexValue? (c : Char) : Option Nat :=
  if '0' ≤ c ∧ c ≤ '9' then some (c.toNat - 48)
  else if 'a' ≤ c ∧ c ≤ 'f' then some (c.toNat - 87)
  else if 'A' ≤ c ∧ c ≤ 'F' then some (c.toNat - 55)
  else none

def hexNumber? (a b c d : Char) : Option Nat := do
  return (((← hexValue? a) * 16 + (← hexValue? b)) * 16 + (← hexValue? c)) * 16 + (← hexValue? d)

/-- The character that a letter stands for after a backslash. -/
def escapedChar? : Char → Option Char
  | '"' => some '"'
  | '\\' => some '\\'
  | '/' => some '/'
  | 'b' => some '\x08'
  | 'f' => some '\x0c'
  | 'n' => some '\n'
  | 'r' => some '\r'
  | 't' => some '\t'
  | _ => none

namespace Reader

def anyChar : Reader Char := do
  match ← get with
  | [] => throw .ended
  | c :: rest =>
    set rest
    return c

/-- Takes the four hexadecimal digits of an escape. The text counts as ended when it has fewer than
four bytes left. -/
def hexDigits : Reader Nat := do
  match ← get with
  | a :: b :: c :: d :: rest =>
    match hexNumber? a b c d with
    | some n =>
      set rest
      return n
    | none => throw .malformed
  | rest => if (String.ofList rest).utf8ByteSize < 4 then throw .ended else throw .malformed

/-- Takes the rest of an escape by number; two surrogates in a row make one character. -/
def numericEscape : Reader Char := do
  let first ← hexDigits
  if 0xDC00 ≤ first ∧ first < 0xE000 then throw .malformed
  else if first < 0xD800 ∨ 0xE000 ≤ first then return Char.ofNat first
  else
    word ['\\', 'u']
    let second ← hexDigits
    if 0xDC00 ≤ second ∧ second < 0xE000 then
      return Char.ofNat (0x10000 + (first - 0xD800) * 0x400 + (second - 0xDC00))
    else throw .malformed

def escape : Reader Char := do
  let c ← anyChar
  if c = 'u' then numericEscape
  else
    match escapedChar? c with
    | some e => return e
    | none => throw .malformed

/-- Takes a string up to its closing mark, in at most `fuel` characters and escapes. -/
def stringTail : Nat → Reader (List Char)
  | 0 => throw .ended
  | fuel + 1 => do
    let c ← anyChar
    if c = '"' then return []
    else if c = '\\' then return (← escape) :: (← stringTail fuel)
    else if c.toNat < 0x20 then throw .malformed
    else return c :: (← stringTail fuel)

/-- Takes a string whose opening mark comes next. -/
def quoted : Reader String := do
  advance
  return String.ofList (← stringTail ((← get).length + 1))

def skipEscape : Reader Unit := do
  let c ← anyChar
  if c = 'u' then discard hexDigits
  else if (escapedChar? c).isNone then throw .malformed

/-- Passes over a string up to its closing mark, in at most `fuel` characters and escapes. -/
def skipStringTail : Nat → Reader Unit
  | 0 => throw .ended
  | fuel + 1 => do
    let c ← anyChar
    if c = '"' then return ()
    else if c = '\\' then
      skipEscape
      skipStringTail fuel
    else if c.toNat < 0x20 then throw .malformed
    else skipStringTail fuel

def skipQuoted : Reader Unit := do
  advance
  skipStringTail ((← get).length + 1)

end Reader

end SwitchInventory.Json
