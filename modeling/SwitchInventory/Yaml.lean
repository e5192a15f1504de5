import SwitchInventory.Json.Value

namespace SwitchInventory.Yaml

open Json (Value)

/-- Whether a text is empty or an exponent. -/
def isExponent : List Char → Bool
  | [] => true
  | e :: s =>
    (e = 'e' || e = 'E') &&
      (let digits := match s with
        | '+' :: ds => ds
        | '-' :: ds => ds
        | ds => ds
      !digits.isEmpty && digits.all Char.isDigit)

/-- Whether a text without sign is a decimal number: digits, which a point may follow or split, and
perhaps an exponent. -/
def isUnsignedNumber (s : List Char) : Bool :=
  let whole := s.takeWhile Char.isDigit
  match s.dropWhile Char.isDigit with
  | '.' :: rest =>
    let fraction := rest.takeWhile Char.isDigit
    !(whole.isEmpty && fraction.isEmpty) && isExponent (rest.dropWhile Char.isDigit)
  | rest => !whole.isEmpty && isExponent rest

/-- Whether a text without sign is a number, an infinity or not a number. -/
def isMagnitude (s : List Char) : Bool :=
  isUnsignedNumber s ||
    ["inf".toList, "infinity".toList, "nan".toList].contains (s.map Char.toLower)

def isNumber : List Char → Bool
  | '+' :: s => isMagnitude s
  | '-' :: s => isMagnitude s
  | s => isMagnitude s

def reservedWords : List String :=
  ["yes", "Yes", "YES", "no", "No", "NO", "True", "TRUE", "true", "False", "FALSE", "false",
    "on", "On", "ON", "off", "Off", "OFF", "null", "Null", "NULL", "~"]

/-- The characters that mean something at the start of a text. -/
def leadingMarks : List Char :=
  ['&', '*', '?', '|', '-', '<', '>', '=', '!', '%', '@', '.', ' ']

/-- Whether a character means something wherever it stands, or is a control character that is not
written plain. -/
def isMark (c : Char) : Bool :=
  c ∈ [':', '\x7b', '\x7d', '[', ']', ',', '#', '`', '"', '\'', '\\', '\t', '\n', '\r'] ||
    c.toNat ≤ 6 || (0x0E ≤ c.toNat && c.toNat ≤ 0x1A) || (0x1C ≤ c.toNat && c.toNat ≤ 0x1F)

def needsQuotes (s : String) : Bool :=
  let cs := s.toList
  cs.isEmpty || cs.head?.any (· ∈ leadingMarks) || cs.getLast? = some ' ' || cs.any isMark ||
    s ∈ reservedWords || ['0', 'x'].isPrefixOf cs || isNumber cs

def escapeChar (c : Char) : List Char :=
  if c = '\x7f' then "\\u007f".toList else Json.escapeChar c

def scalar (s : String) : List Char :=
  if needsQuotes s then '"' :: s.toList.flatMap escapeChar ++ ['"'] else s.toList

/-- The line break before a line that is `depth` levels deep. -/
def newline (depth : Nat) : List Char := '\n' :: List.replicate (2 * depth) ' '

/-- Lines of one level, of which the first has been indented already. -/
def joinLines (depth : Nat) (parts : List (List Char)) : List Char :=
  (newline depth).intercalate parts

def isBlock : Value → Bool
  | .list items => !items.isEmpty
  | .object members => !members.isEmpty
  | _ => false

mutual

def node (depth : Nat) : Value → List Char
  | .null => ['~']
  | .boolean b => Json.writeBoolean b
  | .text s => scalar s
  | .list items => if items.isEmpty then ['[', ']'] else joinLines depth (itemParts depth items)
  | .object members =>
    if members.isEmpty then ['\x7b', '\x7d'] else joinLines depth (memberParts depth members)

def itemParts (depth : Nat) : List Value → List (List Char)
  | [] => []
  | v :: vs => ('-' :: ' ' :: node (depth + 1) v) :: itemParts depth vs

/-- The members of an object, a value with lines of its own below its name. -/
def memberParts (depth : Nat) : List (String × Value) → List (List Char)
  | [] => []
  | (name, v) :: ms =>
    let gap := if isBlock v then newline (depth + 1) else [' ']
    (scalar name ++ ':' :: gap ++ node (depth + 1) v) :: memberParts depth ms

end

def write (v : Value) : String := String.ofList ("---\n".toList ++ node 0 v ++ ['\n'])

end SwitchInventory.Yaml
