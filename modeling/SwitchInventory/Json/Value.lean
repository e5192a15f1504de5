namespace SwitchInventory.Json

/-- A JSON value. The members of an object are in the order in which they are written. -/
inductive Value where
  | null
  | boolean (b : Bool)
  | text (s : String)
  | list (items : List Value)
  | object (members : List (String × Value))

def hexDigit (n : Nat) : Char := if n < 10 then Char.ofNat (48 + n) else Char.ofNat (87 + n)

/-- A character inside a JSON string. Only quotation marks, backslashes and control characters of
ASCII are escaped. -/
def escapeChar (c : Char) : List Char :=
  if c = '"' then ['\\', '"']
  else if c = '\\' then ['\\', '\\']
  else if c = '\x08' then ['\\', 'b']
  else if c = '\x0c' then ['\\', 'f']
  else if c = '\n' then ['\\', 'n']
  else if c = '\r' then ['\\', 'r']
  else if c = '\t' then ['\\', 't']
  else if c.toNat < 0x20 then
    ['\\', 'u', '0', '0', hexDigit (c.toNat / 16), hexDigit (c.toNat % 16)]
  else [c]

def writeString (s : String) : List Char := '"' :: s.toList.flatMap escapeChar ++ ['"']

def writeBoolean (b : Bool) : List Char := if b then "true".toList else "false".toList

namespace Value

mutual

/-- The value in one line without blanks. -/
def compact : Value → List Char
  | null => "null".toList
  | boolean b => writeBoolean b
  | text s => writeString s
  | list items => '[' :: [','].intercalate (compactItems items) ++ [']']
  | object members => '\x7b' :: [','].intercalate (compactMembers members) ++ ['\x7d']

def compactItems : List Value → List (List Char)
  | [] => []
  | v :: vs => compact v :: compactItems vs

def compactMembers : List (String × Value) → List (List Char)
  | [] => []
  | (name, v) :: ms => (writeString name ++ ':' :: compact v) :: compactMembers ms

end

/-- The blanks at the front of a line that is `depth` levels deep. -/
def indent (depth : Nat) : List Char := List.replicate (2 * depth) ' '

/-- Parts between brackets, each on a line of its own, or nothing between them. -/
def block (opening closing : Char) (depth : Nat) (parts : List (List Char)) : List Char :=
  if parts.isEmpty then [opening, closing]
  else
    opening :: '\n' :: [',', '\n'].intercalate (parts.map (indent (depth + 1) ++ ·)) ++
      '\n' :: indent depth ++ [closing]

mutual

/-- The value on several lines, itself `depth` levels deep. -/
def pretty (depth : Nat) : Value → List Char
  | null => "null".toList
  | boolean b => writeBoolean b
  | text s => writeString s
  | list items => block '[' ']' depth (prettyItems (depth + 1) items)
  | object members => block '\x7b' '\x7d' depth (prettyMembers (depth + 1) members)

def prettyItems (depth : Nat) : List Value → List (List Char)
  | [] => []
  | v :: vs => pretty depth v :: prettyItems depth vs

def prettyMembers (depth : Nat) : List (String × Value) → List (List Char)
  | [] => []
  | (name, v) :: ms =>
    (writeString name ++ ':' :: ' ' :: pretty depth v) :: prettyMembers depth ms

end

def compactText (v : Value) : String := String.ofList v.compact

def prettyText (v : Value) : String := String.ofList (v.pretty 0)

def optional : Option String → Value
  | none => null
  | some s => text s

end Value

/-- Puts a member into an object whose members are sorted by name; a member of the same name is
replaced. -/
def insertSorted (name : String) (v : Value) : List (String × Value) → List (String × Value)
  | [] => [(name, v)]
  | (other, w) :: rest =>
    if name = other then (name, v) :: rest
    else if name < other then (name, v) :: (other, w) :: rest
    else (other, w) :: insertSorted name v rest

/-- An object with these members, sorted by name; of members of one name the last counts. -/
def Value.sorted (members : List (String × Value)) : Value :=
  .object (members.foldl (fun sorted m => insertSorted m.1 m.2 sorted) [])

end SwitchInventory.Json
