import SwitchInventory.Json.Fault

namespace SwitchInventory.Json

/-- Takes a value off the front of a text. -/
abbrev Reader := StateT (List Char) (Except Fault)

/-- Whether JSON allows a character between tokens. -/
def isGap (c : Char) : Bool := c = ' ' || c = '\n' || c = '\t' || c = '\r'

namespace Reader

variable {α : Type}

/-- Goes to the next token and shows its first character, if there is one. -/
def peek? : Reader (Option Char) := fun s =>
  let rest := s.dropWhile isGap
  .ok (rest.head?, rest)

/-- Goes to the next token and shows its first character. -/
def peek : Reader Char := do
  match ← peek? with
  | some c => return c
  | none => throw .ended

def advance : Reader Unit := modify List.tail

def word : List Char → Reader Unit
  | [] => pure ()
  | w :: ws => do
    match ← get with
    | [] => throw .ended
    | c :: rest =>
      if c = w then
        set rest
        word ws
      else throw .malformed

def close (bracket : Char) : Reader Unit := do
  if (← peek) = bracket then advance else throw .malformed

def colon : Reader Unit := close ':'

/-- Whether a list goes on with another element; the comma before it is taken. -/
def anotherItem (first : Bool) : Reader Bool := do
  match ← peek with
  | ']' => return false
  | ',' =>
    if first then return true
    else
      advance
      if (← peek) = ']' then throw .malformed else return true
  | _ => if first then return true else throw .malformed

/-- Whether an object goes on with another member; the comma before it is taken. -/
def anotherMember (first : Bool) : Reader Bool := do
  match ← peek with
  | '\x7d' => return false
  | ',' =>
    if first then throw .malformed
    else
      advance
      if (← peek) = '"' then return true else throw .malformed
  | '"' => if first then return true else throw .malformed
  | _ => throw .malformed

/-- Succeeds when nothing but gaps is left. -/
def finish : Reader Unit := do
  if (← peek?).isSome then throw .malformed

def run (r : Reader α) (text : String) : Except Fault α :=
  StateT.run' (do let a ← r; finish; return a) text.toList

end Reader

end SwitchInventory.Json
