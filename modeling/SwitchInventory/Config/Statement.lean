import SwitchInventory.FormatError
import SwitchInventory.Text.Blank
import SwitchInventory.Text.Split

namespace SwitchInventory.Config

open SwitchInventory.Text

/-- A line that is neither blank, nor a comment, nor the continuation of a value. -/
inductive Statement where
  | header (name : String)
  | entry (key value : String)
  deriving DecidableEq, Repr

def isComment : List Char → Bool
  | '#' :: _ => true
  | ';' :: _ => true
  | _ => false

namespace Statement

/-- Reads a header, `text` being a trimmed line that starts with a square bracket. The name is
trimmed and must not be empty. -/
def readHeader (text : List Char) : Except Fault Statement :=
  match inside? '[' ']' text with
  | none => .error .unterminatedSection
  | some inside =>
    let name := trim inside
    if name.isEmpty then .error .emptyName else .ok (.header (String.ofList name))

/-- Reads an entry. The first equals sign of the line separates the key from the value; both are
trimmed and the key must not be empty. -/
def readEntry (text : List Char) : Except Fault Statement :=
  match cut? ['='] text with
  | none => .error .missingValueSeparator
  | some (front, back) =>
    let key := trim front
    if key.isEmpty then .error .emptyName
    else .ok (.entry (String.ofList key) (String.ofList (trim back)))

/-- Reads a trimmed line that is neither blank nor a comment. -/
def read (text : List Char) : Except Fault Statement :=
  if text.head? = some '[' then readHeader text else readEntry text

end Statement

end SwitchInventory.Config
