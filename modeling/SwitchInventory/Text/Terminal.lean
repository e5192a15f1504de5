import SwitchInventory.Text.Quoted

namespace SwitchInventory.Text

/-- The control characters of ASCII that a terminal obeys, each with its escape. -/
def terminalEscapes : List (Char × String) :=
  [('\x07', "\\x07"), ('\x08', "\\x08"), ('\x0c', "\\x0c"), ('\x1b', "\\x1b"), ('\x7f', "\\x7f")]

/-- A character on a terminal; those from U+0080 to U+009F are shown by their number. -/
def terminalChar (c : Char) : List Char :=
  match terminalEscapes.lookup c with
  | some escape => escape.toList
  | none => if 0x80 ≤ c.toNat ∧ c.toNat ≤ 0x9F then escapeByNumber c else [c]

def forTerminal (s : String) : String := String.ofList (s.toList.flatMap terminalChar)

end SwitchInventory.Text
