import SwitchInventory.Text.Blank
import SwitchInventory.Text.Case

namespace SwitchInventory.Flag

def trueWords : List String := ["true", "1", "on", "yes"]

def falseWords : List String := ["false", "0", "off", "no"]

/-- Reads a flag, without regard to case and to blanks around it. -/
def read? (value : String) : Option Bool :=
  let word := Text.lower (String.ofList (Text.trim value.toList))
  if word ∈ trueWords then some true else if word ∈ falseWords then some false else none

end SwitchInventory.Flag
