import SwitchInventory.Config.Section

namespace SwitchInventory.Config

def writeContinuation (line : List Char) : String := "    " ++ String.ofList line ++ "\n"

/-- The first line of an entry; no blank follows the equals sign when there is no value on it. -/
def writeFirst (key : String) (line : List Char) : String :=
  if line.isEmpty then key ++ " =\n" else key ++ " = " ++ String.ofList line ++ "\n"

/-- The lines of an entry. -/
def Entry.write (e : Entry) : String :=
  match e.value.toList.splitOn '\n' with
  | [] => writeFirst e.key []
  | first :: more => writeFirst e.key first ++ String.join (more.map writeContinuation)

/-- The header and the entries of a section. -/
def Section.write (s : Section) : String :=
  "[" ++ s.name ++ "]\n" ++ String.join (s.entries.map Entry.write)

def write (sections : List Section) : String := "\n".intercalate (sections.map Section.write)

end SwitchInventory.Config
