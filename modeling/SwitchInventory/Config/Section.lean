namespace SwitchInventory.Config

/-- One assignment of a value to a key, on line `line`; 0 stands for no line. A value of several
lines holds them joined by line feeds. -/
structure Entry where
  key : String
  value : String
  line : Nat := 0
  deriving DecidableEq, Repr

/-- The entry with one more line in its value. -/
def Entry.extend (e : Entry) (text : String) : Entry := { e with value := e.value ++ "\n" ++ text }

/-- A named group of entries, its header on line `line`; 0 stands for no line. -/
structure Section where
  name : String
  line : Nat := 0
  entries : List Entry := []
  deriving DecidableEq, Repr

namespace Section

def find? (s : Section) (key : String) : Option Entry := s.entries.find? (·.key = key)

def get? (s : Section) (key : String) : Option String := (s.find? key).map (·.value)

/-- The section with one more entry, also where the key is there already. -/
def push (s : Section) (e : Entry) : Section := { s with entries := s.entries ++ [e] }

/-- The section with `text` added to the value of the entry at `index`. -/
def extend (s : Section) (index : Nat) (text : String) : Section :=
  { s with entries := s.entries.modify index (·.extend text) }

end Section

end SwitchInventory.Config
