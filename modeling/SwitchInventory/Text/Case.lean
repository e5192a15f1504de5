import SwitchInventory.Text.Cased
import SwitchInventory.Text.CaseTable

namespace SwitchInventory.Text

/-- The image of a character under a case mapping; a character can become several. -/
def mapCase (expansions : List (Nat × List Nat)) (runs : List CaseRun) (c : Char) : List Char :=
  match expansions.lookup c.toNat with
  | some image => image.map Char.ofNat
  | none =>
    match runs.findSome? (·.map? c.toNat) with
    | some image => [Char.ofNat image]
    | none => [c]

def upperChar (c : Char) : List Char := mapCase upperExpansions upperRuns c

def lowerChar (c : Char) : List Char := mapCase lowerExpansions lowerRuns c

def upper (s : String) : String := String.ofList (s.toList.flatMap upperChar)

/-- Whether a letter with a case comes next, apart from what may stand inside a word. -/
def leadsToCased (l : List Char) : Bool := (l.dropWhile isCaseIgnorable).head?.any isCased

/-- The lower case form of a text that follows the characters `before`, of which the nearest is the
first. A capital sigma at the end of a word has a form of its own. -/
def lowerAfter (before : List Char) : List Char → List Char
  | [] => []
  | c :: rest =>
    (if c = 'Σ' ∧ leadsToCased before ∧ ¬ leadsToCased rest then ['ς'] else lowerChar c) ++
      lowerAfter (c :: before) rest

def lower (s : String) : String := String.ofList (lowerAfter [] s.toList)

/-- Whether two texts differ at most in the case of ASCII letters. -/
def sameLetters (s t : String) : Bool := s.toList.map Char.toLower == t.toList.map Char.toLower

end SwitchInventory.Text
