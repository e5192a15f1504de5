namespace SwitchInventory.Text

/-- What stands before and after the first occurrence of `mark`. -/
def cut? (mark : List Char) : List Char → Option (List Char × List Char)
  | [] => if mark.isEmpty then some ([], []) else none
  | c :: s =>
    match mark.isPrefixOf? (c :: s) with
    | some rest => some ([], rest)
    | none => (cut? mark s).map fun (front, back) => (c :: front, back)

/-- What follows `mark` in a text that begins with it. -/
def dropMark? (mark s : String) : Option String :=
  (mark.toList.isPrefixOf? s.toList).map String.ofList

/-- The inside of a text that begins with `first` and ends with `last`, two separate characters. -/
def inside? (first last : Char) : List Char → Option (List Char)
  | [] => none
  | c :: s => if c = first ∧ s.getLast? = some last then some s.dropLast else none

end SwitchInventory.Text
