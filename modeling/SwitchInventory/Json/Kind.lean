import SwitchInventory.Json.Skip

namespace SwitchInventory.Json

namespace Reader

variable {α β : Type}

def text : Reader String := do
  if (← peek) = '"' then quoted else reject "a string"

def orNull (value : Reader α) : Reader (Option α) := do
  if (← peek) = 'n' then
    word "null".toList
    return none
  else some <$> value

/-- Reads the elements of a list and its closing bracket. -/
def listTail (item : Reader α) : Nat → Bool → Reader (List α)
  | 0, _ => throw .ended
  | fuel + 1, first => do
    if ← anotherItem first then return (← item) :: (← listTail item fuel false)
    else
      advance
      return []

def list (item : Reader α) : Reader (List α) := do
  if (← peek) = '[' then
    advance
    listTail item ((← get).length + 1) true
  else reject "a sequence"

def pair (first : Reader α) (second : Reader β) : Reader (α × β) := do
  let expected := "a tuple of size 2"
  if (← peek) = '[' then
    advance
    if ← anotherItem true then
      let a ← first
      if ← anotherItem false then
        let b ← second
        close ']'
        return (a, b)
      else throw (.mismatch (.wrongLength 1 expected))
    else throw (.mismatch (.wrongLength 0 expected))
  else reject expected

/-- Reads the members of an object and its closing bracket. -/
def membersTail (value : Reader α) : Nat → Bool → Reader (List (String × α))
  | 0, _ => throw .ended
  | fuel + 1, first => do
    if ← anotherMember first then
      let name ← quoted
      colon
      return (name, ← value) :: (← membersTail value fuel false)
    else
      advance
      return []

/-- Reads an object of any members, which is expected as `expected`. -/
def members (expected : String) (value : Reader α) : Reader (List (String × α)) := do
  if (← peek) = '\x7b' then
    advance
    membersTail value ((← get).length + 1) true
  else reject expected

end Reader

/-- What becomes of a field that is not there. -/
inductive Absence (α : Type) where
  /-- it has to be there -/
  | required
  /-- it may be missing from an object but not from a list, and is then the given value -/
  | optional (value : α)
  /-- it may be missing, and is then the given value -/
  | default (value : α)

/-- The fields of a record in order, each with its name, the reader of its value, and what becomes
of it when it is not there. The index is the tuple of their values. -/
inductive Fields : Type → Type 1 where
  | done : Fields Unit
  | field {α β : Type} (name : String) (value : Reader α) (absence : Absence α)
      (rest : Fields β) : Fields (α × β)

namespace Fields

variable {α β : Type}

def count : {α : Type} → Fields α → Nat
  | _, done => 0
  | _, field _ _ _ rest => rest.count + 1

/-- The values of fields read so far. -/
def Draft : {α : Type} → Fields α → Type
  | _, done => Unit
  | _, field (α := α) _ _ _ rest => Option α × rest.Draft

def blank : {α : Type} → (fields : Fields α) → fields.Draft
  | _, done => ()
  | _, field _ _ _ rest => (none, rest.blank)

/-- Reads the value of the member of the given name into a draft. A field that is there already is
refused before its value is read; none is the answer to a name that is not a field. -/
def store? : {α : Type} → (fields : Fields α) → String → fields.Draft →
    Option (Reader fields.Draft)
  | _, done, _, _ => none
  | _, field (α := α) own value _ rest, name, draft =>
    let (stored, others) : Option α × rest.Draft := draft
    if name = own then
      some (show Reader (Option α × rest.Draft) from do
        if stored.isSome then throw (.mismatch (.duplicateField name))
        Reader.colon
        return (some (← value), others))
    else
      (rest.store? name others).map fun read =>
        show Reader (Option α × rest.Draft) from do return (stored, ← read)

/-- The values of a draft that came from an object. -/
def complete : {α : Type} → (fields : Fields α) → fields.Draft → Except Fault α
  | _, done, _ => .ok ()
  | _, field (α := α) name _ absence rest, draft => do
    let (stored, others) : Option α × rest.Draft := draft
    let value ← match stored, absence with
      | some value, _ => .ok value
      | none, .required => .error (.mismatch (.missingField name))
      | none, .optional value => .ok value
      | none, .default value => .ok value
    return (value, ← rest.complete others)

def readMembers (fields : Fields α) : Nat → Bool → fields.Draft → Reader fields.Draft
  | 0, _, _ => throw .ended
  | fuel + 1, first, draft => do
    if ← Reader.anotherMember first then
      let name ← Reader.quoted
      match fields.store? name draft with
      | some read => fields.readMembers fuel false (← read)
      | none =>
        Reader.colon
        Reader.skip
        fields.readMembers fuel false draft
    else
      Reader.advance
      return draft

/-- Reads the elements of a list as the fields from `index` on, the list being expected as
`expected`. -/
def readItems (expected : String) (index : Nat) : {α : Type} → Fields α → Reader α
  | _, done => return ()
  | _, field _ value absence rest => do
    if ← Reader.anotherItem (index = 0) then
      return (← value, ← rest.readItems expected (index + 1))
    else
      match absence with
      | .default value => return (value, ← rest.readItems expected (index + 1))
      | _ => throw (.mismatch (.wrongLength index expected))

/-- The record of the given title with its number of elements. -/
def lengthTitle (title : String) (fields : Fields α) : String :=
  let unit := if fields.count = 1 then "element" else "elements"
  title ++ " with " ++ toString fields.count ++ " " ++ unit

/-- Reads a record, which is expected as `title`. -/
def read (title : String) (fields : Fields α) : Reader α := do
  match ← Reader.peek with
  | '\x7b' => do
    Reader.advance
    let draft ← fields.readMembers ((← get).length + 1) true fields.blank
    fields.complete draft
  | '[' => do
    Reader.advance
    let values ← fields.readItems (fields.lengthTitle title) 0
    Reader.close ']'
    return values
  | _ => Reader.reject title

end Fields

/-- One variant of a choice: its name, and how its content is read; one without content has a value
only. -/
inductive Variant (α : Type) where
  | unit (name : String) (value : α)
  | content (name : String) (value : Reader α)
  | record (name : String) (value : Reader α)

namespace Variant

variable {α : Type}

def name : Variant α → String
  | unit name _ => name
  | content name _ => name
  | record name _ => name

def read : Variant α → Reader α
  | unit _ value => do
    if (← Reader.peek) = 'n' then
      Reader.word "null".toList
      return value
    else Reader.reject "unit"
  | content _ value => value
  | record _ value => value

/-- The value of a variant given by its bare name. -/
def bare : Variant α → Except Fault α
  | unit _ value => .ok value
  | content _ _ => .error (.mismatch (.wrongType .unitVariant "newtype variant"))
  | record _ _ => .error (.mismatch (.wrongType .unitVariant "struct variant"))

def choose (variants : List (Variant α)) : Reader (Variant α) := do
  if (← Reader.peek) ≠ '"' then throw .malformed
  let name ← Reader.quoted
  match variants.find? (·.name = name) with
  | some v => return v
  | none => throw (.mismatch (.unknownVariant name (variants.map Variant.name)))

def readOneOf (variants : List (Variant α)) : Reader α := do
  match ← Reader.peek with
  | '\x7b' => do
    Reader.advance
    let v ← choose variants
    Reader.colon
    let value ← v.read
    Reader.close '\x7d'
    return value
  | '"' => do
    let v ← choose variants
    v.bare
  | _ => throw .malformed

end Variant

end SwitchInventory.Json
