import SwitchInventory.Config.Section
import SwitchInventory.Config.Statement
import SwitchInventory.Log
import SwitchInventory.Text.Lines

namespace SwitchInventory.Config

open SwitchInventory.Text

/-- Where the next line belongs. Positions count sections, indices count entries of a section. -/
inductive Cursor where
  /-- before the first header -/
  | start
  /-- in a section, with no value to continue -/
  | body (position : Nat)
  /-- directly after an entry, whose value an indented line continues -/
  | value (position index : Nat)
  /-- directly after an entry that was dropped; indented lines are dropped with it -/
  | dropped (position : Nat)
  deriving DecidableEq, Repr

namespace Cursor

def position? : Cursor → Option Nat
  | start => none
  | body position => some position
  | value position _ => some position
  | dropped position => some position

/-- The entry that an indented line continues, as its section's position and its index there. -/
def continued? : Cursor → Option (Nat × Nat)
  | value position index => some (position, index)
  | _ => none

def isDropping : Cursor → Bool
  | dropped _ => true
  | _ => false

/-- The same section, with no value to continue: what a blank line leaves. -/
def close : Cursor → Cursor
  | start => start
  | body position => body position
  | value position _ => body position
  | dropped position => body position

end Cursor

/-- What the reader knows between two lines. -/
structure State where
  sections : List Section := []
  cursor : Cursor := .start
  deriving DecidableEq, Repr

namespace State

def current? (s : State) : Option (Nat × Section) :=
  s.cursor.position?.bind fun position => s.sections[position]?.map (position, ·)

def extend (s : State) (position index : Nat) (text : String) : State :=
  { s with sections := s.sections.modify position (·.extend index text) }

/-- Goes to the section of that name, which is added when there is none. -/
def openSection (s : State) (name : String) (number : Nat) : State :=
  match s.sections.findIdx? (·.name = name) with
  | some position => { s with cursor := .body position }
  | none =>
    { sections := s.sections ++ [{ name, line := number }], cursor := .body s.sections.length }

def duplicateMessage (target : Section) (key : String) (number first : Nat) : String :=
  "[" ++ target.name ++ "] " ++ key ++ " on line " ++ toString number ++
    " is already set on line " ++ toString first ++ ", keeping the first value"

/-- Adds an entry to the current section, or reports and drops it when its key is taken. -/
def addEntry (s : State) (key value : String) (number : Nat) : Logged FormatError State :=
  match s.current? with
  | none => .fail ⟨.entryOutsideSection, key, some number⟩
  | some (position, target) =>
    match target.find? key with
    | some first => do
      Logged.log .warn .config (duplicateMessage target key number first.line)
      return { s with cursor := .dropped position }
    | none =>
      return {
        sections := s.sections.modify position (·.push { key, value, line := number })
        cursor := .value position target.entries.length }

def take (s : State) (number : Nat) : Statement → Logged FormatError State
  | .header name => pure (s.openSection name number)
  | .entry key value => s.addEntry key value number

/-- Reads one line. A blank line ends a value and a comment does not; an indented line continues the
value before it, or is dropped with a dropped entry; any other line is read on its own. -/
def step (s : State) (raw : List Char) (number : Nat) : Logged FormatError State :=
  let text := trim raw
  if text.isEmpty then pure { s with cursor := s.cursor.close }
  else if isComment text then pure s
  else if startsBlank raw && s.cursor.isDropping then pure s
  else
    match if startsBlank raw then s.cursor.continued? else none with
    | some (position, index) => pure (s.extend position index (String.ofList text))
    | none =>
      match Statement.read text with
      | .error fault => .fail ⟨fault, String.ofList text, some number⟩
      | .ok statement => s.take number statement

/-- Reads numbered lines in order and stops at the first that is malformed. -/
def run (s : State) (numbered : List (List Char × Nat)) : Logged FormatError State :=
  numbered.foldlM (fun s line => s.step line.1 line.2) s

end State

/-- The lines of a text with their numbers, counted from 1. -/
def numberedLines (text : String) : List (List Char × Nat) := (lines text.toList).zipIdx 1

/-- The sections of a configuration in the order of their first headers. -/
def read (text : String) : Logged FormatError (List Section) := do
  let final ← State.run {} (numberedLines text)
  return final.sections

end SwitchInventory.Config
