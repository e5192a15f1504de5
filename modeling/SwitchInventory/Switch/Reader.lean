import SwitchInventory.Config.Section
import SwitchInventory.FormatError
import SwitchInventory.Switch.Basic
import SwitchInventory.Text.Split

namespace SwitchInventory

def sectionMark : String := "ansible:"

def customMark : String := "cp_"

def settingsName : String := "ml2_ansible"

/-- The name, after the mark, of the section that holds the port mappings. -/
def mappingsName : String := "port_mappings"

inductive Purpose where
  | settings
  | portMappings
  | switch (name : String)
  | other
  deriving DecidableEq, Repr

namespace Purpose

/-- The purpose of a section, from its name. The name of a switch must not be empty and must not
hold a colon. -/
def ofSection (s : Config.Section) : Except FormatError Purpose :=
  if s.name = settingsName then .ok .settings
  else
    match Text.dropMark? sectionMark s.name with
    | none => .ok .other
    | some name =>
      if name = mappingsName then .ok .portMappings
      else if name = "" then .error ⟨.emptyName, s.name, some s.line⟩
      else if ':' ∈ name.toList then .error ⟨.reservedSeparator, s.name, some s.line⟩
      else .ok (.switch name)

def switchName? : Purpose → Option String
  | switch name => some name
  | _ => none

end Purpose

namespace Switch

/-- Adds the parameter that an entry sets: a custom one where the key carries the mark, else a
standard one, which has to be readable where it is a flag. -/
def addEntry (s : Switch) (e : Config.Entry) : Except FormatError Switch :=
  match Text.dropMark? customMark e.key with
  | some name =>
    if name = "" then .error ⟨.emptyName, e.key, some e.line⟩
    else .ok { s with custom := s.custom.insert name e.value }
  | none =>
    if e.key ∈ flagNames ∧ Flag.read? e.value = none then
      .error ⟨.invalidBoolean, e.key ++ " = " ++ e.value, some e.line⟩
    else .ok { s with standard := s.standard.insert e.key e.value }

def ofSection (name : String) (s : Config.Section) : Except FormatError Switch :=
  s.entries.foldlM addEntry { name }

end Switch

end SwitchInventory
