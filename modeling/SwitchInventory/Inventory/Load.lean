import SwitchInventory.Config.Reader
import SwitchInventory.Files
import SwitchInventory.Inventory.Basic
import SwitchInventory.PortMapping.Reader
import SwitchInventory.Switch.Reader

namespace SwitchInventory

inductive LoadError where
  | malformed (path : String) (error : FormatError)
  | unreadable (path : String) (failure : ReadFailure)
  deriving DecidableEq, Repr

namespace LoadError

def path : LoadError → String
  | malformed path _ => path
  | unreadable path _ => path

def cause : LoadError → String
  | malformed _ error => error.message
  | unreadable _ failure => failure.message

/-- The error as it is reported, with its path. -/
def message : LoadError → String
  | malformed path error => path ++ ": " ++ error.message
  | unreadable path _ => "could not read " ++ path

end LoadError

namespace Inventory

/-- Takes in one section according to its purpose. -/
def addSection (inv : Inventory) (s : Config.Section) : Logged FormatError Inventory := do
  match ← Logged.ofExcept (Purpose.ofSection s) with
  | .settings =>
    match s.get? "coordination_uri" with
    | some uri => return { inv with settings.coordinationUri? := some uri }
    | none => return inv
  | .portMappings =>
    let mappings ← PortMappings.ofSection s
    return { inv with portMappings := inv.portMappings.insertAll mappings.hosts }
  | .switch name =>
    let switch ← Logged.ofExcept (Switch.ofSection name s)
    return inv.insertSwitch switch
  | .other => return inv

def merge (inv : Inventory) (text : String) : Logged FormatError Inventory := do
  (← Config.read text).foldlM addSection inv

def announce {ε : Type} (inv : Inventory) : Logged ε Unit := do
  Logged.log .info .inventory ("Ansible Host List: " ++ ", ".intercalate inv.switchNames)
  Logged.log .debug .inventory ("Ansible Port Mappings: " ++ inv.portMappings.describe)

/-- The inventory that the text of a configuration declares. -/
def parse (text : String) : Logged FormatError Inventory := do
  let inv ← merge {} text
  announce inv
  return inv

def mergeFile (files : Files) (inv : Inventory) (path : String) : Logged LoadError Inventory := do
  Logged.log .debug .inventory ("reading inventory from " ++ Text.quote path)
  let text ← Logged.ofExcept ((files path).mapError (LoadError.unreadable path))
  (inv.merge text).mapError (LoadError.malformed path)

/-- The inventory that the files at some paths declare together. -/
def load (files : Files) (paths : List String) : Logged LoadError Inventory := do
  let inv ← paths.foldlM (mergeFile files) {}
  announce inv
  return inv

end Inventory

end SwitchInventory
