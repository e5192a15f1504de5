import SwitchInventory.Inventory.Basic
import SwitchInventory.Json.Value
import SwitchInventory.Switch.Reader

namespace SwitchInventory

open Json (Value)

/-- The value of a standard parameter as a host variable. -/
def Switch.hostVar (name value : String) : Value :=
  match if name ∈ flagNames then Flag.read? value else none with
  | some b => .boolean b
  | none => .text value

/-- The variables of a switch as a host, each with its name. -/
def Switch.hostVars (s : Switch) : List (String × Value) :=
  (s.standard.pairs.map fun (name, value) => (name, hostVar name value)) ++
    s.custom.pairs.map fun (name, value) => (customMark ++ name, .text value)

/-- The inventory as Ansible reads it. -/
def Inventory.hosts (inv : Inventory) : Value :=
  let hosts := inv.switches.map fun s => (s.name, Value.sorted s.hostVars)
  .object [("all", .object [("hosts", .sorted hosts)])]

end SwitchInventory
