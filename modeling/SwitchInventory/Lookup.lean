import SwitchInventory.Binding
import SwitchInventory.Inventory.Basic
import SwitchInventory.Log
import SwitchInventory.PortMapping.Reader

namespace SwitchInventory

inductive LookupError where
  /-- the binding lacks what is needed to name the port -/
  | missingLocalLinkInfo (field : String)
  /-- no switch has the given hardware address -/
  | unknownSwitch (mac : String)
  deriving DecidableEq, Repr

def LookupError.message : LookupError → String
  | missingLocalLinkInfo field => "local_link_information is missing the " ++ field
  | unknownSwitch mac => "no switch name given and mac " ++ mac ++ " is not in the inventory"

namespace Inventory

/-- The name of the switch of a bare-metal port: the given name unless it is empty, else that of the
switch with the given hardware address, which is in upper case. -/
def baremetalSwitch (inv : Inventory) (switchInfo? : Option String) (mac : String) :
    Except LookupError String :=
  match switchInfo?.filter (· ≠ "") with
  | some name => .ok name
  | none =>
    if mac = "" then .error (.missingLocalLinkInfo "switch_info or switch_id")
    else
      match inv.switchForMac? mac with
      | some name => .ok name
      | none => .error (.unknownSwitch mac)

/-- The switch ports that a binding lands on. A host that is not mapped has none. -/
def switchPorts (inv : Inventory) : PortBinding → Logged LookupError (List SwitchPort)
  | .baremetal switchInfo? switchId? portId => do
    if portId = "" then Logged.fail (.missingLocalLinkInfo "port_id")
    else
      let mac := Text.upper (switchId?.getD "")
      let name ← Logged.ofExcept (inv.baremetalSwitch switchInfo? mac)
      Logged.log .debug .lookup
        ("Local Link Info:: name: " ++ name ++ " mac: " ++ mac ++ " port: " ++ portId)
      return [⟨name, portId⟩]
  | .normal hostId pciSlot? => do
    let host := match pciSlot? with
      | some slot => virtualHostId hostId slot
      | none => hostId
    Logged.log .debug .lookup ("Host-ID lookup: " ++ host)
    match inv.portsForHost? host with
    | some ports => return ports
    | none =>
      Logged.log .debug .lookup ("no port mapping for host " ++ host)
      return []

end Inventory

end SwitchInventory
