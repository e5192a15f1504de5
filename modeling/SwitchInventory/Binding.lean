import SwitchInventory.Text.Quoted

namespace SwitchInventory

inductive PortBinding where
  /-- the port of a bare-metal machine, on a switch given by name or by hardware address -/
  | baremetal (switchInfo? switchId? : Option String) (portId : String)
  /-- the port of a virtual machine on a compute host; a PCI slot marks a virtual function -/
  | normal (hostId : String) (pciSlot? : Option String)
  deriving DecidableEq, Repr

def describeOptional : Option String → String
  | none => "None"
  | some s => "Some(" ++ Text.quote s ++ ")"

def PortBinding.describe : PortBinding → String
  | baremetal switchInfo? switchId? portId =>
    "Baremetal \x7b switch_info: " ++ describeOptional switchInfo? ++ ", switch_id: " ++
      describeOptional switchId? ++ ", port_id: " ++ Text.quote portId ++ " \x7d"
  | normal hostId pciSlot? =>
    "Normal \x7b host_id: " ++ Text.quote hostId ++ ", pci_slot: " ++
      describeOptional pciSlot? ++ " \x7d"

end SwitchInventory
