import SwitchInventory.PortMapping.Basic
import SwitchInventory.Switch.Basic

namespace SwitchInventory

structure Settings where
  /-- the coordination backend, where one is named -/
  coordinationUri? : Option String := none
  deriving DecidableEq, Repr

def Settings.coordinationUri (s : Settings) : String :=
  s.coordinationUri?.getD "etcd://127.0.0.1:2379"

/-- Everything a configuration declares. The index holds hardware addresses in upper case, each with
the name of its switch. -/
structure Inventory where
  settings : Settings := {}
  portMappings : PortMappings := {}
  switches : List Switch := []
  macIndex : List (String × String) := []
  deriving DecidableEq

namespace Inventory

/-- Enters the address of a switch into an index. A known address keeps its place and leads to this
switch from now on. -/
def indexMac (index : List (String × String)) (s : Switch) : List (String × String) :=
  match s.mac? with
  | none => index
  | some mac => Keyed.put Prod.fst (Text.upper mac, s.name) index

def macIndexOf (switches : List Switch) : List (String × String) := switches.foldl indexMac []

def switch? (inv : Inventory) (name : String) : Option Switch :=
  Keyed.find? Switch.name name inv.switches

def switchNames (inv : Inventory) : List String := inv.switches.map (·.name)

/-- The name of the switch with a hardware address, in whatever case it is given. -/
def switchForMac? (inv : Inventory) (mac : String) : Option String :=
  (Keyed.find? Prod.fst (Text.upper mac) inv.macIndex).map Prod.snd

def portsForHost? (inv : Inventory) (hostId : String) : Option (List SwitchPort) :=
  inv.portMappings.get? hostId

/-- Adds a switch, in the place of an earlier one of its name, and makes the index anew. -/
def insertSwitch (inv : Inventory) (s : Switch) : Inventory :=
  let switches := Keyed.put Switch.name s inv.switches
  { inv with switches, macIndex := macIndexOf switches }

/-- Adds a port mapping, in the place of an earlier one for its host. -/
def insertMapping (inv : Inventory) (h : HostPorts) : Inventory :=
  { inv with portMappings := inv.portMappings.insert h }

end Inventory

end SwitchInventory
