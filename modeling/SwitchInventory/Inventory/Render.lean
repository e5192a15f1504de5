import SwitchInventory.Config.Writer
import SwitchInventory.Inventory.Basic
import SwitchInventory.Switch.Reader

namespace SwitchInventory

def HostPorts.value (h : HostPorts) : String := ",".intercalate (h.ports.map SwitchPort.text)

def Settings.sections (s : Settings) : List Config.Section :=
  match s.coordinationUri? with
  | some uri => [{ name := settingsName, entries := [{ key := "coordination_uri", value := uri }] }]
  | none => []

/-- The section that declares the port mappings. -/
def PortMappings.sections (m : PortMappings) : List Config.Section :=
  if m.isEmpty then []
  else
    [{ name := sectionMark ++ mappingsName
       entries := m.hosts.map fun h => { key := h.hostId, value := h.value } }]

/-- The section that declares a switch, the custom parameters after the standard ones. -/
def Switch.toSection (s : Switch) : Config.Section where
  name := sectionMark ++ s.name
  entries :=
    (s.standard.pairs.map fun (name, value) => { key := name, value }) ++
      s.custom.pairs.map fun (name, value) => { key := customMark ++ name, value }

namespace Inventory

def sections (inv : Inventory) : List Config.Section :=
  inv.settings.sections ++ inv.portMappings.sections ++ inv.switches.map Switch.toSection

/-- The text of a configuration that declares the inventory. -/
def render (inv : Inventory) : String := Config.write inv.sections

end Inventory

end SwitchInventory
