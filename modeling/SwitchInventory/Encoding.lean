import SwitchInventory.Binding
import SwitchInventory.Inventory.Basic
import SwitchInventory.Json.Kind
import SwitchInventory.Json.Value
import SwitchInventory.Platform

namespace SwitchInventory

open Json

namespace SwitchPort

def toJson (p : SwitchPort) : Value := .object [("switch", .text p.switch), ("port", .text p.port)]

def fields : Fields (String × String × Unit) :=
  .field "switch" Reader.text .required (.field "port" Reader.text .required .done)

def reader : Reader SwitchPort := do
  let (switch, port, _) ← fields.read "struct SwitchPort"
  return { switch, port }

end SwitchPort

namespace HostPorts

def toJson (h : HostPorts) : Value :=
  .object [("host_id", .text h.hostId), ("ports", .list (h.ports.map SwitchPort.toJson))]

def fields : Fields (String × List SwitchPort × Unit) :=
  .field "host_id" Reader.text .required
    (.field "ports" (Reader.list SwitchPort.reader) .required .done)

def reader : Reader HostPorts := do
  let (hostId, ports, _) ← fields.read "struct HostPortMapping"
  return { hostId, ports }

end HostPorts

namespace PortMappings

def toJson (m : PortMappings) : Value := .list (m.hosts.map HostPorts.toJson)

/-- Reads mappings; a host may occur more than once. -/
def reader : Reader PortMappings := return { hosts := ← Reader.list HostPorts.reader }

end PortMappings

namespace Parameters

def toJson (p : Parameters) : Value := .object (p.pairs.map fun (name, value) => (name, .text value))

/-- Reads parameters. A name that occurs again keeps its place and takes the later value. -/
def reader : Reader Parameters :=
  return ofPairs (← Reader.members "a map of string parameters" Reader.text)

end Parameters

namespace Switch

def toJson (s : Switch) : Value :=
  .object [("name", .text s.name), ("standard", s.standard.toJson), ("custom", s.custom.toJson)]

def fields : Fields (String × Parameters × Parameters × Unit) :=
  .field "name" Reader.text .required
    (.field "standard" Parameters.reader .required
      (.field "custom" Parameters.reader .required .done))

def reader : Reader Switch := do
  let (name, standard, custom, _) ← fields.read "struct SwitchConfig"
  return { name, standard, custom }

end Switch

namespace Settings

/-- The settings as a record, of which only those that are set are written. -/
def toJson (s : Settings) : Value :=
  match s.coordinationUri? with
  | some uri => .object [("coordination_uri", .text uri)]
  | none => .object []

def fields : Fields (Option String × Unit) :=
  .field "coordination_uri" (Reader.orNull Reader.text) (.default none) .done

def reader : Reader Settings := do
  let (coordinationUri?, _) ← fields.read "struct DriverSettings"
  return { coordinationUri? }

end Settings

namespace Inventory

def macEntryJson (e : String × String) : Value := .list [.text e.1, .text e.2]

def toJson (inv : Inventory) : Value :=
  .object
    [("settings", inv.settings.toJson),
     ("port_mappings", inv.portMappings.toJson),
     ("switches", .list (inv.switches.map Switch.toJson)),
     ("mac_map", .list (inv.macIndex.map macEntryJson))]

/-- The fields of an inventory, of which any may be missing. -/
def fields :
    Fields (Settings × PortMappings × List Switch × List (String × String) × Unit) :=
  .field "settings" Settings.reader (.default {})
    (.field "port_mappings" PortMappings.reader (.default {})
      (.field "switches" (Reader.list Switch.reader) (.default [])
        (.field "mac_map" (Reader.list (Reader.pair Reader.text Reader.text)) (.default [])
          .done)))

/-- Reads an inventory. Its index is taken as it is given. -/
def reader : Reader Inventory := do
  let (settings, portMappings, switches, macIndex, _) ← fields.read "struct Inventory"
  return { settings, portMappings, switches, macIndex }

end Inventory

namespace PortBinding

def toJson : PortBinding → Value
  | baremetal switchInfo? switchId? portId =>
    .object [("baremetal", .object
      [("switch_info", .optional switchInfo?), ("switch_id", .optional switchId?),
       ("port_id", .text portId)])]
  | normal hostId pciSlot? =>
    .object [("normal", .object
      [("host_id", .text hostId), ("pci_slot", .optional pciSlot?)])]

def baremetalFields : Fields (Option String × Option String × String × Unit) :=
  .field "switch_info" (Reader.orNull Reader.text) (.optional none)
    (.field "switch_id" (Reader.orNull Reader.text) (.optional none)
      (.field "port_id" Reader.text .required .done))

def hostFields : Fields (String × Option String × Unit) :=
  .field "host_id" Reader.text .required
    (.field "pci_slot" (Reader.orNull Reader.text) (.optional none) .done)

def variants : List (Variant PortBinding) :=
  [.record "baremetal" do
      let (switchInfo?, switchId?, portId, _) ←
        baremetalFields.read "struct variant PortBinding::Baremetal"
      return baremetal switchInfo? switchId? portId,
   .record "normal" do
      let (hostId, pciSlot?, _) ← hostFields.read "struct variant PortBinding::Normal"
      return normal hostId pciSlot?]

def reader : Reader PortBinding := Variant.readOneOf variants

end PortBinding

namespace NetworkOs

def toJson (os : NetworkOs) : Value := .text os.name

def reader : Reader NetworkOs := Variant.readOneOf (all.map fun os => .unit os.name os)

end NetworkOs

def Task.toJson (t : Task) : Value :=
  .object [("switch", .text t.switch), ("role", .text t.role), ("vars", t.vars.toJson)]

end SwitchInventory
