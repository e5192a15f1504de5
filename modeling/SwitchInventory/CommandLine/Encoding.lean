import SwitchInventory.CommandLine.Options
import SwitchInventory.Encoding

namespace SwitchInventory.CommandLine

open Json

namespace OutputFormat

def toJson (f : OutputFormat) : Value := .text f.name

def reader : Reader OutputFormat := Variant.readOneOf (all.map fun f => .unit f.name f)

end OutputFormat

namespace ShowOptions

def toJson (o : ShowOptions) : Value := .object [("format", o.format.toJson)]

def fields : Fields (OutputFormat × Unit) := .field "format" OutputFormat.reader .required .done

def reader : Reader ShowOptions := do
  let (format, _) ← fields.read "struct ShowCmd"
  return { format }

end ShowOptions

namespace LookupTarget

def toJson : LookupTarget → Value
  | host hostId pciSlot? =>
    .object [("host", .object [("host_id", .text hostId), ("pci_slot", .optional pciSlot?)])]
  | baremetal switchInfo? switchId? portId =>
    .object [("baremetal", .object
      [("switch_info", .optional switchInfo?), ("switch_id", .optional switchId?),
       ("port_id", .text portId)])]

def variants : List (Variant LookupTarget) :=
  [.record "host" do
      let (hostId, pciSlot?, _) ←
        PortBinding.hostFields.read "struct variant LookupCmdType::Host"
      return host hostId pciSlot?,
   .record "baremetal" do
      let (switchInfo?, switchId?, portId, _) ←
        PortBinding.baremetalFields.read "struct variant LookupCmdType::Baremetal"
      return baremetal switchInfo? switchId? portId]

def reader : Reader LookupTarget := Variant.readOneOf variants

end LookupTarget

namespace LookupOptions

def toJson (o : LookupOptions) : Value := .object [("binding", o.target.toJson)]

def fields : Fields (LookupTarget × Unit) := .field "binding" LookupTarget.reader .required .done

def reader : Reader LookupOptions := do
  let (target, _) ← fields.read "struct LookupCmd"
  return { target }

end LookupOptions

namespace Command

def toJson : Command → Value
  | check => .text "Check"
  | «show» options => .object [("Show", options.toJson)]
  | ansibleInventory => .text "AnsibleInventory"
  | lookup options => .object [("Lookup", options.toJson)]
  | platforms => .text "Platforms"

def variants : List (Variant Command) :=
  [.unit "Check" check,
   .content "Show" (return «show» (← ShowOptions.reader)),
   .unit "AnsibleInventory" ansibleInventory,
   .content "Lookup" (return lookup (← LookupOptions.reader)),
   .unit "Platforms" platforms]

def reader : Reader Command := Variant.readOneOf variants

end Command

end SwitchInventory.CommandLine
