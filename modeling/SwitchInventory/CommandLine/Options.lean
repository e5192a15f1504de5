import SwitchInventory.Binding
import SwitchInventory.CommandLine.Grammar

namespace SwitchInventory.CommandLine

inductive OutputFormat where
  | json | yaml | ini
  deriving DecidableEq, Repr, Inhabited

namespace OutputFormat

def all : List OutputFormat := [json, yaml, ini]

def name : OutputFormat → String
  | json => "json"
  | yaml => "yaml"
  | ini => "ini"

def ofName? (name : String) : Option OutputFormat := all.find? (·.name = name)

end OutputFormat

structure ShowOptions where
  format : OutputFormat := .json
  deriving DecidableEq, Repr

inductive LookupTarget where
  /-- a port on a compute host; a PCI slot marks a virtual function -/
  | host (hostId : String) (pciSlot? : Option String)
  /-- the port of a bare-metal machine -/
  | baremetal (switchInfo? switchId? : Option String) (portId : String)
  deriving DecidableEq, Repr

structure LookupOptions where
  target : LookupTarget
  deriving DecidableEq, Repr

/-- The binding of the port that is looked up. -/
def LookupOptions.binding (l : LookupOptions) : PortBinding :=
  match l.target with
  | .host hostId pciSlot? => .normal hostId pciSlot?
  | .baremetal switchInfo? switchId? portId => .baremetal switchInfo? switchId? portId

inductive Command where
  /-- load the inventory and report on its switches -/
  | check
  /-- print the inventory -/
  | «show» (options : ShowOptions)
  /-- print the switches for Ansible -/
  | ansibleInventory
  /-- print the switch ports of a port binding -/
  | lookup (options : LookupOptions)
  /-- report the supported platforms -/
  | platforms
  deriving DecidableEq, Repr

def Command.name : Command → String
  | check => "check"
  | «show» _ => "show"
  | ansibleInventory => "ansible inventory"
  | lookup _ => "lookup"
  | platforms => "platforms"

/-- A command line: the files to load, the wish for more or fewer reports, and the command. -/
structure Options where
  input : List String
  verbosity? : Option String
  command : Command
  deriving DecidableEq, Repr

namespace Options

def defaultInput : String := "ml2_conf_ansible.ini"

def showSpec : CommandSpec where
  name := "show"
  summary := "Print the normalized inventory"
  options :=
    [{ name := "format", short? := some 'f', choices? := some (OutputFormat.all.map (·.name)) }]

def hostSpec : CommandSpec where
  name := "host"
  summary := "VM port on a compute host, SR-IOV ports also give the PCI slot"
  options := [{ name := "pci-slot" }]
  positionals := ["HOST_ID"]

def baremetalSpec : CommandSpec where
  name := "baremetal"
  summary := "Baremetal port described by local link information"
  options :=
    [{ name := "switch-info" },
     { name := "switch-id"
       summary := "Switch MAC, resolved through the inventory when no switch name is given" },
     { name := "port-id", required := true }]

def lookupSpec : CommandSpec where
  name := "lookup"
  summary := "Resolve the switch ports for a port binding"
  commands := [hostSpec, baremetalSpec]

def spec : CommandSpec where
  name := "net-ansible"
  summary := "Validate and inspect net-ansible switch inventories"
  options :=
    [{ name := "input"
       repeatable := true
       summary := "Configuration file, may be repeated and later files override earlier ones" },
     { name := "verbosity", short? := some 'v' }]
  commands :=
    [{ name := "check", summary := "Load the inventory and report any format errors" },
     showSpec,
     { name := "ansible-inventory", summary := "Print the switches as an ansible inventory" },
     lookupSpec,
     { name := "platforms", summary := "List the supported ansible_network_os values" }]
  versioned := true

/-- The command that the values given to commands within the whole one amount to. -/
def commandOf : List Given → Except Refusal Command
  | ⟨"check", _⟩ :: _ => .ok .check
  | ⟨"ansible-inventory", _⟩ :: _ => .ok .ansibleInventory
  | ⟨"platforms", _⟩ :: _ => .ok .platforms
  | ⟨"show", values⟩ :: _ =>
    .ok (.show ⟨((values.lookup "format").bind OutputFormat.ofName?).getD .json⟩)
  | ⟨"lookup", _⟩ :: ⟨"host", values⟩ :: _ =>
    match values.lookup "HOST_ID" with
    | some hostId => .ok (.lookup ⟨.host hostId (values.lookup "pci-slot")⟩)
    | none => .error .missingArgument
  | ⟨"lookup", _⟩ :: ⟨"baremetal", values⟩ :: _ =>
    match values.lookup "port-id" with
    | some portId =>
      .ok (.lookup ⟨.baremetal (values.lookup "switch-info") (values.lookup "switch-id") portId⟩)
    | none => .error .missingArgument
  | _ => .error .missingCommand

/-- The options that the values given to all commands amount to. -/
def ofGiven : List Given → Except Refusal Options
  | [] => .error .missingCommand
  | top :: inner => do
    let command ← commandOf inner
    let input := top.allValues "input"
    return {
      input := if input.isEmpty then [defaultInput] else input
      verbosity? := top.value? "verbosity"
      command }

def read (arguments : List String) : Except Refusal Options := do
  ofGiven (← spec.read [] {} arguments)

end Options

end SwitchInventory.CommandLine
