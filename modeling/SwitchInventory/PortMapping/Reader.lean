import SwitchInventory.Config.Section
import SwitchInventory.FormatError
import SwitchInventory.Log
import SwitchInventory.PortMapping.Basic
import SwitchInventory.Text.Blank
import SwitchInventory.Text.Split

namespace SwitchInventory

open Text

/-- Reads one port. Its first double colon separates the switch from the port, which may hold
further colons; both are trimmed and neither may be empty. -/
def SwitchPort.read (spec : List Char) : Except Fault SwitchPort :=
  match cut? [':', ':'] spec with
  | none => .error .missingPortSeparator
  | some (front, back) =>
    let switch := trim front
    let port := trim back
    if switch.isEmpty || port.isEmpty then .error .emptyName
    else .ok ⟨String.ofList switch, String.ofList port⟩

namespace HostPorts

def pieces (value : String) : List (List Char) := (value.toList.splitOn ',').map trim

/-- The text a malformed piece is reported as: a piece without a separator is shown with its host.
-/
def faultSubject (hostId : String) (piece : List Char) : Fault → String
  | .missingPortSeparator => hostId ++ " = " ++ String.ofList piece
  | _ => String.ofList piece

def readPiece (hostId : String) (line : Option Nat) (piece : List Char) :
    Except FormatError SwitchPort :=
  match SwitchPort.read piece with
  | .ok port => .ok port
  | .error fault => .error ⟨fault, faultSubject hostId piece fault, line⟩

def read (hostId value : String) (line : Option Nat) : Except FormatError HostPorts :=
  if ':' ∈ hostId.toList then .error ⟨.reservedSeparator, hostId, line⟩
  else do
    let ports ← (pieces value).mapM (readPiece hostId line)
    return ⟨hostId, ports⟩

end HostPorts

namespace PortMappings

def addEntry (m : PortMappings) (e : Config.Entry) : Logged FormatError PortMappings := do
  let host ← Logged.ofExcept (HostPorts.read e.key e.value (some e.line))
  Logged.log .trace .portMappings
    ("port mapping " ++ host.hostId ++ " -> " ++ SwitchPort.describeAll host.ports)
  return m.insert host

def ofSection (s : Config.Section) : Logged FormatError PortMappings :=
  s.entries.foldlM addEntry {}

end PortMappings

/-- A text without the domain part that PCI addresses of the first domain carry, wherever it
occurs. -/
def dropZeroDomain : List Char → List Char
  | '0' :: '0' :: '0' :: '0' :: ':' :: s => dropZeroDomain s
  | c :: s => c :: dropZeroDomain s
  | [] => []

/-- The digits of a PCI address that mark a virtual function: its function number, its zero domain
and its colons are left out. -/
def pciDigits (slot : List Char) : List Char :=
  (dropZeroDomain (slot.takeWhile (· ≠ '.'))).filter (· ≠ ':')

/-- The host id under which the virtual function at a PCI address is mapped. -/
def virtualHostId (hostId slot : String) : String :=
  hostId ++ "-" ++ String.ofList (pciDigits slot.toList)

end SwitchInventory
