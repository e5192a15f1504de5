import SwitchInventory.Keyed
import SwitchInventory.Text.Quoted

namespace SwitchInventory

structure SwitchPort where
  switch : String
  port : String
  deriving DecidableEq, Repr

namespace SwitchPort

/-- The port as it is written: the switch, a double colon, the port. -/
def text (p : SwitchPort) : String := p.switch ++ "::" ++ p.port

def describe (p : SwitchPort) : String :=
  "SwitchPort \x7b switch: " ++ Text.quote p.switch ++ ", port: " ++ Text.quote p.port ++ " \x7d"

def describeAll (ports : List SwitchPort) : String :=
  "[" ++ ", ".intercalate (ports.map describe) ++ "]"

end SwitchPort

/-- The ports of one host, in order. A host id with a PCI address at its end stands for one virtual
function of the host and is independent of the host itself. -/
structure HostPorts where
  hostId : String
  ports : List SwitchPort
  deriving DecidableEq, Repr

def HostPorts.describe (h : HostPorts) : String :=
  "HostPortMapping \x7b host_id: " ++ Text.quote h.hostId ++ ", ports: " ++
    SwitchPort.describeAll h.ports ++ " \x7d"

/-- The mapped hosts in the order of their declaration. -/
structure PortMappings where
  hosts : List HostPorts := []
  deriving DecidableEq, Repr

namespace PortMappings

def get? (m : PortMappings) (hostId : String) : Option (List SwitchPort) :=
  (Keyed.find? HostPorts.hostId hostId m.hosts).map (·.ports)

/-- Adds a mapping, in the place of an earlier one for the same host. -/
def insert (m : PortMappings) (h : HostPorts) : PortMappings :=
  ⟨Keyed.put HostPorts.hostId h m.hosts⟩

def insertAll (m : PortMappings) (hosts : List HostPorts) : PortMappings := hosts.foldl insert m

theorem hosts_insertAll (m : PortMappings) (hosts : List HostPorts) :
    (m.insertAll hosts).hosts =
      hosts.foldl (fun hosts h => Keyed.put HostPorts.hostId h hosts) m.hosts := by
  unfold insertAll
  induction hosts generalizing m with
  | nil => rfl
  | cons h hosts ih => exact ih (m.insert h)

def hostIds (m : PortMappings) : List String := m.hosts.map (·.hostId)

def size (m : PortMappings) : Nat := m.hosts.length

def isEmpty (m : PortMappings) : Bool := m.hosts.isEmpty

def describe (m : PortMappings) : String :=
  "PortMappings([" ++ ", ".intercalate (m.hosts.map HostPorts.describe) ++ "])"

end PortMappings

end SwitchInventory
