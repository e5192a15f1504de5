import SwitchInventory.Log
import SwitchInventory.Switch.Basic

namespace SwitchInventory

/-- The operating systems with a provider role of their own. -/
inductive NetworkOs where
  | cumulus | dellos10 | eos | ios | junos | nxos | openvswitch
  deriving DecidableEq, Repr

namespace NetworkOs

def all : List NetworkOs := [cumulus, dellos10, eos, ios, junos, nxos, openvswitch]

def name : NetworkOs → String
  | cumulus => "cumulus"
  | dellos10 => "dellos10"
  | eos => "eos"
  | ios => "ios"
  | junos => "junos"
  | nxos => "nxos"
  | openvswitch => "openvswitch"

/-- The system of a name, in whatever case it is given. -/
def ofName? (name : String) : Option NetworkOs := all.find? (·.name = Text.lower name)

def announceAll {ε : Type} : Logged ε Unit := do
  Logged.log .info .platform "Supported ansible_network_os values:"
  all.forM fun os => Logged.log .info .platform os.name

end NetworkOs

/-- What runs on the switches of a platform: a role, and the variables it receives for a switch. -/
structure Handler where
  networkOs : String
  role : String
  taskVars : Switch → Parameters := Switch.roleArguments

/-- The handler that runs the provider role of a system. -/
def NetworkOs.handler (os : NetworkOs) : Handler where
  networkOs := os.name
  role := "network-runner/providers/" ++ os.name

structure Task where
  switch : String
  role : String
  vars : Parameters
  deriving DecidableEq

inductive DispatchError where
  | missingNetworkOs (switch : String)
  | unsupportedPlatform (switch networkOs : String)
  deriving DecidableEq, Repr

def DispatchError.message : DispatchError → String
  | missingNetworkOs switch => "switch " ++ switch ++ " has no ansible_network_os set"
  | unsupportedPlatform switch networkOs =>
    "switch " ++ switch ++ " uses unsupported platform " ++ networkOs

/-- The known handlers, in the order of their registration. -/
structure Registry where
  handlers : List Handler := []

namespace Registry

/-- Adds a handler and removes those for the same platform. -/
def register (r : Registry) (h : Handler) : Registry :=
  ⟨r.handlers.filter (fun g => !Text.sameLetters g.networkOs h.networkOs) ++ [h]⟩

/-- The handlers of all systems with a provider role. -/
def standard : Registry := (NetworkOs.all.map NetworkOs.handler).foldl register {}

def platforms (r : Registry) : List String := r.handlers.map (·.networkOs)

def handlerFor (r : Registry) (s : Switch) : Except DispatchError Handler :=
  match s.networkOs? with
  | none => .error (.missingNetworkOs s.name)
  | some os =>
    match r.handlers.find? (fun h => Text.sameLetters h.networkOs os) with
    | some h => .ok h
    | none => .error (.unsupportedPlatform s.name os)

def dispatch (r : Registry) (s : Switch) : Logged DispatchError Task := do
  let h ← Logged.ofExcept (r.handlerFor s)
  Logged.log .debug .platform ("switch " ++ s.name ++ " handled by " ++ h.networkOs)
  return { switch := s.name, role := h.role, vars := h.taskVars s }

end Registry

end SwitchInventory
