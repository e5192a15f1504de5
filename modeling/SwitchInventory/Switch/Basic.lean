import SwitchInventory.Flag
import SwitchInventory.Parameters

namespace SwitchInventory

/-- A declared switch. Custom parameters are kept without the mark that tells them apart. -/
structure Switch where
  name : String
  standard : Parameters := .empty
  custom : Parameters := .empty
  deriving DecidableEq, Inhabited

namespace Switch

/-- The standard parameters that are flags. -/
def flagNames : List String := ["manage_vlans", "stp_edge"]

/-- The standard parameters that a platform role receives. -/
def roleNames : List String := ["stp_edge"]

def networkOs? (s : Switch) : Option String := s.standard.get? "ansible_network_os"

def mac? (s : Switch) : Option String := s.standard.get? "mac"

/-- The value of a flag, or `fallback` where it is not set or not readable. -/
def flag (s : Switch) (name : String) (fallback : Bool) : Bool :=
  ((s.standard.get? name).bind Flag.read?).getD fallback

def managesVlans (s : Switch) : Bool := s.flag "manage_vlans" true

def stpEdge (s : Switch) : Bool := s.flag "stp_edge" false

/-- What a platform role receives: the standard parameters meant for it, then the custom ones. -/
def roleArguments (s : Switch) : Parameters :=
  (Parameters.ofPairs (s.standard.pairs.filter (·.1 ∈ roleNames))).insertAll s.custom.pairs

end Switch

end SwitchInventory
