import SwitchInventory.Inventory.Load
import SwitchInventory.Proofs.Keyed
import SwitchInventory.Proofs.Sequence

namespace SwitchInventory

open SwitchInventory.Sequence

inductive Declaration where
  | coordination (uri : String)
  | mappings (m : PortMappings)
  | switch (s : Switch)
  | nothing
  deriving DecidableEq

namespace Declaration

def ofSettings (s : Config.Section) : Declaration :=
  match s.get? "coordination_uri" with
  | some uri => coordination uri
  | none => nothing

/-- The declaration that a section makes, where it is not malformed. -/
def ofSection (s : Config.Section) : Except FormatError Declaration := do
  match ← Purpose.ofSection s with
  | .settings => return ofSettings s
  | .portMappings => return mappings (← (PortMappings.ofSection s).result)
  | .switch name => return switch (← Switch.ofSection name s)
  | .other => return nothing

end Declaration

namespace Inventory

def apply (inv : Inventory) : Declaration → Inventory
  | .coordination uri => { inv with settings.coordinationUri? := some uri }
  | .mappings m => { inv with portMappings := inv.portMappings.insertAll m.hosts }
  | .switch s => inv.insertSwitch s
  | .nothing => inv

def applyAll (inv : Inventory) (ds : List Declaration) : Inventory := ds.foldl apply inv

theorem applyAll_append (inv : Inventory) (ds es : List Declaration) :
    inv.applyAll (ds ++ es) = (inv.applyAll ds).applyAll es := List.foldl_append

/-- The declarations in the text of a configuration. -/
def declarations (text : String) : Except FormatError (List Declaration) :=
  (Config.read text).result >>= fun sections => sections.mapM Declaration.ofSection

theorem result_addSection (inv : Inventory) (s : Config.Section) :
    (inv.addSection s).result = (Declaration.ofSection s).map inv.apply := by
  unfold addSection Declaration.ofSection
  rw [Logged.result_bind, Logged.result_ofExcept]
  cases Purpose.ofSection s with
  | error e => rfl
  | ok p =>
    cases p with
    | settings =>
      change Logged.result (match s.get? "coordination_uri" with | some uri => _ | none => _) =
        .ok (inv.apply (Declaration.ofSettings s))
      unfold Declaration.ofSettings
      cases s.get? "coordination_uri" <;> rfl
    | portMappings =>
      change Logged.result (PortMappings.ofSection s >>= _) = _
      rw [Logged.result_bind]
      change (PortMappings.ofSection s).result >>= _ = Except.map _ ((PortMappings.ofSection s).result >>= _)
      cases (PortMappings.ofSection s).result <;> rfl
    | switch name =>
      change Logged.result (Logged.ofExcept (Switch.ofSection name s) >>= _) = _
      rw [Logged.result_bind, Logged.result_ofExcept]
      change Switch.ofSection name s >>= _ = Except.map _ (Switch.ofSection name s >>= _)
      cases Switch.ofSection name s <;> rfl
    | other => rfl

/-- A text is taken in by reading what it declares, in which no inventory has a part, and applying
the declarations in order. -/
theorem result_merge (inv : Inventory) (text : String) :
    (inv.merge text).result = (declarations text).map inv.applyAll := by
  have hstep : (fun (i : Inventory) s => (i.addSection s).result) =
      fun i s => (Declaration.ofSection s).map i.apply := by
    funext i s
    exact result_addSection i s
  unfold merge declarations
  rw [Logged.result_bind]
  cases (Config.read text).result with
  | error e => rfl
  | ok sections =>
    change Logged.result (sections.foldlM addSection inv) =
      (sections.mapM Declaration.ofSection).map inv.applyAll
    rw [Logged.result_foldlM, hstep, foldlM_map]
    rfl

theorem result_parse (text : String) :
    (parse text).result = (declarations text).map (applyAll {}) := by
  have hmerge := result_merge {} text
  unfold parse
  rw [Logged.result_bind, hmerge]
  cases declarations text <;> rfl

/-- An inventory in which no host and no switch occurs twice, with the index of its switches. -/
structure Canonical (inv : Inventory) : Prop where
  nodup_hosts : (inv.portMappings.hosts.map HostPorts.hostId).Nodup
  nodup_switches : (inv.switches.map Switch.name).Nodup
  macIndex : inv.macIndex = macIndexOf inv.switches

instance (inv : Inventory) : Decidable inv.Canonical :=
  decidable_of_iff
    ((inv.portMappings.hosts.map HostPorts.hostId).Nodup ∧ (inv.switches.map Switch.name).Nodup ∧
      inv.macIndex = macIndexOf inv.switches)
    ⟨fun ⟨h1, h2, h3⟩ => ⟨h1, h2, h3⟩, fun ⟨h1, h2, h3⟩ => ⟨h1, h2, h3⟩⟩

theorem canonical_empty : Canonical {} := ⟨.nil, .nil, rfl⟩

theorem Canonical.apply {inv : Inventory} (h : inv.Canonical) (d : Declaration) :
    (inv.apply d).Canonical := by
  cases d with
  | coordination uri => exact ⟨h.nodup_hosts, h.nodup_switches, h.macIndex⟩
  | mappings m =>
    refine ⟨?_, h.nodup_switches, h.macIndex⟩
    change ((inv.portMappings.insertAll m.hosts).hosts.map HostPorts.hostId).Nodup
    rw [PortMappings.hosts_insertAll]
    exact Keyed.nodup_map_foldl_put m.hosts h.nodup_hosts
  | switch s => exact ⟨h.nodup_hosts, Keyed.nodup_map_put Switch.name s h.nodup_switches, rfl⟩
  | nothing => exact h

/-- Hosts and switches occur once, and the index is that of the switches, whatever is declared. -/
theorem Canonical.applyAll {inv : Inventory} (h : inv.Canonical) (ds : List Declaration) :
    (inv.applyAll ds).Canonical := by
  induction ds generalizing inv with
  | nil => exact h
  | cons d ds ih => exact ih (h.apply d)

end Inventory

end SwitchInventory
