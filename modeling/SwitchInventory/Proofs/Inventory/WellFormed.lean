import SwitchInventory.Proofs.Config.Valid
import SwitchInventory.Proofs.Inventory.Overlay
import SwitchInventory.Proofs.PortMapping.RoundTrip
import SwitchInventory.Proofs.Switch.RoundTrip

namespace SwitchInventory

open SwitchInventory.Config SwitchInventory.Sequence

def Declaration.WellFormed : Declaration → Prop
  | coordination uri => SafeValue uri
  | mappings m => ∀ h ∈ m.hosts, h.WellFormed
  | switch s => s.WellFormed
  | nothing => True

theorem PortMappings.result_ofSection (s : Config.Section) :
    (ofSection s).result =
      (s.entries.mapM fun e => HostPorts.read e.key e.value (some e.line)).map
        (insertAll {}) := by
  have hstep : (fun (m : PortMappings) e => (addEntry m e).result) =
      fun m e => (HostPorts.read e.key e.value (some e.line)).map m.insert := by
    funext m e
    unfold addEntry
    rw [Logged.result_bind, Logged.result_ofExcept]
    cases HostPorts.read e.key e.value (some e.line) <;> rfl
  unfold ofSection
  rw [Logged.result_foldlM, hstep, foldlM_map]
  rfl

theorem PortMappings.wellFormed_of_ofSection {s : Config.Section} (hs : s.WellFormed)
    {m : PortMappings} (h : (ofSection s).result = .ok m) : ∀ h ∈ m.hosts, h.WellFormed := by
  rw [result_ofSection] at h
  obtain ⟨hosts, hread, rfl⟩ := map_eq_ok_iff.mp h
  intro host hmem
  rw [hosts_insertAll] at hmem
  rcases Keyed.mem_foldl_put hmem with hmem | hmem
  · cases hmem
  · obtain ⟨e, he, hhost⟩ := exists_mem_of_forall₂ (mapM_eq_ok_iff.mp hread) hmem
    exact HostPorts.wellFormed_of_read (hs.keys e he) (hs.values e he) hhost

private theorem Declaration.wellFormed_ofSettings {s : Config.Section} (hs : s.WellFormed) :
    (ofSettings s).WellFormed := by
  unfold ofSettings
  cases h : s.get? "coordination_uri" with
  | none => trivial
  | some uri =>
    obtain ⟨e, he, rfl⟩ := Option.map_eq_some_iff.mp h
    exact hs.values e (List.mem_of_find?_eq_some he)

theorem Declaration.wellFormed_of_ofSection {s : Config.Section} (hs : s.WellFormed)
    {d : Declaration} (h : ofSection s = .ok d) : d.WellFormed := by
  obtain ⟨p, hp, h⟩ := bind_eq_ok_iff.mp h
  cases p with
  | settings =>
    cases h
    exact wellFormed_ofSettings hs
  | portMappings =>
    obtain ⟨m, hm, h⟩ := bind_eq_ok_iff.mp h
    cases h
    exact PortMappings.wellFormed_of_ofSection hs hm
  | switch name =>
    obtain ⟨t, ht, h⟩ := bind_eq_ok_iff.mp h
    cases h
    exact Switch.wellFormed_of_ofSection hs hp ht
  | other =>
    cases h
    trivial

namespace Inventory

structure WellFormed (inv : Inventory) : Prop extends Canonical inv where
  uri : ∀ uri ∈ inv.settings.coordinationUri?, SafeValue uri
  hosts : ∀ h ∈ inv.portMappings.hosts, h.WellFormed
  switches : ∀ s ∈ inv.switches, s.WellFormed

instance (inv : Inventory) : Decidable inv.WellFormed :=
  decidable_of_iff
    (inv.Canonical ∧ (∀ uri ∈ inv.settings.coordinationUri?, SafeValue uri) ∧
      (∀ h ∈ inv.portMappings.hosts, h.WellFormed) ∧ ∀ s ∈ inv.switches, s.WellFormed)
    ⟨fun ⟨h1, h2, h3, h4⟩ => ⟨h1, h2, h3, h4⟩, fun ⟨h1, h2, h3, h4⟩ => ⟨h1, h2, h3, h4⟩⟩

theorem wellFormed_empty : WellFormed {} where
  toCanonical := canonical_empty
  uri := by
    intro uri h
    cases h
  hosts := by
    intro h hmem
    cases hmem
  switches := by
    intro s hmem
    cases hmem

/-- What is declared in a well-formed text keeps an inventory well-formed. -/
theorem WellFormed.apply {inv : Inventory} (h : inv.WellFormed) {d : Declaration}
    (hd : d.WellFormed) : (inv.apply d).WellFormed := by
  refine ⟨h.toCanonical.apply d, ?_, ?_, ?_⟩
  · cases d with
    | coordination uri =>
      intro u hu
      exact Option.some.inj hu ▸ hd
    | mappings m => exact h.uri
    | switch s => exact h.uri
    | nothing => exact h.uri
  · cases d with
    | coordination uri => exact h.hosts
    | mappings m =>
      intro host hmem
      change host ∈ (inv.portMappings.insertAll m.hosts).hosts at hmem
      rw [PortMappings.hosts_insertAll] at hmem
      rcases Keyed.mem_foldl_put hmem with hmem | hmem
      · exact h.hosts host hmem
      · exact hd host hmem
    | switch s => exact h.hosts
    | nothing => exact h.hosts
  · cases d with
    | coordination uri => exact h.switches
    | mappings m => exact h.switches
    | switch s =>
      intro t hmem
      rcases Keyed.mem_put hmem with rfl | hmem
      · exact hd
      · exact h.switches t hmem
    | nothing => exact h.switches

theorem WellFormed.applyAll {inv : Inventory} (h : inv.WellFormed) {ds : List Declaration}
    (hds : ∀ d ∈ ds, d.WellFormed) : (inv.applyAll ds).WellFormed := by
  induction ds generalizing inv with
  | nil => exact h
  | cons d ds ih =>
    exact ih (h.apply (hds d List.mem_cons_self)) fun e he => hds e (List.mem_cons_of_mem d he)

theorem wellFormed_of_mem_declarations {text : String} {ds : List Declaration}
    (h : declarations text = .ok ds) : ∀ d ∈ ds, d.WellFormed := by
  obtain ⟨sections, hread, hds⟩ := bind_eq_ok_iff.mp h
  have hwf := wellFormed_of_read hread
  intro d hd
  obtain ⟨s, hs, hsd⟩ := exists_mem_of_forall₂ (mapM_eq_ok_iff.mp hds) hd
  exact Declaration.wellFormed_of_ofSection (hwf.wellFormed s hs) hsd

/-- Names and values that are read keep their meaning when they are written again. -/
theorem wellFormed_of_parse {text : String} {inv : Inventory} (h : (parse text).result = .ok inv) :
    inv.WellFormed := by
  rw [result_parse] at h
  obtain ⟨ds, hds, rfl⟩ := map_eq_ok_iff.mp h
  exact wellFormed_empty.applyAll (wellFormed_of_mem_declarations hds)

/-- What is loaded from files is well-formed, as what is parsed from one text is. -/
theorem wellFormed_of_load {files : Files} {paths : List String} {inv : Inventory}
    (h : (load files paths).result = .ok inv) : inv.WellFormed := by
  rw [result_load] at h
  obtain ⟨dss, hdss, rfl⟩ := map_eq_ok_iff.mp h
  apply wellFormed_empty.applyAll
  intro d hd
  obtain ⟨ds, hds, hd⟩ := List.mem_flatten.mp hd
  obtain ⟨path, -, hpath⟩ := exists_mem_of_forall₂ (mapM_eq_ok_iff.mp hdss) hds
  obtain ⟨text, -, htext⟩ := bind_eq_ok_iff.mp hpath
  cases hdecl : declarations text with
  | error e =>
    rw [hdecl] at htext
    cases htext
  | ok es =>
    rw [hdecl] at htext
    cases htext
    exact wellFormed_of_mem_declarations hdecl d hd

end Inventory

end SwitchInventory
