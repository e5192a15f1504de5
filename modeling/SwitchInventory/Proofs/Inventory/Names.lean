import SwitchInventory.Proofs.Inventory.RoundTrip

namespace SwitchInventory

open SwitchInventory.Sequence SwitchInventory.Text

/-- A host under a usable id, with at least one port. -/
structure HostPorts.Sound (h : HostPorts) : Prop where
  id_ne_empty : h.hostId ≠ ""
  id_trimmed : Trimmed h.hostId.toList
  id_no_colon : ':' ∉ h.hostId.toList
  ports_ne_nil : h.ports ≠ []
  ports : ∀ p ∈ h.ports, p.WellFormed

/-- A switch of which no standard parameter is a custom one, and every flag can be read. -/
structure Switch.Sound (s : Switch) : Prop where
  name_ne_empty : s.name ≠ ""
  name_no_colon : ':' ∉ s.name.toList
  not_mappings : s.name ≠ mappingsName
  nodup_standard : s.standard.names.Nodup
  standard_ne_empty : "" ∉ s.standard.names
  standard_unmarked : ∀ rest, customMark ++ rest ∉ s.standard.names
  nodup_custom : s.custom.names.Nodup
  custom_ne_empty : "" ∉ s.custom.names
  flags : ∀ pair ∈ s.standard.pairs, pair.1 ∈ flagNames → Flag.read? pair.2 ≠ none

theorem HostPorts.WellFormed.sound {h : HostPorts} (hwf : h.WellFormed) : h.Sound where
  id_ne_empty hempty := hwf.key.ne_nil (String.toList_eq_nil_iff.mpr hempty)
  id_trimmed := hwf.key.trimmed
  id_no_colon := hwf.no_colon
  ports_ne_nil := hwf.ports_ne_nil
  ports := hwf.ports

theorem Switch.WellFormed.sound {s : Switch} (h : s.WellFormed) : s.Sound where
  name_ne_empty := h.name.ne_empty
  name_no_colon := h.name.no_colon
  not_mappings := h.name.not_mappings
  nodup_standard := s.standard.nodup_names
  standard_ne_empty := by
    intro hmem
    obtain ⟨pair, hpair, hempty⟩ := List.mem_map.mp hmem
    exact (h.standard pair hpair).key.ne_nil (String.toList_eq_nil_iff.mpr hempty)
  standard_unmarked := by
    intro rest hmem
    obtain ⟨pair, hpair, hname⟩ := List.mem_map.mp hmem
    exact (h.standard pair hpair).no_mark rest hname
  nodup_custom := s.custom.nodup_names
  custom_ne_empty := by
    intro hmem
    obtain ⟨pair, hpair, hempty⟩ := List.mem_map.mp hmem
    exact (h.custom pair hpair).ne_empty hempty
  flags pair hpair := (h.standard pair hpair).flag

/-- A section with the mark in front of the name declares a switch of that name. -/
def Declarable (name : String) : Prop :=
  ∀ line entries,
    (Purpose.ofSection ⟨sectionMark ++ name, line, entries⟩).map Purpose.switchName? =
      .ok (some name)

/-- All names can be declared but the empty one, those with a colon and that of the port mappings.
-/
theorem declarable_iff {name : String} :
    Declarable name ↔ name ≠ "" ∧ ':' ∉ name.toList ∧ name ≠ mappingsName := by
  constructor
  · intro h
    obtain ⟨purpose, hread, hname⟩ := map_eq_ok_iff.mp (h 0 [])
    cases purpose with
    | switch n =>
      obtain rfl := Option.some.inj hname
      exact (Purpose.name_of_ofSection_eq_switch hread).2
    | _ => cases hname
  · intro ⟨hempty, hcolon, hmappings⟩ line entries
    rw [Purpose.ofSection_marked rfl, if_neg hmappings, if_neg hempty, if_neg hcolon]
    rfl

instance (name : String) : Decidable (Declarable name) := decidable_of_iff _ declarable_iff.symm

namespace Inventory

structure Sound (inv : Inventory) : Prop where
  nodup_hosts : inv.portMappings.hostIds.Nodup
  hosts : ∀ h ∈ inv.portMappings.hosts, h.Sound
  nodup_switches : inv.switchNames.Nodup
  switches : ∀ s ∈ inv.switches, s.Sound

/-- Replacing hosts and switches, from one file to the next, leaves an inventory sound. -/
theorem sound_of_loaded {inv : Inventory} (h : inv.Loaded) : inv.Sound where
  nodup_hosts := h.wellFormed.nodup_hosts
  hosts host hhost := (h.wellFormed.hosts host hhost).sound
  nodup_switches := h.wellFormed.nodup_switches
  switches s hs := (h.wellFormed.switches s hs).sound

/-- A file, one that replaces its host and its switch, and one with a flag that cannot be read. -/
def replacing : Files := fun path =>
  if path = "a" then
    .ok "[ansible:port_mappings]\nh = s::1\n[ansible:s]\nmac = a\n"
  else if path = "b" then
    .ok "[ansible:port_mappings]\nh = t::2\n[ansible:s]\nstp_edge = on\ncp_x = 1\n"
  else if path = "c" then .ok "[ansible:s]\nmanage_vlans = some\n"
  else .error .notFound

/-- The later file replaces both the host and the switch, and a flag that cannot be read is in no
loaded inventory. -/
theorem sound_replacing : (∃ inv : Inventory, (load replacing ["a", "b"]).result = .ok inv ∧
      inv.portMappings.hosts = [⟨"h", [⟨"t", "2"⟩]⟩] ∧ inv.switchNames = ["s"] ∧ inv.Sound) ∧
    (load replacing ["a", "c"]).result =
      .error (.malformed "c" ⟨.invalidBoolean, "manage_vlans = some", some 2⟩) ∧
    ¬ Loaded { switches := [⟨"s", ⟨[("manage_vlans", "some")], by decide⟩, .empty⟩] } := by
  have hload : (load replacing ["a", "b"]).result = .ok
      { portMappings := ⟨[⟨"h", [⟨"t", "2"⟩]⟩]⟩
        switches := [⟨"s", ⟨[("stp_edge", "on")], by decide⟩, ⟨[("x", "1")], by decide⟩⟩] } := by
    rfl
  refine ⟨⟨_, hload, rfl, rfl, sound_of_loaded (.inr ⟨_, _, hload⟩)⟩, by rfl, ?_⟩
  intro hloaded
  have hflags := ((sound_of_loaded hloaded).switches _ List.mem_cons_self).flags
  exact hflags _ List.mem_cons_self (by decide) (by decide +kernel)

/-- A mapped port can name a switch that no section declares, but only by a colon in the name or by
the name of the port mappings. -/
theorem declarable_iff_of_mapped {text : String} {inv : Inventory}
    (h : (parse text).result = .ok inv) {host : HostPorts} (hhost : host ∈ inv.portMappings.hosts)
    {p : SwitchPort} (hp : p ∈ host.ports) :
    Declarable p.switch ↔ ':' ∉ p.switch.toList ∧ p.switch ≠ mappingsName := by
  have hwf := ((wellFormed_of_parse h).hosts host hhost).ports p hp
  have hempty : p.switch ≠ "" := fun hempty =>
    hwf.switch.ne_nil (String.toList_eq_nil_iff.mpr hempty)
  rw [declarable_iff]
  exact and_iff_right hempty

theorem declarable_of_parse : (parse "[ansible:port_mappings]\nh = s ::p:1\n").result =
      .ok { portMappings := ⟨[⟨"h", [⟨"s", "p:1"⟩]⟩]⟩ } ∧ Declarable "s" := by
  have hparse : (parse "[ansible:port_mappings]\nh = s ::p:1\n").result =
      .ok { portMappings := ⟨[⟨"h", [⟨"s", "p:1"⟩]⟩]⟩ } := by rfl
  have hdeclarable := declarable_iff_of_mapped hparse List.mem_cons_self (p := ⟨"s", "p:1"⟩)
    List.mem_cons_self
  exact ⟨hparse, hdeclarable.mpr (by decide)⟩

/-- A port is mapped to a switch that no section can declare. -/
theorem not_declarable_of_parse : (parse "[ansible:port_mappings]\nh = a:b::c\n").result =
      .ok { portMappings := ⟨[⟨"h", [⟨"a:b", "c"⟩]⟩]⟩ } ∧ ¬ Declarable "a:b" :=
  ⟨by rfl, by decide⟩

end Inventory

end SwitchInventory
