import SwitchInventory.Proofs.Config.RoundTrip
import SwitchInventory.Proofs.Inventory.WellFormed

namespace SwitchInventory

open SwitchInventory.Config SwitchInventory.Sequence

theorem Purpose.ofSection_unnumbered {s : Config.Section} {p : Purpose} :
    ofSection s.unnumbered = .ok p ↔ ofSection s = .ok p := by
  by_cases hmark : ∃ name, s.name = sectionMark ++ name
  · obtain ⟨name, hname⟩ := hmark
    rw [ofSection_marked hname, ofSection_marked (s := s.unnumbered) hname]
    by_cases hmappings : name = mappingsName
    · rw [if_pos hmappings, if_pos hmappings]
    · by_cases hempty : name = ""
      · simp [hempty, mappingsName]
      · by_cases hcolon : ':' ∈ name.toList <;> simp [hmappings, hempty, hcolon]
  · have hno : ∀ name, s.name ≠ sectionMark ++ name := fun name hname => hmark ⟨name, hname⟩
    rw [ofSection_unmarked hno, ofSection_unmarked (s := s.unnumbered) hno, Section.name_unnumbered]

theorem Config.Section.get?_unnumbered (s : Config.Section) (key : String) :
    s.unnumbered.get? key = s.get? key := by
  unfold get? find?
  rw [entries_unnumbered, List.find?_map, Option.map_map]
  rfl

theorem PortMappings.ofSection_unnumbered {s : Config.Section} {m : PortMappings} :
    (ofSection s.unnumbered).result = .ok m ↔ (ofSection s).result = .ok m := by
  rw [result_ofSection, result_ofSection, map_eq_ok_iff, map_eq_ok_iff]
  simp only [mapM_eq_ok_iff, Section.entries_unnumbered, List.forall₂_map_left_iff,
    HostPorts.read_eq_ok_iff, Entry.key_unnumbered, Entry.value_unnumbered]

theorem Switch.addEntry_unnumbered (s : Switch) (e : Config.Entry) (t : Switch) :
    addEntry s e.unnumbered = .ok t ↔ addEntry s e = .ok t := by
  rw [addEntry_eq_ok_iff, addEntry_eq_ok_iff, ← not_exists, ← not_exists, exists_refused_iff,
    exists_refused_iff]
  rfl

theorem Switch.ofSection_unnumbered {name : String} {s : Config.Section} {t : Switch} :
    ofSection name s.unnumbered = .ok t ↔ ofSection name s = .ok t :=
  foldlM_map_eq_ok_iff addEntry_unnumbered

/-- Line numbers have no part in what a section declares. -/
theorem Declaration.ofSection_unnumbered {s : Config.Section} {d : Declaration} :
    ofSection s.unnumbered = .ok d ↔ ofSection s = .ok d := by
  have hsettings : ofSettings s.unnumbered = ofSettings s := by
    rw [ofSettings, ofSettings, Section.get?_unnumbered]
  unfold ofSection
  rw [bind_eq_ok_iff, bind_eq_ok_iff]
  apply exists_congr
  intro p
  rw [Purpose.ofSection_unnumbered]
  apply and_congr_right
  intro _
  cases p with
  | settings => rw [hsettings]
  | portMappings =>
    simp only [bind_eq_ok_iff, PortMappings.ofSection_unnumbered]
  | switch name =>
    simp only [bind_eq_ok_iff, Switch.ofSection_unnumbered]
  | other => rfl

namespace Inventory

private theorem names_settings (s : Settings) :
    (s.sections.map Config.Section.name).Sublist [settingsName] := by
  unfold Settings.sections
  cases s.coordinationUri? with
  | none => exact List.nil_sublist _
  | some uri => exact List.Sublist.refl _

private theorem names_portMappings (m : PortMappings) :
    (m.sections.map Config.Section.name).Sublist [sectionMark ++ mappingsName] := by
  unfold PortMappings.sections
  by_cases hempty : m.isEmpty
  · rw [if_pos hempty]
    exact List.nil_sublist _
  · rw [if_neg hempty]
    exact List.Sublist.refl _

theorem WellFormed.nodup_section_names {inv : Inventory} (h : inv.WellFormed) :
    (inv.sections.map Config.Section.name).Nodup := by
  have hswitches : (inv.switches.map Switch.toSection).map Config.Section.name =
      (inv.switches.map Switch.name).map (sectionMark ++ ·) := by
    rw [List.map_map, List.map_map]
    rfl
  have hall : (settingsName :: (sectionMark ++ mappingsName) ::
      (inv.switches.map Switch.name).map (sectionMark ++ ·)).Nodup := by
    rw [List.nodup_cons, List.nodup_cons]
    refine ⟨?_, ?_, ?_⟩
    · intro hmem
      rcases List.mem_cons.mp hmem with hmem | hmem
      · exact sectionMark_append_ne mappingsName hmem.symm
      · obtain ⟨name, -, hname⟩ := List.mem_map.mp hmem
        exact sectionMark_append_ne name hname
    · intro hmem
      obtain ⟨name, hname, heq⟩ := List.mem_map.mp hmem
      obtain ⟨s, hs, rfl⟩ := List.mem_map.mp hname
      exact (h.switches s hs).name.not_mappings ((String.append_right_inj sectionMark).mp heq)
    · exact h.nodup_switches.map fun a b hab => (String.append_right_inj sectionMark).mp hab
  have hsub := ((names_settings inv.settings).append (names_portMappings inv.portMappings)).append
    (List.Sublist.refl ((inv.switches.map Switch.name).map (sectionMark ++ ·)))
  rw [sections, List.map_append, List.map_append, hswitches]
  exact hsub.nodup hall

theorem WellFormed.settings_sections {inv : Inventory} (h : inv.WellFormed) :
    ∀ s ∈ inv.settings.sections, s.WellFormed := by
  intro s hs
  have huri := h.uri
  unfold Settings.sections at hs
  cases hset : inv.settings.coordinationUri? with
  | none =>
    rw [hset] at hs
    cases hs
  | some uri =>
    rw [hset] at hs
    have hname : SafeName settingsName := by decide
    have hkey : SafeKey "coordination_uri" := by decide
    rw [List.mem_singleton.mp hs]
    refine ⟨hname, by simp, ?_, ?_⟩
    · intro e he
      rw [List.mem_singleton.mp he]
      exact hkey
    · intro e he
      rw [List.mem_singleton.mp he]
      exact huri uri hset

theorem WellFormed.portMappings_sections {inv : Inventory} (h : inv.WellFormed) :
    ∀ s ∈ inv.portMappings.sections, s.WellFormed := by
  intro s hs
  unfold PortMappings.sections at hs
  split at hs
  · cases hs
  · have hname : SafeName (sectionMark ++ mappingsName) := by decide
    rw [List.mem_singleton.mp hs]
    refine ⟨hname, ?_, ?_, ?_⟩
    · have hkeys := h.nodup_hosts
      simpa [Function.comp_def] using hkeys
    · intro e he
      obtain ⟨host, hhost, rfl⟩ := List.mem_map.mp he
      exact (h.hosts host hhost).key
    · intro e he
      obtain ⟨host, hhost, rfl⟩ := List.mem_map.mp he
      exact (h.hosts host hhost).value

/-- A well-formed inventory is written as well-formed sections. -/
theorem WellFormed.sections_wellFormed {inv : Inventory} (h : inv.WellFormed) :
    Config.WellFormed inv.sections := by
  refine ⟨h.nodup_section_names, ?_⟩
  intro s hs
  rcases List.mem_append.mp hs with hs | hs
  · rcases List.mem_append.mp hs with hs | hs
    · exact h.settings_sections s hs
    · exact h.portMappings_sections s hs
  · obtain ⟨t, ht, rfl⟩ := List.mem_map.mp hs
    exact (h.switches t ht).toSection_wellFormed

/-- Reading the text of well-formed sections gives what the sections declare. -/
theorem declarations_write {sections : List Config.Section} (h : Config.WellFormed sections)
    {ds : List Declaration} :
    declarations (Config.write sections) = .ok ds ↔ sections.mapM Declaration.ofSection = .ok ds := by
  obtain ⟨again, hread, hagain⟩ := read_write h
  have hdecl : declarations (Config.write sections) = again.mapM Declaration.ofSection := by
    rw [declarations, hread]
    rfl
  have hnumbers (l : List Config.Section) : l.mapM Declaration.ofSection = .ok ds ↔
      (l.map Config.Section.unnumbered).mapM Declaration.ofSection = .ok ds := by
    simp only [mapM_eq_ok_iff, List.forall₂_map_left_iff, Declaration.ofSection_unnumbered]
  rw [hdecl, hnumbers again, hagain, ← hnumbers sections]

def settingsDeclarations (s : Settings) : List Declaration :=
  match s.coordinationUri? with
  | some uri => [.coordination uri]
  | none => []

private theorem mapM_settings (s : Settings) :
    s.sections.mapM Declaration.ofSection = .ok (settingsDeclarations s) := by
  unfold Settings.sections settingsDeclarations
  cases s.coordinationUri? <;> rfl

/-- The host is read back as `again`. -/
def RereadAs (h again : HostPorts) : Prop := HostPorts.read h.hostId h.value (some 0) = .ok again

/-- The declarations that the section of the port mappings makes when it is read back. -/
def mappingsDeclarations (hosts : List HostPorts) : List Declaration :=
  if hosts.isEmpty then [] else [.mappings (PortMappings.insertAll {} hosts)]

theorem ofSection_portMappings {m : PortMappings} {d : Declaration} :
    Declaration.ofSection { name := sectionMark ++ mappingsName, entries := m.hosts.map fun h =>
        { key := h.hostId, value := h.value } } = .ok d ↔
      ∃ hosts, List.Forall₂ RereadAs m.hosts hosts ∧
        d = .mappings (PortMappings.insertAll {} hosts) := by
  unfold Declaration.ofSection
  rw [Purpose.ofSection_portMappings rfl]
  change Except.bind (PortMappings.ofSection _).result _ = _ ↔ _
  rw [PortMappings.result_ofSection]
  constructor
  · intro h
    obtain ⟨m', hm', hd⟩ := bind_eq_ok_iff.mp h
    obtain ⟨hosts, hhosts, rfl⟩ := map_eq_ok_iff.mp hm'
    rw [mapM_eq_ok_iff, List.forall₂_map_left_iff] at hhosts
    exact ⟨hosts, hhosts, (Except.ok.inj hd).symm⟩
  · intro ⟨hosts, hhosts, hd⟩
    apply bind_eq_ok_iff.mpr
    refine ⟨PortMappings.insertAll {} hosts, map_eq_ok_iff.mpr ⟨hosts, ?_, rfl⟩, ?_⟩
    · rw [mapM_eq_ok_iff, List.forall₂_map_left_iff]
      exact hhosts
    · rw [hd]
      rfl

private theorem isEmpty_of_rereadAs {hosts again : List HostPorts}
    (h : List.Forall₂ RereadAs hosts again) : again.isEmpty = hosts.isEmpty := by
  cases h <;> rfl

private theorem mapM_portMappings {m : PortMappings} {ds : List Declaration} :
    m.sections.mapM Declaration.ofSection = .ok ds ↔
      ∃ hosts, List.Forall₂ RereadAs m.hosts hosts ∧ ds = mappingsDeclarations hosts := by
  unfold PortMappings.sections mappingsDeclarations
  rw [mapM_eq_ok_iff]
  by_cases hempty : m.isEmpty
  · have hhosts : m.hosts = [] := List.isEmpty_iff.mp hempty
    rw [if_pos hempty, hhosts, List.forall₂_nil_left_iff]
    constructor
    · intro h
      exact ⟨[], .nil, h⟩
    · intro ⟨hosts, hall, hds⟩
      rw [hds, List.forall₂_nil_left_iff.mp hall]
      rfl
  · rw [if_neg hempty, List.forall₂_cons_left_iff]
    constructor
    · intro ⟨d, rest, hd, hrest, hds⟩
      obtain ⟨hosts, hall, rfl⟩ := ofSection_portMappings.mp hd
      have hsame : hosts.isEmpty = m.isEmpty := isEmpty_of_rereadAs hall
      rw [List.forall₂_nil_left_iff.mp hrest] at hds
      refine ⟨hosts, hall, ?_⟩
      rw [hds, hsame, if_neg hempty]
    · intro ⟨hosts, hall, hds⟩
      have hsame : hosts.isEmpty = m.isEmpty := isEmpty_of_rereadAs hall
      rw [hsame, if_neg hempty] at hds
      exact ⟨_, [], ofSection_portMappings.mpr ⟨hosts, hall, rfl⟩, .nil, hds⟩

private theorem mapM_switches {switches : List Switch} (h : ∀ s ∈ switches, s.WellFormed) :
    (switches.map Switch.toSection).mapM Declaration.ofSection = .ok (switches.map .switch) := by
  rw [mapM_eq_ok_iff, List.forall₂_map_left_iff, List.forall₂_map_right_iff, List.forall₂_same]
  intro s hs
  unfold Declaration.ofSection
  rw [(h s hs).name.purpose rfl]
  change Except.bind (Switch.ofSection s.name s.toSection) _ = _
  rw [(h s hs).ofSection_toSection]
  rfl

private theorem hostIds_of_rereadAs {hosts again : List HostPorts}
    (h : List.Forall₂ RereadAs hosts again) :
    again.map HostPorts.hostId = hosts.map HostPorts.hostId := by
  induction h with
  | nil => rfl
  | cons hhost _ ih => rw [List.map_cons, List.map_cons, ih, (HostPorts.read_eq_ok_iff.mp hhost).2.1]

private theorem applyAll_settings (s : Settings) :
    applyAll {} (settingsDeclarations s) = { settings := s } := by
  obtain ⟨uri⟩ := s
  cases uri <;> rfl

private theorem hosts_insertAll_empty {hosts : List HostPorts}
    (h : (hosts.map HostPorts.hostId).Nodup) : (PortMappings.insertAll {} hosts).hosts = hosts := by
  rw [PortMappings.hosts_insertAll]
  exact Keyed.foldl_put_of_nodup (by simpa using h)

private theorem applyAll_mappings {hosts : List HostPorts}
    (h : (hosts.map HostPorts.hostId).Nodup) (s : Settings) :
    applyAll { settings := s } (mappingsDeclarations hosts) =
      { settings := s, portMappings := ⟨hosts⟩ } := by
  unfold mappingsDeclarations
  cases hosts with
  | nil => rfl
  | cons host hosts =>
    have hhosts := hosts_insertAll_empty h
    change ({ settings := s, portMappings := PortMappings.insertAll {} _ } : Inventory) = _
    rw [hhosts]
    congr 1
    exact congrArg PortMappings.mk hhosts

private theorem applyAll_switches {switches : List Switch} {inv : Inventory}
    (hindex : inv.macIndex = macIndexOf inv.switches)
    (hnodup : ((inv.switches ++ switches).map Switch.name).Nodup) :
    inv.applyAll (switches.map .switch) =
      { inv with
        switches := inv.switches ++ switches
        macIndex := macIndexOf (inv.switches ++ switches) } := by
  induction switches generalizing inv with
  | nil =>
    rw [List.append_nil, ← hindex]
    rfl
  | cons s switches ih =>
    have hnew : s.name ∉ inv.switches.map Switch.name := Keyed.not_mem_of_nodup_append hnodup
    have hput : (inv.insertSwitch s).switches = inv.switches ++ [s] := Keyed.put_of_not_mem hnew
    have hcons : inv.switches ++ s :: switches = (inv.insertSwitch s).switches ++ switches := by
      rw [hput]
      simp
    rw [hcons] at hnodup ⊢
    exact ih rfl hnodup

theorem applyAll_reread {inv : Inventory} (h : inv.Canonical) {hosts : List HostPorts}
    (hall : List.Forall₂ RereadAs inv.portMappings.hosts hosts) :
    applyAll {} (settingsDeclarations inv.settings ++ mappingsDeclarations hosts ++
      inv.switches.map .switch) = { inv with portMappings := ⟨hosts⟩ } := by
  have hnodup : (hosts.map HostPorts.hostId).Nodup := hostIds_of_rereadAs hall ▸ h.nodup_hosts
  rw [applyAll_append, applyAll_append, applyAll_settings, applyAll_mappings hnodup,
    applyAll_switches rfl (by simpa using h.nodup_switches), List.nil_append, ← h.macIndex]

theorem mapM_sections {inv : Inventory} (h : inv.WellFormed) {ds : List Declaration} :
    inv.sections.mapM Declaration.ofSection = .ok ds ↔
      ∃ hosts, List.Forall₂ RereadAs inv.portMappings.hosts hosts ∧
        ds = settingsDeclarations inv.settings ++ mappingsDeclarations hosts ++
          inv.switches.map .switch := by
  rw [sections, List.mapM_append, List.mapM_append, mapM_settings, mapM_switches h.switches]
  constructor
  · intro hds
    obtain ⟨front, hfront, hds⟩ := bind_eq_ok_iff.mp hds
    obtain ⟨ds₁, hds₁, hfront⟩ := bind_eq_ok_iff.mp hfront
    obtain ⟨ds₂, hds₂, hfront⟩ := bind_eq_ok_iff.mp hfront
    obtain ⟨hosts, hall, rfl⟩ := mapM_portMappings.mp hds₂
    cases hds₁
    cases hfront
    exact ⟨hosts, hall, (Except.ok.inj hds).symm⟩
  · intro ⟨hosts, hall, hds⟩
    rw [mapM_portMappings.mpr ⟨hosts, hall, rfl⟩, hds]
    rfl

/-- A well-formed inventory is read back as it is but for its ports. -/
theorem result_parse_render {inv : Inventory} (h : inv.WellFormed) {again : Inventory} :
    (parse inv.render).result = .ok again ↔
      ∃ hosts, List.Forall₂ RereadAs inv.portMappings.hosts hosts ∧
        again = { inv with portMappings := ⟨hosts⟩ } := by
  have hdecl (ds : List Declaration) : declarations inv.render = .ok ds ↔
      inv.sections.mapM Declaration.ofSection = .ok ds := declarations_write h.sections_wellFormed
  rw [result_parse, map_eq_ok_iff]
  constructor
  · intro ⟨ds, hds, hagain⟩
    obtain ⟨hosts, hall, rfl⟩ := (mapM_sections h).mp ((hdecl ds).mp hds)
    exact ⟨hosts, hall, by rw [← hagain, applyAll_reread h.toCanonical hall]⟩
  · intro ⟨hosts, hall, hagain⟩
    refine ⟨_, (hdecl _).mpr ((mapM_sections h).mpr ⟨hosts, hall, rfl⟩), ?_⟩
    rw [hagain, applyAll_reread h.toCanonical hall]

/-- No switch that a host is cabled to ends in a colon. -/
def EndsClear (inv : Inventory) : Prop := ∀ h ∈ inv.portMappings.hosts, ∀ p ∈ h.ports, p.EndsClear

instance (inv : Inventory) : Decidable inv.EndsClear :=
  inferInstanceAs (Decidable (∀ h ∈ inv.portMappings.hosts, ∀ p ∈ h.ports, p.EndsClear))

/-- Reading back a well-formed inventory can only go wrong at a switch that ends in a colon. -/
theorem parse_render_eq_self_iff {inv : Inventory} (h : inv.WellFormed) :
    (parse inv.render).result = .ok inv ↔ inv.EndsClear := by
  have hsame : List.Forall₂ RereadAs inv.portMappings.hosts inv.portMappings.hosts ↔
      inv.EndsClear := by
    rw [List.forall₂_same]
    apply forall₂_congr
    intro host hhost
    exact (h.hosts host hhost).read_value_iff (some 0)
  rw [result_parse_render h, ← hsame]
  constructor
  · intro ⟨hosts, hall, hinv⟩
    have hhosts : inv.portMappings.hosts = hosts := congrArg (·.portMappings.hosts) hinv
    rw [← hhosts] at hall
    exact hall
  · intro hall
    exact ⟨_, hall, rfl⟩

/-- An inventory that is read back from its text. -/
structure Representable (inv : Inventory) : Prop extends WellFormed inv where
  endsClear : inv.EndsClear

instance (inv : Inventory) : Decidable inv.Representable :=
  decidable_of_iff (inv.WellFormed ∧ inv.EndsClear)
    ⟨fun ⟨h1, h2⟩ => ⟨h1, h2⟩, fun ⟨h1, h2⟩ => ⟨h1, h2⟩⟩

/-- An inventory with colons in a port and a value of which the first line is empty. -/
def awkward : Inventory where
  portMappings := ⟨[⟨"h", [⟨"s", "p:1"⟩, ⟨"t", "q"⟩]⟩]⟩
  switches := [⟨"s", ⟨[("mac", "a")], by decide⟩, ⟨[("x", "\n[1")], by decide⟩⟩]
  macIndex := [("A", "s")]

/-- An inventory with a switch that ends in a colon. -/
def colon : Inventory where
  portMappings := ⟨[⟨"h", [⟨"a:", "b"⟩]⟩]⟩

/-- Exactly the representable inventories are read back from their text. -/
theorem parse_render_iff_representable (inv : Inventory) :
    (parse inv.render).result = .ok inv ↔ inv.Representable := by
  constructor
  · intro h
    have hwf := wellFormed_of_parse h
    exact ⟨hwf, (parse_render_eq_self_iff hwf).mp h⟩
  · intro h
    exact (parse_render_eq_self_iff h.toWellFormed).mpr h.endsClear

example : awkward.Representable ∧ ¬ colon.Representable := by decide

/-- An inventory that is loaded from the text of a configuration or from files. -/
def Loaded (inv : Inventory) : Prop :=
  (∃ text, (parse text).result = .ok inv) ∨ ∃ files paths, (load files paths).result = .ok inv

theorem Loaded.wellFormed {inv : Inventory} (h : inv.Loaded) : inv.WellFormed := by
  rcases h with ⟨text, h⟩ | ⟨files, paths, h⟩
  · exact wellFormed_of_parse h
  · exact wellFormed_of_load h

/-- A loaded inventory is read back from its text exactly when no switch that a host is cabled to
ends in a colon. -/
theorem parse_render_of_loaded {inv : Inventory} (h : inv.Loaded) :
    (∃ again, (parse inv.render).result = .ok again ∧ again = inv ∧ again.render = inv.render) ↔
      inv.EndsClear := by
  rw [← parse_render_eq_self_iff h.wellFormed]
  constructor
  · intro hh
    obtain ⟨again, hread, rfl, -⟩ := hh
    exact hread
  · intro hread
    exact ⟨inv, hread, rfl, rfl⟩

theorem parse_render_awkward : awkward.Loaded ∧
    ∃ again, (parse awkward.render).result = .ok again ∧ again = awkward ∧
      again.render = awkward.render := by
  have hparse : (parse
      "[ansible:port_mappings]\nh = s ::p:1,t::q\n[ansible:s]\nmac = a\ncp_x =\n  [1\n").result =
        .ok awkward := by rfl
  have hloaded : awkward.Loaded := .inl ⟨_, hparse⟩
  exact ⟨hloaded, (parse_render_of_loaded hloaded).mpr (by decide)⟩

/-- The colon at the end of the switch goes over to the port. -/
theorem parse_render_colon :
    (parse "[ansible:port_mappings]\nh = a: ::b\n").result = .ok colon ∧
      (parse colon.render).result = .ok { portMappings := ⟨[⟨"h", [⟨"a", ":b"⟩]⟩]⟩ } ∧
      ¬ ∃ again, (parse colon.render).result = .ok again ∧ again = colon ∧
        again.render = colon.render := by
  have hparse : (parse "[ansible:port_mappings]\nh = a: ::b\n").result = .ok colon := by rfl
  have hrender : colon.render = "[ansible:port_mappings]\nh = a:::b\n" := by decide
  have hagain : (parse colon.render).result = .ok { portMappings := ⟨[⟨"h", [⟨"a", ":b"⟩]⟩]⟩ } := by
    rw [hrender]
    rfl
  refine ⟨hparse, hagain, ?_⟩
  intro hh
  obtain ⟨again, hread, rfl, -⟩ := hh
  rw [hagain] at hread
  exact absurd (Except.ok.inj hread) (by decide)

end Inventory

end SwitchInventory
