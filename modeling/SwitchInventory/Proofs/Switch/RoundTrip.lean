import SwitchInventory.Inventory.Render
import SwitchInventory.Proofs.Config.WellFormed
import SwitchInventory.Proofs.Switch.Entries

namespace SwitchInventory

open SwitchInventory.Config SwitchInventory.Sequence SwitchInventory.Text

/-- A standard parameter that is read back from its entry. -/
structure SafeStandard (name value : String) : Prop where
  key : SafeKey name
  no_mark : ∀ rest, name ≠ customMark ++ rest
  flag : name ∈ Switch.flagNames → Flag.read? value ≠ none
  value : SafeValue value

instance (name value : String) : Decidable (SafeStandard name value) :=
  decidable_of_iff
    (SafeKey name ∧ dropMark? customMark name = none ∧
      (name ∈ Switch.flagNames → Flag.read? value ≠ none) ∧ SafeValue value)
    ⟨fun ⟨h1, h2, h3, h4⟩ => ⟨h1, dropMark?_eq_none_iff.mp h2, h3, h4⟩,
      fun ⟨h1, h2, h3, h4⟩ => ⟨h1, dropMark?_eq_none_iff.mpr h2, h3, h4⟩⟩

/-- A custom parameter that is read back from its entry. -/
structure SafeCustom (name value : String) : Prop where
  ne_empty : name ≠ ""
  key : SafeKey (customMark ++ name)
  value : SafeValue value

instance (name value : String) : Decidable (SafeCustom name value) :=
  decidable_of_iff (name ≠ "" ∧ SafeKey (customMark ++ name) ∧ SafeValue value)
    ⟨fun ⟨h1, h2, h3⟩ => ⟨h1, h2, h3⟩, fun ⟨h1, h2, h3⟩ => ⟨h1, h2, h3⟩⟩

/-- A name of a switch that is read back from the header of its section. -/
structure SafeSwitchName (name : String) : Prop where
  ne_empty : name ≠ ""
  no_colon : ':' ∉ name.toList
  no_newline : '\n' ∉ name.toList
  no_blank : startsBlank name.toList.reverse = false
  not_mappings : name ≠ mappingsName

instance (name : String) : Decidable (SafeSwitchName name) :=
  decidable_of_iff
    (name ≠ "" ∧ ':' ∉ name.toList ∧ '\n' ∉ name.toList ∧
      startsBlank name.toList.reverse = false ∧ name ≠ mappingsName)
    ⟨fun ⟨h1, h2, h3, h4, h5⟩ => ⟨h1, h2, h3, h4, h5⟩,
      fun ⟨h1, h2, h3, h4, h5⟩ => ⟨h1, h2, h3, h4, h5⟩⟩

structure Switch.WellFormed (s : Switch) : Prop where
  name : SafeSwitchName s.name
  standard : ∀ pair ∈ s.standard.pairs, SafeStandard pair.1 pair.2
  custom : ∀ pair ∈ s.custom.pairs, SafeCustom pair.1 pair.2

instance (s : Switch) : Decidable s.WellFormed :=
  decidable_of_iff
    (SafeSwitchName s.name ∧ (∀ pair ∈ s.standard.pairs, SafeStandard pair.1 pair.2) ∧
      ∀ pair ∈ s.custom.pairs, SafeCustom pair.1 pair.2)
    ⟨fun ⟨h1, h2, h3⟩ => ⟨h1, h2, h3⟩, fun ⟨h1, h2, h3⟩ => ⟨h1, h2, h3⟩⟩

theorem sectionMark_append_ne (name : String) : sectionMark ++ name ≠ settingsName := by
  intro h
  have hhead := congrArg (fun s : String => s.toList.head?) h
  rw [String.toList_append, List.head?_append_of_ne_nil _ (by decide)] at hhead
  revert hhead
  decide

namespace Purpose

theorem ofSection_marked {s : Config.Section} {name : String} (h : s.name = sectionMark ++ name) :
    ofSection s =
      if name = mappingsName then .ok .portMappings
      else if name = "" then .error ⟨.emptyName, s.name, some s.line⟩
      else if ':' ∈ name.toList then .error ⟨.reservedSeparator, s.name, some s.line⟩
      else .ok (.switch name) := by
  unfold ofSection
  rw [h, if_neg (sectionMark_append_ne name), dropMark?_eq_some_iff.mpr rfl]

theorem ofSection_unmarked {s : Config.Section} (h : ∀ name, s.name ≠ sectionMark ++ name) :
    ofSection s = .ok (if s.name = settingsName then .settings else .other) := by
  unfold ofSection
  rw [dropMark?_eq_none_iff.mpr h]
  split <;> rfl

theorem ofSection_portMappings {s : Config.Section} (h : s.name = sectionMark ++ mappingsName) :
    ofSection s = .ok .portMappings := by
  rw [ofSection_marked h, if_pos rfl]

/-- A section declares a switch only under a usable name. -/
theorem name_of_ofSection_eq_switch {s : Config.Section} {name : String}
    (h : ofSection s = .ok (.switch name)) : s.name = sectionMark ++ name ∧ name ≠ "" ∧
      ':' ∉ name.toList ∧ name ≠ mappingsName := by
  by_cases hmark : ∃ n, s.name = sectionMark ++ n
  · obtain ⟨n, hn⟩ := hmark
    rw [ofSection_marked hn] at h
    by_cases hmappings : n = mappingsName
    · rw [if_pos hmappings] at h
      cases h
    by_cases hempty : n = ""
    · rw [if_neg hmappings, if_pos hempty] at h
      cases h
    by_cases hcolon : ':' ∈ n.toList
    · rw [if_neg hmappings, if_neg hempty, if_pos hcolon] at h
      cases h
    · rw [if_neg hmappings, if_neg hempty, if_neg hcolon] at h
      cases h
      exact ⟨hn, hempty, hcolon, hmappings⟩
  · have hno : ∀ n, s.name ≠ sectionMark ++ n := fun n hn => hmark ⟨n, hn⟩
    rw [ofSection_unmarked hno] at h
    split at h <;> cases h

/-- The names of the sections with a purpose. -/
def IsFor : Purpose → String → Prop
  | settings, name => name = settingsName
  | portMappings, name => name = sectionMark ++ mappingsName
  | switch n, name => name = sectionMark ++ n ∧ n ≠ mappingsName
  | other, name => name ≠ settingsName ∧ ∀ n, name ≠ sectionMark ++ n

theorem isFor_of_ofSection {s : Config.Section} {p : Purpose} (h : ofSection s = .ok p) :
    p.IsFor s.name := by
  by_cases hmark : ∃ n, s.name = sectionMark ++ n
  · obtain ⟨n, hn⟩ := hmark
    rw [ofSection_marked hn] at h
    split at h
    · rename_i hmappings
      cases h
      exact hn.trans (congrArg (sectionMark ++ ·) hmappings)
    split at h
    · cases h
    split at h
    · cases h
    · cases h
      exact ⟨hn, ‹n ≠ mappingsName›⟩
  · have hno : ∀ n, s.name ≠ sectionMark ++ n := fun n hn => hmark ⟨n, hn⟩
    rw [ofSection_unmarked hno] at h
    split at h
    · cases h
      exact ‹s.name = settingsName›
    · cases h
      exact ⟨‹s.name ≠ settingsName›, hno⟩

end Purpose

theorem safeSwitchName_of_purpose {s : Config.Section} (hs : SafeName s.name) {name : String}
    (h : Purpose.ofSection s = .ok (.switch name)) : SafeSwitchName name := by
  obtain ⟨hname, hempty, hcolon, hmappings⟩ := Purpose.name_of_ofSection_eq_switch h
  have hnil : name.toList ≠ [] := fun hnil => hempty (String.toList_eq_nil_iff.mp hnil)
  have hlist : s.name.toList = sectionMark.toList ++ name.toList := by
    rw [hname, String.toList_append]
  refine ⟨hempty, hcolon, ?_, ?_, hmappings⟩
  · intro hmem
    exact hs.no_newline (hlist ▸ List.mem_append_right _ hmem)
  · have hend := (trimmed_iff.mp hs.trimmed).2
    rwa [hlist, startsBlank_reverse_append _ hnil] at hend

theorem SafeSwitchName.purpose {s : Config.Section} {name : String} (h : SafeSwitchName name)
    (hs : s.name = sectionMark ++ name) : Purpose.ofSection s = .ok (.switch name) := by
  rw [Purpose.ofSection_marked hs, if_neg h.not_mappings, if_neg h.ne_empty, if_neg h.no_colon]

theorem SafeSwitchName.safeName {name : String} (h : SafeSwitchName name) :
    SafeName (sectionMark ++ name) := by
  have hnil : name.toList ≠ [] := fun hnil => h.ne_empty (String.toList_eq_nil_iff.mp hnil)
  refine ⟨by simp [hnil], ?_, ?_⟩
  · rw [String.toList_append]
    exact trimmed_append (by decide) hnil (by decide) h.no_blank
  · rw [String.toList_append, List.mem_append, not_or]
    exact ⟨by decide, h.no_newline⟩

namespace Switch

/-- The switch that is read from a well-formed section is well-formed. -/
theorem wellFormed_of_ofSection {s : Config.Section} (hs : s.WellFormed) {name : String}
    (hp : Purpose.ofSection s = .ok (.switch name)) {t : Switch} (h : ofSection name s = .ok t) :
    t.WellFormed := by
  obtain ⟨htaken, rfl⟩ := ofSection_eq_ok_iff.mp h
  refine ⟨safeSwitchName_of_purpose hs.name hp, ?_, ?_⟩
  · intro pair hpair
    obtain ⟨e, he, hmark, rfl⟩ := mem_standardPairs.mp (Parameters.mem_of_mem_ofPairs hpair)
    exact ⟨hs.keys e he, fun rest hrest => hmark (marked_iff.mpr ⟨rest, hrest⟩),
      fun hflag hvalue => htaken e he _ (.unreadable hflag hvalue), hs.values e he⟩
  · intro pair hpair
    obtain ⟨e, he, hmark, rfl⟩ := mem_customPairs.mp (Parameters.mem_of_mem_ofPairs hpair)
    have hkey := key_eq_of_marked hmark
    refine ⟨?_, hkey ▸ hs.keys e he, hs.values e he⟩
    intro hempty
    exact htaken e he _ (.unnamed (by rw [hkey, show bareKey e = "" from hempty, String.append_empty]))

private theorem pairs_append {front back : List Config.Entry} (hfront : ∀ e ∈ front, ¬ Marked e)
    (hback : ∀ e ∈ back, Marked e) :
    standardPairs (front ++ back) = front.map (fun e => (e.key, e.value)) ∧
      customPairs (front ++ back) = back.map fun e => (bareKey e, e.value) := by
  constructor
  · rw [standardPairs, List.filter_append, List.filter_eq_self.mpr (by simpa using hfront),
      List.filter_eq_nil_iff.mpr (by simpa using hback), List.append_nil]
  · rw [customPairs, List.filter_append, List.filter_eq_nil_iff.mpr (by simpa using hfront),
      List.filter_eq_self.mpr (by simpa using hback), List.nil_append]

theorem WellFormed.pairs_toSection {s : Switch} (h : s.WellFormed) :
    standardPairs s.toSection.entries = s.standard.pairs ∧
      customPairs s.toSection.entries = s.custom.pairs := by
  have hfront : ∀ e ∈ s.standard.pairs.map fun pair =>
      ({ key := pair.1, value := pair.2 } : Config.Entry), ¬ Marked e := by
    intro e he hmark
    obtain ⟨pair, hpair, rfl⟩ := List.mem_map.mp he
    obtain ⟨name, hname⟩ := marked_iff.mp hmark
    exact (h.standard pair hpair).no_mark name hname
  have hback : ∀ e ∈ s.custom.pairs.map fun pair =>
      ({ key := customMark ++ pair.1, value := pair.2 } : Config.Entry), Marked e := by
    intro e he
    obtain ⟨pair, -, rfl⟩ := List.mem_map.mp he
    exact marked_iff.mpr ⟨pair.1, rfl⟩
  obtain ⟨hstandard, hcustom⟩ := pairs_append hfront hback
  refine ⟨hstandard.trans ?_, hcustom.trans ?_⟩
  · rw [List.map_map]
    exact List.map_id _
  · rw [List.map_map]
    refine (List.map_congr_left fun pair _ => ?_).trans (List.map_id _)
    exact congrArg (·, pair.2) (bareKey_of_key_eq rfl)

private theorem WellFormed.not_refused {s : Switch} (h : s.WellFormed) :
    ∀ e ∈ s.toSection.entries, ∀ err, ¬ Refused e err := by
  intro e he err hrefused
  rcases List.mem_append.mp he with he | he
  · obtain ⟨pair, hpair, rfl⟩ := List.mem_map.mp he
    cases hrefused with
    | unnamed hkey =>
      exact (h.standard pair hpair).no_mark "" (hkey.trans String.append_empty.symm)
    | unreadable hflag hvalue => exact (h.standard pair hpair).flag hflag hvalue
  · obtain ⟨pair, hpair, rfl⟩ := List.mem_map.mp he
    cases hrefused with
    | unnamed hkey => exact (h.custom pair hpair).ne_empty (by simpa using hkey)
    | unreadable hflag _ =>
      have hmark := dropMark?_of_mem_flagNames hflag
      rw [dropMark?_eq_some_iff.mpr rfl] at hmark
      cases hmark

/-- A well-formed switch is read back from the section it is written as. -/
theorem WellFormed.ofSection_toSection {s : Switch} (h : s.WellFormed) :
    ofSection s.name s.toSection = .ok s := by
  obtain ⟨hstandard, hcustom⟩ := h.pairs_toSection
  rw [ofSection_eq_ok_iff, hstandard, hcustom, Parameters.ofPairs_pairs, Parameters.ofPairs_pairs]
  exact ⟨h.not_refused, rfl⟩

theorem WellFormed.nodup_keys {s : Switch} (h : s.WellFormed) :
    (s.toSection.entries.map Config.Entry.key).Nodup := by
  have hkeys : s.toSection.entries.map Config.Entry.key =
      s.standard.pairs.map Prod.fst ++ (s.custom.pairs.map Prod.fst).map (customMark ++ ·) := by
    simp [toSection, Function.comp_def]
  rw [hkeys, List.nodup_append]
  refine ⟨s.standard.nodup_names, ?_, ?_⟩
  · exact s.custom.nodup_names.map fun a b hab => (String.append_right_inj customMark).mp hab
  · intro a ha b hb hab
    obtain ⟨pair, hpair, rfl⟩ := List.mem_map.mp ha
    obtain ⟨name, _, rfl⟩ := List.mem_map.mp hb
    exact (h.standard pair hpair).no_mark name hab

/-- A well-formed switch is written as a well-formed section. -/
theorem WellFormed.toSection_wellFormed {s : Switch}
    (h : s.WellFormed) : s.toSection.WellFormed := by
  have hentry : ∀ e ∈ s.toSection.entries, SafeKey e.key ∧ SafeValue e.value := by
    intro e he
    rcases List.mem_append.mp he with he | he
    · obtain ⟨pair, hpair, rfl⟩ := List.mem_map.mp he
      exact ⟨(h.standard pair hpair).key, (h.standard pair hpair).value⟩
    · obtain ⟨pair, hpair, rfl⟩ := List.mem_map.mp he
      exact ⟨(h.custom pair hpair).key, (h.custom pair hpair).value⟩
  exact ⟨h.name.safeName, h.nodup_keys, fun e he => (hentry e he).1, fun e he => (hentry e he).2⟩

end Switch

end SwitchInventory
