import SwitchInventory.Proofs.Parameters
import SwitchInventory.Proofs.Sequence
import SwitchInventory.Proofs.Text.Cut
import SwitchInventory.Switch.Reader

namespace SwitchInventory.Switch

open SwitchInventory.Sequence SwitchInventory.Text

variable {s t : Switch} {e : Config.Entry} {entries : List Config.Entry} {err : FormatError}

/-- What no switch takes, and what is reported of it: the mark of custom parameters with no name
behind it, and a flag that cannot be read. -/
inductive Refused (e : Config.Entry) : FormatError → Prop
  | unnamed : e.key = customMark → Refused e ⟨.emptyName, e.key, some e.line⟩
  | unreadable : e.key ∈ flagNames → Flag.read? e.value = none →
    Refused e ⟨.invalidBoolean, e.key ++ " = " ++ e.value, some e.line⟩

/-- An entry that carries the mark of custom parameters. -/
def Marked (e : Config.Entry) : Prop := customMark.toList <+: e.key.toList

instance : DecidablePred Marked := fun e =>
  inferInstanceAs (Decidable (customMark.toList <+: e.key.toList))

def bareKey (e : Config.Entry) : String := String.ofList (e.key.toList.drop customMark.length)

def place (s : Switch) (e : Config.Entry) : Switch :=
  if Marked e then { s with custom := s.custom.insert (bareKey e) e.value }
  else { s with standard := s.standard.insert e.key e.value }

theorem marked_iff : Marked e ↔ ∃ name, e.key = customMark ++ name := by
  constructor
  · intro hh
    obtain ⟨rest, hrest⟩ := hh
    refine ⟨String.ofList rest, ?_⟩
    rw [← String.toList_inj, String.toList_append, String.toList_ofList, hrest]
  · intro hh
    obtain ⟨name, hname⟩ := hh
    exact ⟨name.toList, by rw [hname, String.toList_append]⟩

theorem bareKey_of_key_eq {name : String} (h : e.key = customMark ++ name) : bareKey e = name := by
  have hdrop : (customMark.toList ++ name.toList).drop customMark.length = name.toList :=
    List.drop_left' String.length_toList
  rw [bareKey, h, String.toList_append, hdrop, String.ofList_toList]

theorem key_eq_of_marked (h : Marked e) : e.key = customMark ++ bareKey e := by
  obtain ⟨name, hname⟩ := marked_iff.mp h
  rw [bareKey_of_key_eq hname, hname]

private theorem place_custom {name : String} (h : e.key = customMark ++ name) (s : Switch) :
    s.place e = { s with custom := s.custom.insert name e.value } := by
  rw [place, if_pos (marked_iff.mpr ⟨name, h⟩), bareKey_of_key_eq h]

/-- The parameters that have to be booleans. -/
theorem mem_flagNames_iff {name : String} :
    name ∈ flagNames ↔ name = "manage_vlans" ∨ name = "stp_edge" := by
  simp [flagNames]

theorem dropMark?_of_mem_flagNames {name : String} (h : name ∈ flagNames) :
    dropMark? customMark name = none := by
  rcases mem_flagNames_iff.mp h with rfl | rfl <;> decide

theorem addEntry_of_refused (h : Refused e err) (s : Switch) : addEntry s e = .error err := by
  unfold addEntry
  cases h with
  | unnamed hkey =>
    have hmark : dropMark? customMark e.key = some "" := by
      rw [dropMark?_eq_some_iff, String.append_empty, hkey]
    simp [hmark]
  | unreadable hflag hvalue =>
    rw [dropMark?_of_mem_flagNames hflag]
    simp [hflag, hvalue]

theorem addEntry_of_not_refused (h : ∀ err, ¬ Refused e err) (s : Switch) :
    addEntry s e = .ok (s.place e) := by
  unfold addEntry
  cases hmark : dropMark? customMark e.key with
  | some name =>
    have hkey := dropMark?_eq_some_iff.mp hmark
    have hname : name ≠ "" := fun hname => h _ (.unnamed (by rw [hkey, hname, String.append_empty]))
    simp [place_custom hkey, hname]
  | none =>
    have hno : ¬ Marked e := by
      rw [marked_iff, not_exists]
      exact dropMark?_eq_none_iff.mp hmark
    have hflag : ¬ (e.key ∈ flagNames ∧ Flag.read? e.value = none) :=
      fun hflag => h _ (.unreadable hflag.1 hflag.2)
    simp [place, hno, hflag]

/-- What is wrong with an entry does not depend on the switch that is to take it. -/
theorem addEntry_eq_error_iff : addEntry s e = .error err ↔ Refused e err := by
  constructor
  · intro h
    by_cases hrefused : ∃ err, Refused e err
    · obtain ⟨err', hrefused⟩ := hrefused
      rw [addEntry_of_refused hrefused] at h
      cases h
      exact hrefused
    · rw [addEntry_of_not_refused (not_exists.mp hrefused)] at h
      cases h
  · exact fun h => addEntry_of_refused h s

/-- An entry that is not refused goes to its place. -/
theorem addEntry_eq_ok_iff : addEntry s e = .ok t ↔ (∀ err, ¬ Refused e err) ∧ t = s.place e := by
  constructor
  · intro h
    have hnot : ∀ err, ¬ Refused e err := by
      intro err hrefused
      rw [addEntry_of_refused hrefused] at h
      cases h
    rw [addEntry_of_not_refused hnot] at h
    exact ⟨hnot, (Except.ok.inj h).symm⟩
  · intro hh
    obtain ⟨hnot, rfl⟩ := hh
    exact addEntry_of_not_refused hnot s

/-- What the entries without the mark set. -/
def standardPairs (entries : List Config.Entry) : List (String × String) :=
  (entries.filter (¬ Marked ·)).map fun e => (e.key, e.value)

/-- What the entries with the mark set. -/
def customPairs (entries : List Config.Entry) : List (String × String) :=
  (entries.filter (Marked ·)).map fun e => (bareKey e, e.value)

theorem mem_standardPairs {pair : String × String} :
    pair ∈ standardPairs entries ↔ ∃ e ∈ entries, ¬ Marked e ∧ (e.key, e.value) = pair := by
  simp [standardPairs, and_assoc]

theorem mem_customPairs {pair : String × String} :
    pair ∈ customPairs entries ↔ ∃ e ∈ entries, Marked e ∧ (bareKey e, e.value) = pair := by
  simp [customPairs, and_assoc]

/-- Standard and custom parameters are set apart from each other. -/
theorem foldl_place (entries : List Config.Entry) (s : Switch) :
    entries.foldl place s =
      { s with
        standard := s.standard.insertAll (standardPairs entries)
        custom := s.custom.insertAll (customPairs entries) } := by
  induction entries generalizing s with
  | nil => rfl
  | cons e entries ih =>
    rw [List.foldl_cons, ih]
    by_cases hmark : Marked e
    · simp [place, standardPairs, customPairs, hmark, Parameters.insertAll]
    · simp [place, standardPairs, customPairs, hmark, Parameters.insertAll]

theorem foldlM_addEntry_eq_ok_iff : entries.foldlM addEntry s = .ok t ↔
    (∀ e ∈ entries, ∀ err, ¬ Refused e err) ∧ t = entries.foldl place s := by
  induction entries generalizing s with
  | nil =>
    rw [List.foldlM_nil, List.foldl_nil]
    change Except.ok s = .ok t ↔ _
    simp [eq_comm]
  | cons e entries ih =>
    rw [List.foldlM_cons, bind_eq_ok_iff, List.forall_mem_cons, List.foldl_cons]
    simp only [addEntry_eq_ok_iff, ih]
    constructor
    · intro hh
      obtain ⟨_, ⟨hfirst, rfl⟩, hrest, ht⟩ := hh
      exact ⟨⟨hfirst, hrest⟩, ht⟩
    · intro hh
      obtain ⟨⟨hfirst, hrest⟩, ht⟩ := hh
      exact ⟨_, ⟨hfirst, rfl⟩, hrest, ht⟩

/-- Entries with the mark become custom parameters, without it, and all others standard ones. -/
theorem ofSection_eq_ok_iff {name : String} {sec : Config.Section} :
    ofSection name sec = .ok t ↔ (∀ e ∈ sec.entries, ∀ err, ¬ Refused e err) ∧
      t = ⟨name, .ofPairs (standardPairs sec.entries), .ofPairs (customPairs sec.entries)⟩ := by
  rw [ofSection, foldlM_addEntry_eq_ok_iff, foldl_place]
  rfl

/-- The first entry that no switch takes is reported. -/
theorem ofSection_eq_error_iff {name : String} {sec : Config.Section} :
    ofSection name sec = .error err ↔ ∃ front e back, sec.entries = front ++ e :: back ∧
      (∀ d ∈ front, ∀ err, ¬ Refused d err) ∧ Refused e err := by
  rw [ofSection, foldlM_eq_error_iff]
  simp only [foldlM_addEntry_eq_ok_iff, addEntry_eq_error_iff]
  constructor
  · intro hh
    obtain ⟨front, e, back, _, hentries, ⟨hfront, -⟩, he⟩ := hh
    exact ⟨front, e, back, hentries, hfront, he⟩
  · intro hh
    obtain ⟨front, e, back, hentries, hfront, he⟩ := hh
    exact ⟨front, e, back, _, hentries, ⟨hfront, rfl⟩, he⟩

/-- A section is refused exactly when one of its entries is. -/
theorem exists_ofSection_eq_error_iff {name : String} {sec : Config.Section} :
    (∃ err, ofSection name sec = .error err) ↔ ∃ e ∈ sec.entries, ∃ err, Refused e err := by
  constructor
  · intro hh
    obtain ⟨err, herror⟩ := hh
    obtain ⟨front, e, back, hentries, -, he⟩ := ofSection_eq_error_iff.mp herror
    exact ⟨e, by simp [hentries], err, he⟩
  · intro hh
    obtain ⟨e, he, err, hrefused⟩ := hh
    cases hread : ofSection name sec with
    | error err => exact ⟨err, rfl⟩
    | ok t => exact absurd hrefused ((ofSection_eq_ok_iff.mp hread).1 e he err)

/-- Nothing is refused but the bare mark and flags that cannot be read. -/
theorem exists_refused_iff : (∃ err, Refused e err) ↔
    e.key = customMark ∨ e.key ∈ flagNames ∧ Flag.read? e.value = none := by
  constructor
  · intro hh
    obtain ⟨err, hrefused⟩ := hh
    cases hrefused with
    | unnamed hkey => exact .inl hkey
    | unreadable hflag hvalue => exact .inr ⟨hflag, hvalue⟩
  · intro hh
    rcases hh with hkey | ⟨hflag, hvalue⟩
    · exact ⟨_, .unnamed hkey⟩
    · exact ⟨_, .unreadable hflag hvalue⟩

private theorem mem_map_fst_standardPairs {name : String} :
    name ∈ (standardPairs entries).map Prod.fst ↔ ∃ e ∈ entries, ¬ Marked e ∧ e.key = name := by
  simp [standardPairs, and_assoc]

private theorem mem_map_fst_customPairs {name : String} :
    name ∈ (customPairs entries).map Prod.fst ↔ ∃ e ∈ entries, Marked e ∧ bareKey e = name := by
  simp [customPairs, and_assoc]

/-- The key decides which of the two maps has the parameter of an entry. -/
theorem xor_mem_names {standard custom : Parameters} (hs : standard.Holds (standardPairs entries))
    (hc : custom.Holds (customPairs entries)) (he : e ∈ entries) :
    Xor (e.key ∈ standard.names)
      (∃ bare, e.key = customMark ++ bare ∧ bare ∈ custom.names) := by
  simp only [hs.mem_names, hc.mem_names, mem_map_fst_standardPairs, mem_map_fst_customPairs]
  by_cases hmark : Marked e
  · obtain ⟨bare, hbare⟩ := marked_iff.mp hmark
    refine .inr ⟨⟨bare, hbare, e, he, hmark, bareKey_of_key_eq hbare⟩, ?_⟩
    intro hh
    obtain ⟨d, -, hunmarked, hkey⟩ := hh
    exact hunmarked (marked_iff.mpr ⟨bare, hkey.trans hbare⟩)
  · refine .inl ⟨⟨e, he, hmark, rfl⟩, ?_⟩
    intro hh
    obtain ⟨bare, hbare, -⟩ := hh
    exact hmark (marked_iff.mpr ⟨bare, hbare⟩)

/-- A section is refused for its first entry that no switch takes, and otherwise every entry sets
one parameter, a custom one if and only if its key carries the mark. -/
theorem ofSection_partition (name : String) (sec : Config.Section) :
    ((∃ err, ofSection name sec = .error err) ↔ ∃ e ∈ sec.entries,
      e.key = customMark ∨ e.key ∈ flagNames ∧ Flag.read? e.value = none) ∧
    (∀ err, ofSection name sec = .error err ↔ ∃ front e back, sec.entries = front ++ e :: back ∧
      (∀ d ∈ front, ∀ err, ¬ Refused d err) ∧ Refused e err) ∧
    ∀ t, ofSection name sec = .ok t → t.name = name ∧
      (t.standard = .ofPairs (standardPairs sec.entries) ∧
        t.standard.Holds (standardPairs sec.entries)) ∧
      (t.custom = .ofPairs (customPairs sec.entries) ∧ t.custom.Holds (customPairs sec.entries)) ∧
      ∀ e ∈ sec.entries, Xor (e.key ∈ t.standard.names)
        (∃ bare, e.key = customMark ++ bare ∧ bare ∈ t.custom.names) := by
  refine ⟨?_, fun err => ofSection_eq_error_iff, ?_⟩
  · rw [exists_ofSection_eq_error_iff]
    simp only [exists_refused_iff]
  · intro t hread
    obtain ⟨-, rfl⟩ := ofSection_eq_ok_iff.mp hread
    have hs := Parameters.holds_ofPairs (standardPairs sec.entries)
    have hc := Parameters.holds_ofPairs (customPairs sec.entries)
    exact ⟨rfl, ⟨rfl, hs⟩, ⟨rfl, hc⟩, fun e he => xor_mem_names hs hc he⟩

/-- Marks twice over, a flag behind the mark, and keys that are repeated. -/
def repeating : Config.Section :=
  ⟨"ansible:s", 1, [⟨"cp_cp_x", "1", 2⟩, ⟨"stp_edge", "On", 3⟩, ⟨"cp_manage_vlans", "some", 4⟩,
    ⟨"stp_edge", "0", 5⟩, ⟨"cp_cp_x", "2", 6⟩]⟩

/-- The same entries, and two more that no switch takes. -/
def repeatingRefused : Config.Section :=
  { repeating with entries := repeating.entries ++ [⟨"cp_", "y", 7⟩, ⟨"manage_vlans", "some", 8⟩] }

/-- The same two, the other one first. -/
def repeatingUnreadable : Config.Section :=
  { repeating with entries := repeating.entries ++ [⟨"manage_vlans", "some", 7⟩, ⟨"cp_", "y", 8⟩] }

/-- The last value of each key is kept, and the first entry that is refused is the one reported. -/
theorem ofSection_repeating :
    (∃ t, ofSection "s" repeating = .ok t ∧ t.standard.pairs = [("stp_edge", "0")] ∧
      t.custom.pairs = [("cp_x", "2"), ("manage_vlans", "some")] ∧
      t.custom.Holds [("cp_x", "1"), ("manage_vlans", "some"), ("cp_x", "2")]) ∧
    ofSection "s" repeatingRefused = .error ⟨.emptyName, "cp_", some 7⟩ ∧
    ofSection "s" repeatingUnreadable =
      .error ⟨.invalidBoolean, "manage_vlans = some", some 7⟩ := by
  have hread : ofSection "s" repeating = .ok
      ⟨"s", ⟨[("stp_edge", "0")], by decide⟩,
        ⟨[("cp_x", "2"), ("manage_vlans", "some")], by decide⟩⟩ := by rfl
  have htaken := (ofSection_eq_ok_iff.mp hread).1
  obtain ⟨-, -, ⟨-, hholds⟩, -⟩ := (ofSection_partition "s" repeating).2.2 _ hread
  obtain ⟨-, hunnamed, -⟩ := ofSection_partition "s" repeatingRefused
  obtain ⟨-, hunreadable, -⟩ := ofSection_partition "s" repeatingUnreadable
  refine ⟨⟨_, hread, rfl, rfl, hholds⟩, (hunnamed _).mpr ?_, (hunreadable _).mpr ?_⟩
  · exact ⟨repeating.entries, ⟨"cp_", "y", 7⟩, [⟨"manage_vlans", "some", 8⟩], rfl, htaken,
      .unnamed rfl⟩
  · exact ⟨repeating.entries, ⟨"manage_vlans", "some", 7⟩, [⟨"cp_", "y", 8⟩], rfl, htaken,
      .unreadable (mem_flagNames_iff.mpr (.inl rfl)) (by decide +kernel)⟩

end SwitchInventory.Switch
