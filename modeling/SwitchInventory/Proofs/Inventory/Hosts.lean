import SwitchInventory.Inventory.Hosts
import SwitchInventory.Proofs.Inventory.Names
import SwitchInventory.Proofs.Json.Sorted

namespace SwitchInventory

open Json (Value sortedMembers)

namespace Switch

/-- What a standard parameter shows as: a flag as the switch reads it, anything else as its text. -/
def shownAs (s : Switch) (name value : String) : Value :=
  if name = "manage_vlans" then .boolean s.managesVlans
  else if name = "stp_edge" then .boolean s.stpEdge
  else .text value

/-- The variables show each parameter of the switch once, and nothing else. -/
structure ShownBy (s : Switch) (vars : List (String × Value)) : Prop where
  nodup : (vars.map Prod.fst).Nodup
  perm : vars.Perm
    ((s.standard.pairs.map fun (name, value) => (name, s.shownAs name value)) ++
      s.custom.pairs.map fun (name, value) => (customMark ++ name, .text value))

/-- Switches that differ in the order of their parameters only. -/
structure SameParameters (s t : Switch) : Prop where
  name : s.name = t.name
  standard : s.standard.pairs.Perm t.standard.pairs
  custom : s.custom.pairs.Perm t.custom.pairs

instance (s t : Switch) : Decidable (s.SameParameters t) :=
  decidable_of_iff
    (s.name = t.name ∧ s.standard.pairs.Perm t.standard.pairs ∧ s.custom.pairs.Perm t.custom.pairs)
    ⟨fun ⟨h1, h2, h3⟩ => ⟨h1, h2, h3⟩, fun ⟨h1, h2, h3⟩ => ⟨h1, h2, h3⟩⟩

theorem SameParameters.symm {s t : Switch} (h : s.SameParameters t) : t.SameParameters s where
  name := h.name.symm
  standard := h.standard.symm
  custom := h.custom.symm

private theorem get?_standard_of_mem {s : Switch} {pair : String × String}
    (h : pair ∈ s.standard.pairs) : s.standard.get? pair.1 = some pair.2 := by
  rw [Parameters.get?, Keyed.find?_eq_some_of_mem s.standard.nodup_names h, Option.map_some]

private theorem flag_of_read? {s : Switch} {pair : String × String} (h : pair ∈ s.standard.pairs)
    {b : Bool} (hb : Flag.read? pair.2 = some b) (fallback : Bool) :
    s.flag pair.1 fallback = b := by
  rw [flag, get?_standard_of_mem h, Option.bind_some, hb, Option.getD_some]

/-- Every flag of a sound switch can be read, so none is shown as its text. -/
theorem hostVar_eq_shownAs {s : Switch} (h : s.Sound) {pair : String × String}
    (hpair : pair ∈ s.standard.pairs) : hostVar pair.1 pair.2 = s.shownAs pair.1 pair.2 := by
  by_cases hflag : pair.1 ∈ flagNames
  · obtain ⟨b, hb⟩ := Option.ne_none_iff_exists'.mp (h.flags pair hpair hflag)
    have hread := flag_of_read? hpair hb
    have hvar : hostVar pair.1 pair.2 = .boolean b := by
      rw [hostVar, if_pos hflag, hb]
    rw [hvar, shownAs]
    rcases mem_flagNames_iff.mp hflag with hname | hname
    · rw [if_pos hname, managesVlans, ← hname, hread]
    · rw [if_neg (by rw [hname]; decide), if_pos hname, stpEdge, ← hname, hread]
  · have hvar : hostVar pair.1 pair.2 = .text pair.2 := by
      rw [hostVar, if_neg hflag]
    have hother := not_or.mp (mem_flagNames_iff.not.mp hflag)
    rw [hvar, shownAs, if_neg hother.1, if_neg hother.2]

/-- A custom parameter never overwrites a standard one. -/
theorem nodup_hostVars {s : Switch} (h : s.Sound) : (s.hostVars.map Prod.fst).Nodup := by
  have hstandard : (s.standard.pairs.map fun (name, value) => (name, hostVar name value)).map
      Prod.fst = s.standard.names := List.map_map
  have hcustom : (s.custom.pairs.map fun (name, value) =>
      (customMark ++ name, Value.text value)).map Prod.fst =
        s.custom.names.map (customMark ++ ·) := by
    rw [List.map_map, Parameters.names, List.map_map]
    rfl
  rw [hostVars, List.map_append, hstandard, hcustom, List.nodup_append]
  refine ⟨h.nodup_standard, h.nodup_custom.map fun m n hmn => String.append_right_inj _ |>.mp hmn, ?_⟩
  intro name hname other hother heq
  obtain ⟨rest, -, rfl⟩ := List.mem_map.mp hother
  exact h.standard_unmarked rest (heq ▸ hname)

/-- Each parameter is shown once, flags as what the switch itself says of them. -/
theorem shownBy_sortedMembers {s : Switch} (h : s.Sound) : s.ShownBy
    (sortedMembers s.hostVars) := by
  have hperm := Json.sortedMembers_perm (nodup_hostVars h)
  have hvars : s.hostVars =
      (s.standard.pairs.map fun (name, value) => (name, s.shownAs name value)) ++
        s.custom.pairs.map fun (name, value) => (customMark ++ name, .text value) := by
    rw [hostVars]
    congr 1
    exact List.map_congr_left fun pair hpair => congrArg (pair.1, ·) (hostVar_eq_shownAs h hpair)
  exact ⟨(hperm.map Prod.fst).nodup_iff.mpr (nodup_hostVars h), hvars ▸ hperm⟩

theorem SameParameters.sorted_hostVars_eq {s t : Switch} (h : s.SameParameters t) (hs : s.Sound)
    (ht : t.Sound) : Value.sorted s.hostVars = Value.sorted t.hostVars := by
  apply Json.sorted_eq_of_mem_iff (nodup_hostVars hs) (nodup_hostVars ht)
  exact fun m => ((h.standard.map _).append (h.custom.map _)).mem_iff

end Switch

namespace Inventory

/-- The same switches, each with the same parameters, in whatever order. -/
structure SameSwitches (a b : Inventory) : Prop where
  left : ∀ s ∈ a.switches, ∃ t ∈ b.switches, s.SameParameters t
  right : ∀ t ∈ b.switches, ∃ s ∈ a.switches, s.SameParameters t

theorem SameSwitches.symm {a b : Inventory} (h : a.SameSwitches b) : b.SameSwitches a where
  left t ht := (h.right t ht).imp fun _ ⟨hs, hst⟩ => ⟨hs, hst.symm⟩
  right s hs := (h.left s hs).imp fun _ ⟨ht, hst⟩ => ⟨ht, hst.symm⟩

def hostMembers (inv : Inventory) : List (String × Value) :=
  inv.switches.map fun s => (s.name, Value.sorted s.hostVars)

private theorem map_fst_hostMembers (inv : Inventory) :
    inv.hostMembers.map Prod.fst = inv.switchNames :=
  List.map_map

theorem hosts_eq (inv : Inventory) :
    inv.hosts = .object [("all", .object [("hosts", .sorted inv.hostMembers)])] := rfl

private theorem mem_hostMembers_of_sameSwitches {a b : Inventory} (h : a.SameSwitches b)
    (ha : a.Sound) (hb : b.Sound) {m : String × Value} (hm : m ∈ a.hostMembers) :
    m ∈ b.hostMembers := by
  obtain ⟨s, hs, rfl⟩ := List.mem_map.mp hm
  obtain ⟨t, ht, hst⟩ := h.left s hs
  refine List.mem_map.mpr ⟨t, ht, ?_⟩
  rw [hst.name, hst.sorted_hostVars_eq (ha.switches s hs) (hb.switches t ht)]

/-- The order in which switches and parameters are declared does not show. -/
theorem hosts_eq_of_sameSwitches {a b : Inventory} (h : a.SameSwitches b) (ha : a.Sound)
    (hb : b.Sound) : a.hosts = b.hosts := by
  have hmembers : Value.sorted a.hostMembers = Value.sorted b.hostMembers := by
    apply Json.sorted_eq_of_mem_iff
    · exact a.map_fst_hostMembers ▸ ha.nodup_switches
    · exact b.map_fst_hostMembers ▸ hb.nodup_switches
    · exact fun m => ⟨mem_hostMembers_of_sameSwitches h ha hb,
        mem_hostMembers_of_sameSwitches h.symm hb ha⟩
  rw [hosts_eq, hosts_eq, hmembers]

/-- The hosts of a loaded inventory tell its switches with their parameters and nothing else. -/
theorem hosts_of_loaded {a : Inventory} (ha : a.Loaded) :
    (∃ hosts, a.hosts = .object [("all", .object [("hosts", .object hosts)])] ∧
      (hosts.map Prod.fst).Nodup ∧ (hosts.map Prod.fst).Perm a.switchNames ∧
      ∀ s ∈ a.switches, ∃ vars, (s.name, .object vars) ∈ hosts ∧ s.ShownBy vars) ∧
    ∀ b : Inventory, b.Loaded → a.SameSwitches b →
      a.hosts = b.hosts ∧ a.hosts.prettyText = b.hosts.prettyText := by
  have hsound := sound_of_loaded ha
  constructor
  · have hnodup : (a.hostMembers.map Prod.fst).Nodup :=
      a.map_fst_hostMembers ▸ hsound.nodup_switches
    have hperm := Json.sortedMembers_perm hnodup
    have hnames : ((sortedMembers a.hostMembers).map Prod.fst).Perm a.switchNames :=
      a.map_fst_hostMembers ▸ hperm.map Prod.fst
    refine ⟨sortedMembers a.hostMembers, rfl, hnames.nodup_iff.mpr hsound.nodup_switches, hnames, ?_⟩
    intro s hs
    have hmember : (s.name, Value.sorted s.hostVars) ∈ a.hostMembers :=
      List.mem_map_of_mem (f := fun s : Switch => (s.name, Value.sorted s.hostVars)) hs
    exact ⟨sortedMembers s.hostVars, hperm.mem_iff.mpr hmember,
      Switch.shownBy_sortedMembers (hsound.switches s hs)⟩
  · intro b hb hsame
    have heq := hosts_eq_of_sameSwitches hsame hsound (sound_of_loaded hb)
    exact ⟨heq, by rw [heq]⟩

def switchesInOrder : Inventory :=
  { switches :=
      [⟨"s", ⟨[("mac", "a"), ("stp_edge", "ON")], by decide⟩, ⟨[("mac", "b")], by decide⟩⟩,
        ⟨"t", ⟨[("manage_vlans", "0")], by decide⟩, .empty⟩]
    macIndex := [("A", "s")] }

/-- The same switches and parameters, declared the other way round. -/
def switchesReversed : Inventory :=
  { switches :=
      [⟨"t", ⟨[("manage_vlans", "0")], by decide⟩, .empty⟩,
        ⟨"s", ⟨[("stp_edge", "ON"), ("mac", "a")], by decide⟩, ⟨[("mac", "b")], by decide⟩⟩]
    macIndex := [("A", "s")] }

/-- The two are different inventories with the same switches, and give the same text. -/
theorem hosts_switchesReversed : switchesInOrder.Loaded ∧ switchesReversed.Loaded ∧
    switchesInOrder ≠ switchesReversed ∧ switchesInOrder.SameSwitches switchesReversed ∧
    switchesInOrder.hosts = switchesReversed.hosts ∧
    switchesReversed.hosts = .object [("all", .object [("hosts", .object
      [("s", .object [("cp_mac", .text "b"), ("mac", .text "a"), ("stp_edge", .boolean true)]),
        ("t", .object [("manage_vlans", .boolean false)])])])] := by
  have hinOrder : (parse ("[ansible:s]\nmac = a\nstp_edge = ON\ncp_mac = b\n" ++
      "[ansible:t]\nmanage_vlans = 0\n")).result = .ok switchesInOrder := by rfl
  have hreversed : (parse ("[ansible:t]\nmanage_vlans = 0\n" ++
      "[ansible:s]\ncp_mac = b\nstp_edge = ON\nmac = a\n")).result = .ok switchesReversed := by rfl
  have hsame : switchesInOrder.SameSwitches switchesReversed := ⟨by decide, by decide⟩
  obtain ⟨-, hreorder⟩ := hosts_of_loaded (.inl ⟨_, hinOrder⟩)
  have heq := hreorder switchesReversed (.inl ⟨_, hreversed⟩) hsame
  exact ⟨.inl ⟨_, hinOrder⟩, .inl ⟨_, hreversed⟩, by decide, hsame, heq.1, by rfl⟩

end Inventory

end SwitchInventory
