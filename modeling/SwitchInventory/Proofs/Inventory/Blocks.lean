import SwitchInventory.Proofs.Config.Blocks
import SwitchInventory.Proofs.Inventory.RoundTrip

namespace SwitchInventory

open SwitchInventory.Config SwitchInventory.Lists SwitchInventory.Sequence SwitchInventory.Text

namespace Declaration

/-- The part of an inventory that a declaration is for. -/
inductive Part where
  | settings | portMappings | switches | nothing
  deriving DecidableEq

def part : Declaration → Part
  | coordination _ => .settings
  | mappings _ => .portMappings
  | switch _ => .switches
  | nothing => .nothing

end Declaration

namespace Inventory

variable {ds es : List Declaration} {d e : Declaration}

/-- Declarations for different parts of an inventory can change places. -/
theorem apply_comm (h : d.part ≠ e.part) (inv : Inventory) :
    (inv.apply d).apply e = (inv.apply e).apply d := by
  cases d <;> cases e <;> first | rfl | exact absurd rfl h

private theorem applyAll_apply (h : ∀ e ∈ ds, e.part ≠ d.part) (inv : Inventory) :
    (inv.apply d).applyAll ds = (inv.applyAll ds).apply d := by
  induction ds generalizing inv with
  | nil => rfl
  | cons e ds ih =>
    change ((inv.apply d).apply e).applyAll ds = ((inv.apply e).applyAll ds).apply d
    rw [apply_comm (h e List.mem_cons_self).symm, ih fun e' he => h e' (List.mem_cons_of_mem e he)]

/-- Only the order of the declarations for the same part matters. -/
theorem applyAll_eq_of_parts (h : ∀ part, ds.filter (·.part = part) = es.filter (·.part = part))
    (inv : Inventory) : inv.applyAll ds = inv.applyAll es := by
  induction ds generalizing es inv with
  | nil =>
    cases es with
    | nil => rfl
    | cons e es =>
      have hpart := h e.part
      simp at hpart
  | cons d ds ih =>
    have hpart := h d.part
    rw [List.filter_cons_of_pos (by simp)] at hpart
    -- The first declaration of `es` for the part of `d` is `d`: it can go before the others.
    obtain ⟨front, back, rfl, hfront, -, hback⟩ := List.filter_eq_cons_iff.mp hpart.symm
    have hapart : ∀ e ∈ front, e.part ≠ d.part := fun e he => by simpa using hfront e he
    have hrest : ∀ part, ds.filter (·.part = part) = (front ++ back).filter (·.part = part) := by
      intro part
      have hall := h part
      by_cases hd : d.part = part
      · have hnone : front.filter (·.part = part) = [] := by
          rw [List.filter_eq_nil_iff]
          exact fun e he => by simpa [← hd] using hapart e he
        rw [List.filter_append, hnone, ← hd, List.nil_append, hback]
      · rw [List.filter_cons_of_neg (by simpa using hd), List.filter_append,
          List.filter_cons_of_neg (by simpa using hd)] at hall
        rw [List.filter_append, hall]
    calc inv.applyAll (d :: ds) = (inv.apply d).applyAll ds := rfl
      _ = (inv.apply d).applyAll (front ++ back) := ih hrest _
      _ = ((inv.apply d).applyAll front).applyAll back := applyAll_append _ front back
      _ = ((inv.applyAll front).apply d).applyAll back := by rw [applyAll_apply hapart]
      _ = inv.applyAll (front ++ d :: back) := (applyAll_append inv front (d :: back)).symm

end Inventory

namespace Declaration

variable {s : Config.Section} {d : Declaration}

/-- Whether sections of that name are looked at, and not passed over. -/
def isTaken (name : String) : Bool := name = settingsName || (dropMark? sectionMark name).isSome

/-- Whether sections of that name declare a switch, where they are not malformed. -/
def isSwitch (name : String) : Bool :=
  (dropMark? sectionMark name).any fun rest => rest ≠ mappingsName

theorem part_of_ofSection (h : ofSection s = .ok d) :
    (d.part = .switches ↔ isSwitch s.name = true) ∧
      (d.part = .settings → s.name = settingsName) ∧
      (d.part = .portMappings → s.name = sectionMark ++ mappingsName) := by
  obtain ⟨p, hp, h⟩ := bind_eq_ok_iff.mp h
  have hname := Purpose.isFor_of_ofSection hp
  have hno (hmark : ∀ n, s.name ≠ sectionMark ++ n) : isSwitch s.name = false := by
    rw [isSwitch, dropMark?_eq_none_iff.mpr hmark]
    rfl
  cases p with
  | settings =>
    have hsettings : s.name = settingsName := hname
    have hswitch := hno fun n hn => sectionMark_append_ne n (hn.symm.trans hsettings)
    obtain rfl : ofSettings s = d := Except.ok.inj h
    unfold ofSettings
    cases s.get? "coordination_uri" <;>
      exact ⟨by simp [part, hswitch], fun _ => hsettings, by simp [part]⟩
  | portMappings =>
    have hmappings : s.name = sectionMark ++ mappingsName := hname
    have hswitch : isSwitch s.name = false := by
      rw [isSwitch, dropMark?_eq_some_iff.mpr hmappings]
      simp
    obtain ⟨m, -, h⟩ := bind_eq_ok_iff.mp h
    obtain rfl : mappings m = d := Except.ok.inj h
    exact ⟨by simp [part, hswitch], by simp [part], fun _ => hmappings⟩
  | switch name =>
    have hswitch : isSwitch s.name = true := by
      rw [isSwitch, dropMark?_eq_some_iff.mpr hname.1]
      simpa using hname.2
    obtain ⟨t, -, h⟩ := bind_eq_ok_iff.mp h
    obtain rfl : switch t = d := Except.ok.inj h
    simp [part, hswitch]
  | other =>
    obtain rfl : nothing = d := Except.ok.inj h
    simp [part, hno hname.2]

theorem ofSection_of_not_taken (h : isTaken s.name = false) : ofSection s = .ok nothing := by
  rw [isTaken, Bool.or_eq_false_iff] at h
  have hmark : ∀ n, s.name ≠ sectionMark ++ n := by
    rw [← dropMark?_eq_none_iff]
    simpa using h.2
  have hsettings : s.name ≠ settingsName := by simpa using h.1
  rw [ofSection, Purpose.ofSection_unmarked hmark, if_neg hsettings]
  rfl

/-- What a section declares, and nothing where it is malformed. -/
def declared (s : Config.Section) : Declaration :=
  match ofSection s with
  | .ok d => d
  | .error _ => nothing

private theorem declared_eq_of_ofSection (h : ofSection s = .ok d) : declared s = d := by
  rw [declared, h]

/-- The name of a section tells which part of an inventory it is for. -/
theorem part_declared (h : ∃ d, ofSection s = .ok d) :
    ((declared s).part = .switches ↔ isSwitch s.name = true) ∧
      ((declared s).part = .settings → s.name = settingsName) ∧
      ((declared s).part = .portMappings → s.name = sectionMark ++ mappingsName) := by
  obtain ⟨d, hd⟩ := h
  rw [declared_eq_of_ofSection hd]
  exact part_of_ofSection hd

end Declaration

namespace Inventory

open Declaration

variable {xs ys : List Config.Section} {inv : Inventory}

/-- The inventory is what the sections declare together. -/
def DeclaredBy (inv : Inventory) (sections : List Config.Section) : Prop :=
  (sections.mapM ofSection).map (applyAll {}) = .ok inv

private theorem parse_eq_ok_iff_of_read {text : String} (h : (Config.read text).result = .ok xs) :
    (parse text).result = .ok inv ↔ inv.DeclaredBy (xs.map Config.Section.unnumbered) := by
  have hdeclarations : declarations text = xs.mapM ofSection := by
    rw [declarations, h]
    rfl
  rw [result_parse, hdeclarations, DeclaredBy, map_eq_ok_iff, map_eq_ok_iff]
  simp only [mapM_eq_ok_iff, List.forall₂_map_left_iff, ofSection_unnumbered]

/-- Sections declare an inventory when all of them can be read and it is what they declare one after
the other. -/
theorem declaredBy_iff : inv.DeclaredBy xs ↔
    (∀ s ∈ xs, ∃ d, ofSection s = .ok d) ∧ applyAll {} (xs.map declared) = inv := by
  rw [DeclaredBy, map_eq_ok_iff]
  constructor
  · intro ⟨ds, hds, hinv⟩
    have hall := mapM_eq_ok_iff.mp hds
    have hmap : xs.map declared = ds := by
      rw [← List.forall₂_eq_eq_eq, List.forall₂_map_left_iff]
      exact hall.imp fun s d h => declared_eq_of_ofSection h
    refine ⟨fun s hs => ?_, hmap ▸ hinv⟩
    obtain ⟨d, -, hd⟩ := exists_mem_of_forall₂ hall.flip hs
    exact ⟨d, hd⟩
  · intro ⟨hall, hinv⟩
    refine ⟨xs.map declared, mapM_eq_ok_iff.mpr ?_, hinv⟩
    rw [List.forall₂_map_right_iff, List.forall₂_same]
    intro s hs
    obtain ⟨d, hd⟩ := hall s hs
    rw [declared_eq_of_ofSection hd, hd]

/-- Sections that are passed over declare nothing. -/
theorem declaredBy_filter_iff :
    inv.DeclaredBy (xs.filter fun s => isTaken s.name) ↔ inv.DeclaredBy xs := by
  have hpassed (s : Config.Section) (h : isTaken s.name = false) : declared s = .nothing :=
    declared_eq_of_ofSection (ofSection_of_not_taken h)
  have happly (start : Inventory) :
      start.applyAll ((xs.filter fun s => isTaken s.name).map declared) =
        start.applyAll (xs.map declared) := by
    induction xs generalizing start with
    | nil => rfl
    | cons s xs ih =>
      cases htaken : isTaken s.name with
      | true =>
        have hkeep : (s :: xs).filter (fun s => isTaken s.name) =
            s :: xs.filter fun s => isTaken s.name := List.filter_cons_of_pos htaken
        rw [hkeep]
        exact ih (start.apply (declared s))
      | false =>
        have hdrop : (s :: xs).filter (fun s => isTaken s.name) =
            xs.filter fun s => isTaken s.name := List.filter_cons_of_neg (by simp [htaken])
        rw [hdrop, ih, List.map_cons, hpassed s htaken]
        rfl
  rw [declaredBy_iff, declaredBy_iff, happly]
  refine and_congr_left fun _ => ⟨fun h s hs => ?_, fun h s hs => h s (List.mem_of_mem_filter hs)⟩
  cases htaken : isTaken s.name with
  | true => exact h s (List.mem_filter.mpr ⟨hs, htaken⟩)
  | false => exact ⟨.nothing, ofSection_of_not_taken htaken⟩

/-- Sections are malformed in every order or in none. -/
theorem exists_declaredBy_iff_of_perm (hperm : xs.Perm ys) :
    (∃ inv : Inventory, inv.DeclaredBy xs) ↔ ∃ inv : Inventory, inv.DeclaredBy ys := by
  simp only [declaredBy_iff, exists_and_left, exists_eq', and_true, hperm.mem_iff]

/-- Of the sections for the settings and for the port mappings there is one at most. -/
theorem declared_eq_of_part_eq (hall : ∀ s ∈ xs, ∃ d, ofSection s = .ok d)
    (hnodup : (xs.map Config.Section.name).Nodup) {s t : Config.Section} (hs : s ∈ xs) (ht : t ∈ xs)
    (hpart : (declared s).part = (declared t).part) (hswitch : (declared s).part ≠ .switches) :
    declared s = declared t := by
  have hsame (name : String) (hsname : s.name = name) (htname : t.name = name) :
      declared s = declared t := by
    rw [List.inj_on_of_nodup_map hnodup hs ht (hsname.trans htname.symm)]
  obtain ⟨-, hsettings, hmappings⟩ := part_declared (hall s hs)
  obtain ⟨-, hsettings', hmappings'⟩ := part_declared (hall t ht)
  cases hds : declared s with
  | coordination uri =>
    rw [hds] at hpart hsettings
    exact hds ▸ hsame settingsName (hsettings rfl) (hsettings' hpart.symm)
  | mappings m =>
    rw [hds] at hpart hmappings
    exact hds ▸ hsame (sectionMark ++ mappingsName) (hmappings rfl) (hmappings' hpart.symm)
  | switch u =>
    rw [hds] at hswitch
    exact absurd rfl hswitch
  | nothing =>
    rw [hds] at hpart
    cases hdt : declared t with
    | nothing => rfl
    | _ =>
      rw [hdt] at hpart
      cases hpart

private theorem filter_part_switches (hall : ∀ s ∈ xs, ∃ d, ofSection s = .ok d) :
    (xs.map declared).filter (·.part = .switches) =
      (xs.filter fun s => isSwitch s.name).map declared := by
  rw [List.filter_map]
  congr 1
  apply List.filter_congr
  intro s hs
  have hiff := (part_declared (hall s hs)).1
  rw [Function.comp_apply, Bool.eq_iff_iff, decide_eq_true_iff, hiff]

/-- Sections with different names can change places, except those for switches. -/
theorem DeclaredBy.of_perm (h : inv.DeclaredBy xs) (hnodup : (xs.map Config.Section.name).Nodup)
    (hperm : xs.Perm ys)
    (hswitch : (xs.filter fun s => isSwitch s.name) = ys.filter fun s => isSwitch s.name) :
    inv.DeclaredBy ys := by
  obtain ⟨hall, hinv⟩ := declaredBy_iff.mp h
  have hall' : ∀ s ∈ ys, ∃ d, ofSection s = .ok d := fun s hs => hall s (hperm.mem_iff.mpr hs)
  refine declaredBy_iff.mpr ⟨hall', hinv ▸ applyAll_eq_of_parts (fun part => ?_) {}⟩
  -- Switches stay in their order; for another part, only one section declares something.
  by_cases hpart : part = .switches
  · rw [hpart, filter_part_switches hall, filter_part_switches hall', hswitch]
  · refine (eq_of_perm_of_forall_eq ((hperm.map declared).filter _) ?_).symm
    intro a ha b hb
    obtain ⟨ha, hapart⟩ := List.mem_filter.mp ha
    obtain ⟨hb, hbpart⟩ := List.mem_filter.mp hb
    obtain ⟨s, hs, rfl⟩ := List.mem_map.mp ha
    obtain ⟨t, ht, rfl⟩ := List.mem_map.mp hb
    rw [decide_eq_true_iff] at hapart hbpart
    exact declared_eq_of_part_eq hall hnodup hs ht (hapart.trans hbpart.symm) (hapart ▸ hpart)

/-- A text of blocks declares what their sections declare together. -/
theorem parse_textOf_iff (bs : List Block) :
    (parse (Block.textOf bs)).result = .ok inv ↔ inv.DeclaredBy (Block.sectionsOf bs) := by
  obtain ⟨found, hfound, hsections⟩ := Block.exists_read_textOf bs
  rw [parse_eq_ok_iff_of_read hfound, hsections]

/-- Blocks with different names can be rearranged without a text becoming malformed, and without its
inventory changing where the switches stay in their order; blocks that are passed over can be put in
and taken out anywhere. -/
theorem parse_blocks (bs cs : List Block) :
    ((bs.map Block.name).Nodup → bs.Perm cs →
      ((∃ inv, (parse (Block.textOf bs)).result = .ok inv) ↔
        ∃ inv, (parse (Block.textOf cs)).result = .ok inv) ∧
      ((bs.filter fun b => isSwitch b.name) = (cs.filter fun b => isSwitch b.name) →
        ∀ inv, (parse (Block.textOf bs)).result = .ok inv →
          (parse (Block.textOf cs)).result = .ok inv)) ∧
    ((bs.filter fun b => isTaken b.name) = (cs.filter fun b => isTaken b.name) →
      ∀ inv, (parse (Block.textOf bs)).result = .ok inv ↔
        (parse (Block.textOf cs)).result = .ok inv) := by
  constructor
  · intro hnodup hperm
    have hnodup' : (cs.map Block.name).Nodup := (hperm.map Block.name).nodup_iff.mp hnodup
    have hnames : (bs.map fun b => b.content.unnumbered).map Config.Section.name =
        bs.map Block.name := List.map_map
    simp only [parse_textOf_iff, Block.sectionsOf_of_nodup hnodup,
      Block.sectionsOf_of_nodup hnodup']
    have hsections := hperm.map fun b => b.content.unnumbered
    refine ⟨exists_declaredBy_iff_of_perm hsections, fun hswitch inv h => ?_⟩
    refine h.of_perm (hnames ▸ hnodup) hsections ?_
    rw [List.filter_map, List.filter_map]
    exact congrArg (List.map _) hswitch
  · intro htaken inv
    rw [parse_textOf_iff, parse_textOf_iff, ← declaredBy_filter_iff, Block.filter_sectionsOf, htaken,
      ← Block.filter_sectionsOf, declaredBy_filter_iff]

def settingsBlock : Block where
  text := "[ml2_ansible]\ncoordination_uri = etcd://c\n"
  content := ⟨"ml2_ansible", 1, [⟨"coordination_uri", "etcd://c", 2⟩]⟩
  opens := ⟨"ml2_ansible]\ncoordination_uri = etcd://c\n", by decide⟩
  ends := ⟨"[ml2_ansible]\ncoordination_uri = etcd://c", by decide⟩
  reads := by rfl

def switchBlock : Block where
  text := "[ansible:s]\nmac = a\n"
  content := ⟨"ansible:s", 1, [⟨"mac", "a", 2⟩]⟩
  opens := ⟨"ansible:s]\nmac = a\n", by decide⟩
  ends := ⟨"[ansible:s]\nmac = a", by decide⟩
  reads := by rfl

/-- A block that declares nothing, whatever stands in it. -/
def otherBlock : Block where
  text := "[x]\ncp_ = 1\n"
  content := ⟨"x", 1, [⟨"cp_", "1", 2⟩]⟩
  opens := ⟨"x]\ncp_ = 1\n", by decide⟩
  ends := ⟨"[x]\ncp_ = 1", by decide⟩
  reads := by rfl

/-- The inventory that the two other blocks declare, in whatever order. -/
def blocksInventory : Inventory where
  settings := { coordinationUri? := some "etcd://c" }
  switches := [{ name := "s", standard := .ofPairs [("mac", "a")] }]
  macIndex := [("A", "s")]

theorem parse_blocks_rearranged :
    (parse (Block.textOf [switchBlock, settingsBlock])).result = .ok blocksInventory ∧
      (parse (Block.textOf [settingsBlock, switchBlock])).result = .ok blocksInventory ∧
      (parse (Block.textOf [otherBlock, switchBlock, settingsBlock, otherBlock])).result =
        .ok blocksInventory := by
  have hparse : (parse (Block.textOf [switchBlock, settingsBlock])).result = .ok blocksInventory := by
    rfl
  have hnodup : ([switchBlock, settingsBlock].map Block.name).Nodup := by decide
  have hperm := List.Perm.swap settingsBlock switchBlock []
  refine ⟨hparse, ?_, ?_⟩
  · exact ((parse_blocks _ _).1 hnodup hperm).2 (by rfl) _ hparse
  · exact ((parse_blocks _ _).2 (by rfl) _).mp hparse

end Inventory

end SwitchInventory
