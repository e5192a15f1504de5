import SwitchInventory.Proofs.Config.ByName

namespace SwitchInventory.Config

/-- The entry for a key of the section of that name. -/
def kept? (sections : List Section) (name key : String) : Option Entry :=
  (Keyed.find? Section.name name sections).bind (·.find? key)

variable {sections : List Section} {name key : String}

theorem kept?_of_mem (h : (sections.map Section.name).Nodup) {s : Section} (hs : s ∈ sections)
    (key : String) : kept? sections s.name key = s.find? key := by
  rw [kept?, Keyed.find?_eq_some_of_mem h hs, Option.bind_some]

theorem kept?_eq_none_iff (h : (sections.map Section.name).Nodup) :
    kept? sections name key = none ↔ ¬ Holds sections name key := by
  cases hfind : Keyed.find? Section.name name sections with
  | none =>
    have hno : ¬ Holds sections name key := fun ⟨s, hs, hname, _⟩ =>
      Keyed.find?_eq_none_iff.mp hfind (hname ▸ List.mem_map_of_mem hs)
    rw [kept?, hfind]
    exact iff_of_true rfl hno
  | some s =>
    obtain ⟨hs, rfl⟩ := Keyed.mem_of_find?_eq_some hfind
    rw [kept?_of_mem h hs, Section.find?_eq_none_iff, holds_iff h hs]

private theorem kept?_concat_empty {t : Section} (h : t.entries = []) :
    kept? (sections ++ [t]) name key = kept? sections name key := by
  have hnone : t.find? key = none := by rw [Section.find?, h]; rfl
  rw [kept?, Keyed.find?_concat, kept?]
  cases Keyed.find? Section.name name sections with
  | some s => rfl
  | none =>
    split
    · exact hnone
    · rfl

private theorem kept?_change {f : Section → Section} (hf : ∀ s, (f s).name = s.name)
    (target : String) :
    kept? (Keyed.change Section.name target f sections) name key =
      (Keyed.find? Section.name name sections).bind fun s =>
        (if name = target then f s else s).find? key := by
  rw [kept?, Keyed.find?_change hf]
  cases hfind : Keyed.find? Section.name name sections with
  | none => rfl
  | some s =>
    obtain ⟨-, rfl⟩ := Keyed.mem_of_find?_eq_some hfind
    rfl

theorem find?_push (s : Section) (e : Entry) (key : String) :
    (s.push e).find? key = (s.find? key).or (if e.key = key then some e else none) :=
  Keyed.find?_concat s.entries e key

private theorem map_line_find?_continue (s : Section) (target text key : String) :
    ((s.continue target text).find? key).map Entry.line = (s.find? key).map Entry.line := by
  have hkey : ∀ e : Entry, (e.extend text).key = e.key := fun _ => rfl
  have hfind : (s.continue target text).find? key =
      (s.find? key).map fun e => if e.key = target then e.extend text else e :=
    Keyed.find?_change hkey target key s.entries
  rw [hfind, Option.map_map]
  congr 1
  funext e
  rw [Function.comp_apply]
  split <;> rfl

/-- An entry that is added is found under its key, and all others are found as before. -/
theorem kept?_push {target : String} {e : Entry} (h : target ∈ sections.map Section.name)
    (hnew : kept? sections target e.key = none) :
    kept? (Keyed.change Section.name target (·.push e) sections) name key =
      if (target, e.key) = (name, key) then some e else kept? sections name key := by
  have hname : ∀ s : Section, (s.push e).name = s.name := fun _ => rfl
  rw [kept?_change hname]
  by_cases hslot : (target, e.key) = (name, key)
  · obtain ⟨rfl, rfl⟩ := Prod.mk.inj hslot
    rw [if_pos rfl]
    cases hfind : Keyed.find? Section.name target sections with
    | none => exact absurd h (Keyed.find?_eq_none_iff.mp hfind)
    | some s =>
      rw [kept?, hfind, Option.bind_some] at hnew
      rw [Option.bind_some, if_pos rfl, find?_push, hnew, if_pos rfl, Option.none_or]
  · rw [if_neg hslot, kept?]
    congr 1
    funext s
    split
    · rename_i hname
      have hkey : e.key ≠ key := fun hkey => hslot (by rw [hname, hkey])
      rw [find?_push, if_neg hkey, Option.or_none]
    · rfl

theorem View.place_extend (v : View) (text : String) : (v.extend text).place = v.place := by
  obtain ⟨sections, place⟩ := v
  cases place <;> rfl

theorem View.map_line_kept?_extend (v : View) (text name key : String) :
    (kept? (v.extend text).sections name key).map Entry.line =
      (kept? v.sections name key).map Entry.line := by
  obtain ⟨sections, place⟩ := v
  cases place with
  | value target k =>
    have hname : ∀ s : Section, (s.continue k text).name = s.name := fun _ => rfl
    change (kept? (Keyed.change Section.name target (·.continue k text) sections) name key).map
      Entry.line = _
    rw [kept?_change hname, kept?]
    cases Keyed.find? Section.name name sections with
    | none => rfl
    | some s =>
      rw [Option.bind_some, Option.bind_some]
      split
      · exact map_line_find?_continue s k text key
      · rfl
  | _ => rfl

theorem View.kept?_openSection (v : View) (target : String) (number : Nat) (name key : String) :
    kept? (v.openSection target number).sections name key = kept? v.sections name key := by
  by_cases h : target ∈ v.sections.map Section.name
  · rw [openSection_of_mem h]
  · rw [openSection_of_not_mem h]
    exact kept?_concat_empty rfl

end SwitchInventory.Config
