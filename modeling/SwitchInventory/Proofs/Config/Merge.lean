import SwitchInventory.Proofs.Config.ByName

namespace SwitchInventory.Config

/-- The section with those entries of another one whose keys it does not have. -/
def Section.absorb (s t : Section) : Section :=
  { s with entries := s.entries ++ t.entries.filter (·.key ∉ s.entries.map Entry.key) }

/-- The section with the entries of the section of its name, where there is one. -/
def Section.joined (ys : List Section) (x : Section) : Section :=
  ((Keyed.find? Section.name x.name ys).map x.absorb).getD x

/-- The sections of `xs`, each with the entries that `ys` adds to it, and after them the sections of
`ys` with other names. -/
def merge (xs ys : List Section) : List Section :=
  xs.map (Section.joined ys) ++ ys.filter (·.name ∉ xs.map Section.name)

namespace Section

variable {x y : Section} {ys : List Section} {name key text : String} {e : Entry}

@[simp] theorem name_joined (ys : List Section) (x : Section) : (joined ys x).name = x.name := by
  unfold joined
  cases Keyed.find? Section.name x.name ys <;> rfl

theorem joined_of_not_mem (h : x.name ∉ ys.map Section.name) : joined ys x = x := by
  rw [joined, Keyed.find?_eq_none_iff.mpr h]
  rfl

theorem joined_of_mem (h : x.name ∈ ys.map Section.name) :
    ∃ y ∈ ys, y.name = x.name ∧ joined ys x = x.absorb y := by
  cases hfind : Keyed.find? Section.name x.name ys with
  | none => exact absurd h (Keyed.find?_eq_none_iff.mp hfind)
  | some y =>
    obtain ⟨hy, hname⟩ := Keyed.mem_of_find?_eq_some hfind
    refine ⟨y, hy, hname, ?_⟩
    rw [joined, hfind]
    rfl

theorem absorb_of_entries_nil (h : y.entries = []) (x : Section) : x.absorb y = x := by
  simp [absorb, h]

private theorem mem_keys_absorb :
    key ∈ (x.absorb y).entries.map Entry.key ↔
      key ∈ x.entries.map Entry.key ∨ key ∈ y.entries.map Entry.key := by
  rw [absorb, List.map_append, List.mem_append]
  exact Keyed.or_mem_map_filter

private theorem mem_keys_joined (hys : (ys.map Section.name).Nodup) :
    key ∈ (joined ys x).entries.map Entry.key ↔
      key ∈ x.entries.map Entry.key ∨ Holds ys x.name key := by
  by_cases hmem : x.name ∈ ys.map Section.name
  · obtain ⟨y, hy, hyx, hjoined⟩ := joined_of_mem hmem
    rw [hjoined, mem_keys_absorb, ← hyx, holds_iff hys hy]
  · have hno : ¬ Holds ys x.name key := fun ⟨y, hy, hyx, _⟩ => hmem (hyx ▸ List.mem_map_of_mem hy)
    rw [joined_of_not_mem hmem, or_iff_left hno]

theorem absorb_push_of_mem (h : e.key ∈ x.entries.map Entry.key) (y : Section) :
    x.absorb (y.push e) = x.absorb y := by
  have hnil : [e].filter (·.key ∉ x.entries.map Entry.key) = [] :=
    List.filter_cons_of_neg (by simpa using h)
  rw [absorb, push, List.filter_append, hnil, List.append_nil]
  rfl

theorem absorb_push_of_not_mem (h : e.key ∉ x.entries.map Entry.key) (y : Section) :
    x.absorb (y.push e) = (x.absorb y).push e := by
  have hself : [e].filter (·.key ∉ x.entries.map Entry.key) = [e] :=
    List.filter_cons_of_pos (by simpa using h)
  rw [absorb, push, List.filter_append, hself, ← List.append_assoc]
  rfl

private theorem filter_continue (x y : Section) (key text : String) :
    (y.continue key text).entries.filter (·.key ∉ x.entries.map Entry.key) =
      Keyed.change Entry.key key (·.extend text)
        (y.entries.filter (·.key ∉ x.entries.map Entry.key)) := by
  have hkey : ∀ e : Entry, (e.extend text).key = e.key := fun _ => rfl
  exact Keyed.filter_change hkey (fun k => decide (k ∉ x.entries.map Entry.key)) key y.entries

theorem absorb_continue_of_mem (h : key ∈ x.entries.map Entry.key) (y : Section) (text : String) :
    x.absorb (y.continue key text) = x.absorb y := by
  rw [absorb, filter_continue, Keyed.change_of_not_mem]
  · rfl
  · intro hmem
    obtain ⟨e, he, rfl⟩ := List.mem_map.mp hmem
    have hno := (List.mem_filter.mp he).2
    simp only [decide_eq_true_eq] at hno
    exact hno h

theorem absorb_continue_of_not_mem (h : key ∉ x.entries.map Entry.key) (y : Section)
    (text : String) : x.absorb (y.continue key text) = (x.absorb y).continue key text := by
  have hkeep := Keyed.change_of_not_mem h (·.extend text)
  rw [Keyed.change] at hkeep
  rw [absorb, filter_continue, absorb, Section.continue]
  simp only [Keyed.change, List.map_append, hkeep]

end Section

variable {xs ys : List Section} {name key : String}

@[simp] theorem merge_nil (xs : List Section) : merge xs [] = xs := by
  have hkeep : xs.map (Section.joined []) = xs.map id :=
    List.map_congr_left fun x _ => Section.joined_of_not_mem (by simp)
  rw [merge, hkeep, List.map_id, List.filter_nil, List.append_nil]

/-- Merging keeps all names and adds none. -/
theorem mem_names_merge :
    name ∈ (merge xs ys).map Section.name ↔
      name ∈ xs.map Section.name ∨ name ∈ ys.map Section.name := by
  have hfront : (xs.map (Section.joined ys)).map Section.name = xs.map Section.name := by
    rw [List.map_map]
    exact List.map_congr_left fun x _ => Section.name_joined ys x
  rw [merge, List.map_append, List.mem_append, hfront]
  exact Keyed.or_mem_map_filter

/-- No section has a key after merging that none of that name had before. -/
theorem holds_merge (hys : (ys.map Section.name).Nodup) :
    Holds (merge xs ys) name key ↔ Holds xs name key ∨ Holds ys name key := by
  constructor
  · intro ⟨s, hs, hname, hkey⟩
    rcases List.mem_append.mp hs with hs | hs
    · obtain ⟨x, hx, rfl⟩ := List.mem_map.mp hs
      rw [Section.name_joined] at hname
      rw [Section.mem_keys_joined hys, hname] at hkey
      exact hkey.imp_left fun hkey => ⟨x, hx, hname, hkey⟩
    · exact .inr ⟨s, List.mem_of_mem_filter hs, hname, hkey⟩
  · have hjoined : ∀ x ∈ xs, x.name = name →
        key ∈ x.entries.map Entry.key ∨ Holds ys name key → Holds (merge xs ys) name key := by
      intro x hx hname hkey
      rw [← hname, ← Section.mem_keys_joined hys] at hkey
      have hmem : Section.joined ys x ∈ merge xs ys :=
        List.mem_append_left _ (List.mem_map_of_mem hx)
      exact ⟨_, hmem, by rw [Section.name_joined, hname], hkey⟩
    rintro (⟨x, hx, hname, hkey⟩ | hkey)
    · exact hjoined x hx hname (.inl hkey)
    · by_cases hmem : name ∈ xs.map Section.name
      · obtain ⟨x, hx, hname⟩ := List.mem_map.mp hmem
        exact hjoined x hx hname (.inr hkey)
      · obtain ⟨y, hy, rfl, hkey⟩ := hkey
        have hy' : y ∈ ys.filter (·.name ∉ xs.map Section.name) :=
          List.mem_filter.mpr ⟨hy, by simpa using hmem⟩
        exact ⟨y, List.mem_append_right _ hy', rfl, hkey⟩

theorem merge_concat_of_mem {t : Section} (ht : t.entries = []) (hx : t.name ∈ xs.map Section.name)
    (hy : t.name ∉ ys.map Section.name) : merge xs (ys ++ [t]) = merge xs ys := by
  have hfront : xs.map (Section.joined (ys ++ [t])) = xs.map (Section.joined ys) := by
    apply List.map_congr_left
    intro x _
    rw [Section.joined, Section.joined, Keyed.find?_concat]
    by_cases hxt : t.name = x.name
    · have hnone : Keyed.find? Section.name x.name ys = none :=
        Keyed.find?_eq_none_iff.mpr (hxt ▸ hy)
      simp [hnone, hxt, Section.absorb_of_entries_nil ht]
    · simp [hxt]
  have hback : [t].filter (·.name ∉ xs.map Section.name) = [] :=
    List.filter_cons_of_neg (by simpa using hx)
  rw [merge, hfront, List.filter_append, hback, List.append_nil, merge]

theorem merge_concat_of_not_mem {t : Section} (hx : t.name ∉ xs.map Section.name) :
    merge xs (ys ++ [t]) = merge xs ys ++ [t] := by
  have hfront : xs.map (Section.joined (ys ++ [t])) = xs.map (Section.joined ys) := by
    apply List.map_congr_left
    intro x hxs
    have hxt : t.name ≠ x.name := fun e => hx (e ▸ List.mem_map_of_mem hxs)
    rw [Section.joined, Section.joined, Keyed.find?_concat, if_neg hxt, Option.or_none]
  have hback : [t].filter (·.name ∉ xs.map Section.name) = [t] :=
    List.filter_cons_of_pos (by simpa using hx)
  rw [merge, hfront, List.filter_append, hback, ← List.append_assoc, merge]

theorem merge_change {f g : Section → Section} (hf : ∀ s, (f s).name = s.name)
    (hy : name ∈ ys.map Section.name)
    (hold : ∀ x ∈ xs, x.name = name → ∀ y, x.absorb (f y) = g (x.absorb y))
    (hnew : name ∉ xs.map Section.name → ∀ y, f y = g y) :
    merge xs (Keyed.change Section.name name f ys) =
      Keyed.change Section.name name g (merge xs ys) := by
  have hfront : xs.map (Section.joined (Keyed.change Section.name name f ys)) =
      Keyed.change Section.name name g (xs.map (Section.joined ys)) := by
    unfold Keyed.change
    rw [List.map_map]
    apply List.map_congr_left
    intro x hx
    rw [Function.comp_apply, Section.name_joined, ← Keyed.change, Section.joined,
      Keyed.find?_change hf, Section.joined]
    cases hfind : Keyed.find? Section.name x.name ys with
    | none =>
      have hname : x.name ≠ name := by
        rintro rfl
        exact Keyed.find?_eq_none_iff.mp hfind hy
      rw [if_neg hname]
      rfl
    | some y =>
      have hyx := (Keyed.mem_of_find?_eq_some hfind).2
      rw [Option.map_some, Option.map_some, hyx]
      split
      · rename_i hname
        exact hold x hx hname y
      · rfl
  have hback : (Keyed.change Section.name name f ys).filter (·.name ∉ xs.map Section.name) =
      Keyed.change Section.name name g (ys.filter (·.name ∉ xs.map Section.name)) := by
    rw [Keyed.filter_change hf (fun n => decide (n ∉ xs.map Section.name)), Keyed.change,
      Keyed.change]
    apply List.map_congr_left
    intro y hy
    split
    · rename_i hname
      have hno := (List.mem_filter.mp hy).2
      simp only [decide_eq_true_eq, hname] at hno
      exact hnew hno y
    · rfl
  rw [merge, hfront, hback, merge, Keyed.change, Keyed.change, Keyed.change, List.map_append]

/-- A change under a key shows only where the first sections do not have the key. -/
theorem merge_change_key {f : Section → Section} (hf : ∀ s, (f s).name = s.name)
    (hxs : (xs.map Section.name).Nodup) (hy : name ∈ ys.map Section.name)
    (hin : ∀ x y : Section, key ∈ x.entries.map Entry.key → x.absorb (f y) = x.absorb y)
    (hout : ∀ x y : Section, key ∉ x.entries.map Entry.key → x.absorb (f y) = f (x.absorb y)) :
    merge xs (Keyed.change Section.name name f ys) =
      if Holds xs name key then merge xs ys
      else Keyed.change Section.name name f (merge xs ys) := by
  split
  · rename_i hholds
    have hid : Keyed.change Section.name name id (merge xs ys) = merge xs ys := by
      simp [Keyed.change]
    rw [← hid]
    apply merge_change hf hy
    · intro x hx hname y
      rw [← hname, holds_iff hxs hx] at hholds
      exact hin x y hholds
    · intro hno
      obtain ⟨x, hx, hname, -⟩ := hholds
      exact absurd (hname ▸ List.mem_map_of_mem hx) hno
  · rename_i hholds
    apply merge_change hf hy
    · intro x hx hname y
      rw [← hname, holds_iff hxs hx] at hholds
      exact hout x y hholds
    · intro _ y
      rfl

end SwitchInventory.Config
