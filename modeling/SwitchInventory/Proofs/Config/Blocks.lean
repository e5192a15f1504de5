import SwitchInventory.Proofs.Config.Concat

namespace SwitchInventory.Config

variable {xs ys : List Section}

theorem Section.unnumbered_absorb (x y : Section) :
    (x.absorb y).unnumbered = x.unnumbered.absorb y.unnumbered := by
  have hkeys : x.unnumbered.entries.map Entry.key = x.entries.map Entry.key := by
    rw [entries_unnumbered, List.map_map]
    rfl
  have hentries : (y.entries.filter (·.key ∉ x.entries.map Entry.key)).map Entry.unnumbered =
      y.unnumbered.entries.filter (·.key ∉ x.unnumbered.entries.map Entry.key) := by
    rw [hkeys, entries_unnumbered, List.filter_map]
    rfl
  unfold absorb
  rw [← hentries, unnumbered, List.map_append]
  rfl

private theorem Section.unnumbered_joined (ys : List Section) (x : Section) :
    (joined ys x).unnumbered = joined (ys.map unnumbered) x.unnumbered := by
  have hfind : Keyed.find? name x.name (ys.map unnumbered) =
      (Keyed.find? name x.name ys).map unnumbered := by
    rw [Keyed.find?, List.find?_map]
    rfl
  unfold joined
  rw [name_unnumbered, hfind]
  cases Keyed.find? name x.name ys with
  | none => rfl
  | some y => exact unnumbered_absorb x y

theorem map_unnumbered_merge (xs ys : List Section) :
    (merge xs ys).map Section.unnumbered =
      merge (xs.map Section.unnumbered) (ys.map Section.unnumbered) := by
  have hnames : (xs.map Section.unnumbered).map Section.name = xs.map Section.name := by
    rw [List.map_map]
    rfl
  have hfront : (xs.map (Section.joined ys)).map Section.unnumbered =
      (xs.map Section.unnumbered).map (Section.joined (ys.map Section.unnumbered)) := by
    rw [List.map_map, List.map_map]
    exact List.map_congr_left fun x _ => Section.unnumbered_joined ys x
  rw [merge, List.map_append, hfront, merge, hnames, List.filter_map]
  rfl

/-- The sections with some of the names are merged on their own. -/
theorem filter_merge (p : String → Bool) (xs ys : List Section) :
    (merge xs ys).filter (fun s => p s.name) =
      merge (xs.filter fun s => p s.name) (ys.filter fun s => p s.name) := by
  have hfront : (xs.map (Section.joined ys)).filter (fun s => p s.name) =
      (xs.filter fun s => p s.name).map (Section.joined (ys.filter fun s => p s.name)) := by
    rw [List.filter_map]
    have hkeep : (fun s : Section => p s.name) ∘ Section.joined ys = fun s => p s.name := by
      funext x
      rw [Function.comp_apply, Section.name_joined]
    rw [hkeep]
    apply List.map_congr_left
    intro x hx
    have hp : p x.name = true := (List.mem_filter.mp hx).2
    have hfind : Keyed.find? Section.name x.name (ys.filter fun s => p s.name) =
        Keyed.find? Section.name x.name ys := by
      rw [Keyed.find?, List.find?_filter, Keyed.find?]
      congr 1
      funext y
      by_cases hy : y.name = x.name <;> simp [hy, hp]
    rw [Section.joined, Section.joined, hfind]
  have hback : (ys.filter (·.name ∉ xs.map Section.name)).filter (fun s => p s.name) =
      (ys.filter fun s => p s.name).filter
        (·.name ∉ (xs.filter fun s => p s.name).map Section.name) := by
    rw [List.filter_filter, List.filter_filter]
    apply List.filter_congr
    intro y _
    cases hp : p y.name with
    | false => rw [Bool.false_and, Bool.and_false]
    | true =>
      have hmem : y.name ∈ (xs.filter fun s => p s.name).map Section.name ↔
          y.name ∈ xs.map Section.name := by
        simp only [List.mem_map, List.mem_filter]
        constructor
        · rintro ⟨x, hx, hname⟩
          exact ⟨x, hx.1, hname⟩
        · rintro ⟨x, hx, hname⟩
          exact ⟨x, ⟨hx, hname ▸ hp⟩, hname⟩
      simp [hmem]
  rw [merge, List.filter_append, hfront, hback, merge]

/-- A text that starts with a bracket, ends in a line feed and is read to a single section. -/
structure Block where
  text : String
  content : Section
  opens : ∃ rest, text = "[" ++ rest
  ends : ∃ body, text = body ++ "\n"
  reads : (read text).result = .ok [content]

namespace Block

def name (b : Block) : String := b.content.name

def textOf (bs : List Block) : String := String.join (bs.map Block.text)

/-- The sections of blocks, merged where they have the same name. -/
def sectionsOf (bs : List Block) : List Section :=
  bs.foldl (fun xs b => merge xs [b.content.unnumbered]) []

variable {bs : List Block} {b : Block}

private theorem textOf_concat (bs : List Block) (b : Block) :
    textOf (bs ++ [b]) = textOf bs ++ b.text := by
  simp [textOf, String.join_append, String.join_cons]

private theorem textOf_ends (bs : List Block) :
    textOf bs = "" ∨ ∃ body, textOf bs = body ++ "\n" := by
  rcases List.eq_nil_or_concat bs with rfl | ⟨front, b, rfl⟩
  · exact .inl rfl
  · obtain ⟨body, hbody⟩ := b.ends
    rw [List.concat_eq_append, textOf_concat, hbody, ← String.append_assoc]
    exact .inr ⟨_, rfl⟩

private theorem sectionsOf_concat (bs : List Block) (b : Block) :
    sectionsOf (bs ++ [b]) = merge (sectionsOf bs) [b.content.unnumbered] := List.foldl_concat ..

/-- Blocks with different names have their sections side by side. -/
theorem sectionsOf_of_nodup (h : (bs.map name).Nodup) :
    sectionsOf bs = bs.map fun b => b.content.unnumbered := by
  induction bs using List.reverseRecOn with
  | nil => rfl
  | append_singleton front b ih =>
    rw [List.map_append, List.nodup_append] at h
    have hfront := ih h.1
    have hnew : b.content.unnumbered.name ∉ (sectionsOf front).map Section.name := by
      rw [hfront, List.map_map]
      exact fun hmem => h.2.2 _ hmem _ List.mem_cons_self rfl
    have hmerge : merge (sectionsOf front) ([] ++ [b.content.unnumbered]) =
        merge (sectionsOf front) [] ++ [b.content.unnumbered] := merge_concat_of_not_mem hnew
    rw [merge_nil, List.nil_append] at hmerge
    rw [sectionsOf_concat, hmerge, hfront, List.map_append]
    rfl

/-- The sections with some of the names come from the blocks with these names. -/
theorem filter_sectionsOf (p : String → Bool) (bs : List Block) :
    (sectionsOf bs).filter (fun s => p s.name) = sectionsOf (bs.filter fun b => p b.name) := by
  induction bs using List.reverseRecOn with
  | nil => rfl
  | append_singleton front b ih =>
    rw [sectionsOf_concat, filter_merge, ih, List.filter_append, List.filter_singleton,
      List.filter_singleton, Section.name_unnumbered, ← name]
    cases p b.name with
    | false => simp
    | true => exact (sectionsOf_concat _ b).symm

/-- One more block adds its section. -/
theorem exists_read_append {front : String} (hfront : front = "" ∨ ∃ body, front = body ++ "\n")
    (hread : (read front).result = .ok xs) (b : Block) :
    ∃ found, (read (front ++ b.text)).result = .ok found ∧
      found.map Section.unnumbered = merge (xs.map Section.unnumbered) [b.content.unnumbered] := by
  have hnodup := (wellFormed_of_read hread).nodup_names
  have hblock := b.reads
  rw [result_read] at hread hblock
  obtain ⟨v, hv, rfl⟩ := Sequence.map_eq_ok_iff.mp hread
  obtain ⟨w, hw, hcontent⟩ := Sequence.map_eq_ok_iff.mp hblock
  have hrun := View.run_numberedLines hnodup (lineCount front) b.opens
  rw [hw] at hrun
  refine ⟨merge v.sections ([b.content].map (Section.shift (lineCount front))), ?_, ?_⟩
  · rw [result_read, numberedLines_append hfront, View.run, List.foldlM_append, ← View.run, hv]
    change (v.run _).map View.sections = _
    rw [hrun, ← hcontent]
    rfl
  · have hshift : (b.content.shift (lineCount front)).unnumbered = b.content.unnumbered := by
      simp [Section.unnumbered, Section.shift, Function.comp_def, Entry.unnumbered, Entry.shift]
    rw [map_unnumbered_merge, List.map_singleton, List.map_singleton, hshift]

/-- The sections of the whole are those of the blocks, merged where they have the same name. -/
theorem exists_read_textOf (bs : List Block) :
    ∃ found, (read (textOf bs)).result = .ok found ∧
      found.map Section.unnumbered = sectionsOf bs := by
  induction bs using List.reverseRecOn with
  | nil => exact ⟨[], rfl, rfl⟩
  | append_singleton front b ih =>
    obtain ⟨xs, hxs, hsections⟩ := ih
    obtain ⟨found, hfound, hmerge⟩ := exists_read_append (textOf_ends front) hxs b
    rw [textOf_concat, sectionsOf_concat, ← hsections]
    exact ⟨found, hfound, hmerge⟩

end Block

end SwitchInventory.Config
