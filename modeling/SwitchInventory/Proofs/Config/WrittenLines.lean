import SwitchInventory.Proofs.Config.Statement
import SwitchInventory.Proofs.Lists
import SwitchInventory.Proofs.Text.Lines

namespace SwitchInventory.Config

open SwitchInventory.Lists SwitchInventory.Text

def indented (line : List Char) : List Char := "    ".toList ++ line

def Entry.toLines (e : Entry) : List (List Char) :=
  match e.value.toList.splitOn '\n' with
  | [] => [firstLine e.key []]
  | first :: more => firstLine e.key first :: more.map indented

def Section.toLines (s : Section) : List (List Char) :=
  ('[' :: s.name.toList ++ [']']) :: s.entries.flatMap Entry.toLines

theorem Entry.toList_write (e : Entry) : e.write.toList = unlines e.toLines := by
  unfold Entry.write Entry.toLines
  cases e.value.toList.splitOn '\n' with
  | nil => simp [toList_writeFirst]
  | cons first more =>
    have hmore : (String.join (more.map writeContinuation)).toList = unlines (more.map indented) := by
      simp [String.toList_join, unlines, List.flatMap_map, writeContinuation, indented]
    simp only [String.toList_append, toList_writeFirst, hmore, unlines_cons, List.append_assoc,
      List.singleton_append]

theorem Section.toList_write (s : Section) : s.write.toList = unlines s.toLines := by
  have hentries : (String.join (s.entries.map Entry.write)).toList =
      unlines (s.entries.flatMap Entry.toLines) := by
    rw [String.toList_join]
    induction s.entries with
    | nil => rfl
    | cons e es ih =>
      simp only [List.map_cons, List.flatMap_cons, ih, e.toList_write, unlines_append]
  simp only [Section.write, Section.toLines, String.toList_append, hentries, unlines_cons]
  simp

private theorem unlines_intercalate (blocks : List (List (List Char))) :
    unlines ([[]].intercalate blocks) = ['\n'].intercalate (blocks.map unlines) := by
  induction blocks with
  | nil => rfl
  | cons b bs ih =>
    cases bs with
    | nil => simp
    | cons c cs =>
      rw [List.intercalate_cons_cons, unlines_append, unlines_append, ih]
      simp [List.intercalate_cons_cons]

theorem toList_write (sections : List Section) :
    (write sections).toList = unlines ([[]].intercalate (sections.map Section.toLines)) := by
  have h : String.toList ∘ Section.write = unlines ∘ Section.toLines :=
    funext Section.toList_write
  rw [write, String.toList_intercalate, List.map_map, h, unlines_intercalate, List.map_map]
  rfl

/-- A line that is read back from a text as it was written there. -/
def Unbroken (line : List Char) : Prop := '\n' ∉ line ∧ startsBlank line.reverse = false

private theorem Unbroken.getLast?_ne {line : List Char} (h : Unbroken line) :
    line.getLast? ≠ some '\r' := by
  intro he
  obtain ⟨t, rfl⟩ := List.getLast?_eq_some_iff.mp he
  have hend := h.2
  rw [List.reverse_append] at hend
  cases hend

theorem trimmed_firstLine {key : String} (h : SafeKey key) {line : List Char} (hl : Trimmed line) :
    Trimmed (firstLine key line) := by
  have hstart : startsBlank key.toList = false := (trimmed_iff.mp h.trimmed).1
  unfold firstLine
  split
  · exact trimmed_append h.ne_nil (by simp) hstart rfl
  · rename_i hne
    apply trimmed_append h.ne_nil (by simp) hstart
    have hend := startsBlank_reverse_append [' ', '=', ' '] (b := line) (by simpa using hne)
    rw [show ' ' :: '=' :: ' ' :: line = [' ', '=', ' '] ++ line from rfl, hend]
    exact (trimmed_iff.mp hl).2

private theorem newline_not_mem_firstLine {key : String} (h : SafeKey key) {line : List Char}
    (hn : '\n' ∉ line) : '\n' ∉ firstLine key line := by
  unfold firstLine
  split <;> simp [h.no_newline, hn]

theorem Continues.unbroken_indented {line : List Char} (h : Continues line) (hn : '\n' ∉ line) :
    Unbroken (indented line) := by
  refine ⟨by simpa [indented] using hn, ?_⟩
  rw [indented, startsBlank_reverse_append _ h.1]
  exact (trimmed_iff.mp h.2.1).2

/-- No line of an entry breaks in two when it is written. -/
theorem Entry.unbroken_of_mem_toLines {e : Entry} (hk : SafeKey e.key) (hv : SafeValue e.value) :
    ∀ line ∈ e.toLines, Unbroken line := by
  intro line hline
  unfold Entry.toLines at hline
  unfold SafeValue at hv
  have hpiece : ∀ l ∈ e.value.toList.splitOn '\n', '\n' ∉ l := fun l => not_mem_of_mem_splitOn
  cases hs : e.value.toList.splitOn '\n' with
  | nil => exact absurd hs (List.splitOn_ne_nil _ _)
  | cons first more =>
    rw [hs] at hline hv hpiece
    rcases List.mem_cons.mp hline with rfl | hline
    · have hn := hpiece first List.mem_cons_self
      exact ⟨newline_not_mem_firstLine hk hn, (trimmed_iff.mp (trimmed_firstLine hk hv.1)).2⟩
    · obtain ⟨l, hl, rfl⟩ := List.mem_map.mp hline
      exact (hv.2 l hl).unbroken_indented (hpiece l (List.mem_cons_of_mem first hl))

theorem Section.unbroken_of_mem_toLines {s : Section} (h : s.WellFormed) :
    ∀ line ∈ s.toLines, Unbroken line := by
  intro line hline
  rcases List.mem_cons.mp hline with rfl | hline
  · refine ⟨by simpa using h.name.no_newline, ?_⟩
    rw [startsBlank_reverse_append _ (List.cons_ne_nil _ _)]
    rfl
  · obtain ⟨e, he, hl⟩ := List.mem_flatMap.mp hline
    exact Entry.unbroken_of_mem_toLines (h.keys e he) (h.values e he) line hl

/-- Well-formed sections are written as a text with exactly these lines: nothing inside of a line
breaks it. -/
theorem lines_write {sections : List Section} (h : WellFormed sections) :
    lines (write sections).toList = [[]].intercalate (sections.map Section.toLines) := by
  rw [toList_write]
  apply lines_unlines
  have hall : ∀ line ∈ [[]].intercalate (sections.map Section.toLines), Unbroken line := by
    intro line hline
    rcases mem_of_mem_intercalate hline with hline | ⟨block, hblock, hline⟩
    · rw [List.mem_singleton.mp hline]
      exact ⟨by simp, rfl⟩
    · obtain ⟨s, hs, rfl⟩ := List.mem_map.mp hblock
      exact Section.unbroken_of_mem_toLines (h.wellFormed s hs) line hline
  exact fun line hline => ⟨(hall line hline).1, (hall line hline).getLast?_ne⟩

end SwitchInventory.Config
