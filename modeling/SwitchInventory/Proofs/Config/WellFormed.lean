import SwitchInventory.Config.Statement
import SwitchInventory.Config.Writer
import SwitchInventory.Proofs.Text.Trim

namespace SwitchInventory.Config

open SwitchInventory.Text

/-- An indented line that continues the value before it. -/
def Continues (line : List Char) : Prop := line ≠ [] ∧ Trimmed line ∧ isComment line = false

instance (line : List Char) : Decidable (Continues line) := instDecidableAnd

/-- The lines of a value. The first may be empty, as it stands after the equals sign. -/
def SafeLines : List (List Char) → Prop
  | [] => True
  | first :: more => Trimmed first ∧ ∀ line ∈ more, Continues line

instance : (lines : List (List Char)) → Decidable (SafeLines lines)
  | [] => instDecidableTrue
  | _ :: _ => instDecidableAnd

/-- A value that is read back from its lines. -/
def SafeValue (value : String) : Prop := SafeLines (value.toList.splitOn '\n')

instance (value : String) : Decidable (SafeValue value) :=
  inferInstanceAs (Decidable (SafeLines _))

/-- A key that is read back from the front of a line. -/
structure SafeKey (key : String) : Prop where
  ne_nil : key.toList ≠ []
  trimmed : Trimmed key.toList
  no_equals : '=' ∉ key.toList
  no_newline : '\n' ∉ key.toList
  no_comment : isComment key.toList = false
  no_header : key.toList.head? ≠ some '['

instance (key : String) : Decidable (SafeKey key) :=
  decidable_of_iff
    (key.toList ≠ [] ∧ Trimmed key.toList ∧ '=' ∉ key.toList ∧ '\n' ∉ key.toList ∧
      isComment key.toList = false ∧ key.toList.head? ≠ some '[')
    ⟨fun ⟨h1, h2, h3, h4, h5, h6⟩ => ⟨h1, h2, h3, h4, h5, h6⟩,
      fun ⟨h1, h2, h3, h4, h5, h6⟩ => ⟨h1, h2, h3, h4, h5, h6⟩⟩

/-- A name that is read back from a header. -/
structure SafeName (name : String) : Prop where
  ne_nil : name.toList ≠ []
  trimmed : Trimmed name.toList
  no_newline : '\n' ∉ name.toList

instance (name : String) : Decidable (SafeName name) :=
  decidable_of_iff (name.toList ≠ [] ∧ Trimmed name.toList ∧ '\n' ∉ name.toList)
    ⟨fun ⟨h1, h2, h3⟩ => ⟨h1, h2, h3⟩, fun ⟨h1, h2, h3⟩ => ⟨h1, h2, h3⟩⟩

structure Section.WellFormed (s : Section) : Prop where
  name : SafeName s.name
  nodup_keys : (s.entries.map Entry.key).Nodup
  keys : ∀ e ∈ s.entries, SafeKey e.key
  values : ∀ e ∈ s.entries, SafeValue e.value

/-- Sections that a configuration can consist of. -/
structure WellFormed (sections : List Section) : Prop where
  nodup_names : (sections.map Section.name).Nodup
  wellFormed : ∀ s ∈ sections, s.WellFormed

/-- The entry with its line number forgotten. -/
def Entry.unnumbered (e : Entry) : Entry := { e with line := 0 }

/-- The section with the line numbers of its header and of its entries forgotten. -/
def Section.unnumbered (s : Section) : Section :=
  { name := s.name, entries := s.entries.map Entry.unnumbered }

@[simp] theorem Entry.key_unnumbered (e : Entry) : e.unnumbered.key = e.key := rfl

@[simp] theorem Entry.value_unnumbered (e : Entry) : e.unnumbered.value = e.value := rfl

@[simp] theorem Section.name_unnumbered (s : Section) : s.unnumbered.name = s.name := rfl

@[simp] theorem Section.entries_unnumbered (s : Section) :
    s.unnumbered.entries = s.entries.map Entry.unnumbered := rfl

theorem Section.wellFormed_unnumbered {s : Section} : s.unnumbered.WellFormed ↔ s.WellFormed := by
  have hkeys : s.unnumbered.entries.map Entry.key = s.entries.map Entry.key := by
    rw [Section.entries_unnumbered, List.map_map]
    rfl
  constructor
  · intro ⟨hname, hnodup, hks, hvs⟩
    refine ⟨hname, hkeys ▸ hnodup, ?_, ?_⟩
    · intro e he
      exact hks e.unnumbered (List.mem_map_of_mem he)
    · intro e he
      exact hvs e.unnumbered (List.mem_map_of_mem he)
  · intro ⟨hname, hnodup, hks, hvs⟩
    refine ⟨hname, hkeys.symm ▸ hnodup, ?_, ?_⟩
    · intro e he
      obtain ⟨d, hd, rfl⟩ := List.mem_map.mp he
      exact hks d hd
    · intro e he
      obtain ⟨d, hd, rfl⟩ := List.mem_map.mp he
      exact hvs d hd

/-- Where an entry or a section stands does not matter for its being well-formed. -/
theorem wellFormed_map_unnumbered {sections : List Section} :
    WellFormed (sections.map Section.unnumbered) ↔ WellFormed sections := by
  have hnames : (sections.map Section.unnumbered).map Section.name = sections.map Section.name := by
    rw [List.map_map]
    rfl
  constructor
  · intro ⟨hnodup, hall⟩
    refine ⟨hnames ▸ hnodup, fun s hs => ?_⟩
    exact Section.wellFormed_unnumbered.mp (hall s.unnumbered (List.mem_map_of_mem hs))
  · intro ⟨hnodup, hall⟩
    refine ⟨hnames.symm ▸ hnodup, fun s hs => ?_⟩
    obtain ⟨t, ht, rfl⟩ := List.mem_map.mp hs
    exact Section.wellFormed_unnumbered.mpr (hall t ht)

theorem Section.write_unnumbered (s : Section) : s.unnumbered.write = s.write := by
  rw [Section.write, Section.write, Section.entries_unnumbered, List.map_map]
  rfl

theorem write_map_unnumbered (sections : List Section) :
    write (sections.map Section.unnumbered) = write sections := by
  have h : Section.write ∘ Section.unnumbered = Section.write := funext Section.write_unnumbered
  rw [write, write, List.map_map, h]

theorem safeValue_of_no_newline {s : List Char} (h : '\n' ∉ s) (ht : Trimmed s) :
    SafeValue (String.ofList s) := by
  rw [SafeValue, String.toList_ofList, List.splitOn_eq_singleton h]
  exact ⟨ht, by simp⟩

theorem SafeValue.extend {value : String} (h : SafeValue value) {line : List Char}
    (hn : '\n' ∉ line) (hline : Continues line) :
    SafeValue (value ++ "\n" ++ String.ofList line) := by
  have hsplit : (value ++ "\n" ++ String.ofList line).toList.splitOn '\n' =
      value.toList.splitOn '\n' ++ [line] := by
    have hcons : (value ++ "\n" ++ String.ofList line).toList = value.toList ++ '\n' :: line := by
      simp
    rw [hcons, List.splitOn_append_cons_self, List.splitOn_eq_singleton hn]
  obtain ⟨first, more, hs⟩ := List.exists_cons_of_ne_nil (List.splitOn_ne_nil '\n' value.toList)
  rw [SafeValue, hs] at h
  rw [SafeValue, hsplit, hs]
  refine ⟨h.1, fun m hm => ?_⟩
  rcases List.mem_append.mp hm with hm | hm
  · exact h.2 m hm
  · rw [List.mem_singleton.mp hm]
    exact hline

end SwitchInventory.Config
