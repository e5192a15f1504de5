import SwitchInventory.Config.Statement
import SwitchInventory.Proofs.Config.WellFormed
import SwitchInventory.Proofs.Text.Cut

namespace SwitchInventory.Config

open SwitchInventory.Text

/-- Only its first character makes a line a comment. -/
theorem isComment_congr {a b : List Char} (h : a.head? = b.head?) : isComment a = isComment b := by
  cases a with
  | nil =>
    rw [List.head?_eq_none_iff.mp h.symm]
  | cons c a =>
    obtain ⟨t, rfl⟩ := List.head?_eq_some_iff.mp h.symm
    unfold isComment
    split <;> simp_all

/-- Names, keys and values of a statement are safe. -/
def Statement.WellFormed : Statement → Prop
  | .header name => SafeName name
  | .entry key value => SafeKey key ∧ SafeValue value

namespace Statement

/-- A header is a name in square brackets, blanks around it apart. -/
theorem readHeader_eq_ok_iff {text : List Char} {st : Statement} :
    readHeader text = .ok st ↔
      ∃ inside, text = '[' :: inside ++ [']'] ∧ trim inside ≠ [] ∧
        st = .header (String.ofList (trim inside)) := by
  unfold readHeader
  cases hin : inside? '[' ']' text with
  | none =>
    constructor
    · intro h
      cases h
    · intro hh
      obtain ⟨inside, htext, -⟩ := hh
      rw [inside?_eq_some_iff.mpr htext] at hin
      cases hin
  | some inside =>
    have htext := inside?_eq_some_iff.mp hin
    have hunique : ∀ m, text = '[' :: m ++ [']'] → m = inside := by
      intro m hm
      rw [inside?_eq_some_iff.mpr hm] at hin
      exact Option.some.inj hin
    simp only [List.isEmpty_iff]
    split
    · rename_i hempty
      constructor
      · intro h
        cases h
      · intro hh
        obtain ⟨m, hm, hne, -⟩ := hh
        rw [hunique m hm] at hne
        exact absurd hempty hne
    · rename_i hne
      rw [Except.ok.injEq]
      constructor
      · exact fun h => ⟨inside, htext, hne, h.symm⟩
      · intro hh
        obtain ⟨m, hm, -, rfl⟩ := hh
        rw [hunique m hm]

/-- An entry is cut at its first equals sign. -/
theorem readEntry_eq_ok_iff {text : List Char} {st : Statement} :
    readEntry text = .ok st ↔
      ∃ front back, text = front ++ '=' :: back ∧ '=' ∉ front ∧ trim front ≠ [] ∧
        st = .entry (String.ofList (trim front)) (String.ofList (trim back)) := by
  unfold readEntry
  cases hcut : cut? ['='] text with
  | none =>
    constructor
    · intro h
      cases h
    · intro hh
      obtain ⟨front, back, htext, hn, -⟩ := hh
      rw [cut?_singleton_eq_some_iff.mpr ⟨htext, hn⟩] at hcut
      cases hcut
  | some pair =>
    obtain ⟨front, back⟩ := pair
    obtain ⟨htext, hn⟩ := cut?_singleton_eq_some_iff.mp hcut
    have hunique : ∀ f b, text = f ++ '=' :: b → '=' ∉ f → f = front ∧ b = back := by
      intro f b hf hnf
      rw [cut?_singleton_eq_some_iff.mpr ⟨hf, hnf⟩] at hcut
      exact Prod.mk.inj (Option.some.inj hcut)
    simp only [List.isEmpty_iff]
    split
    · rename_i hempty
      constructor
      · intro h
        cases h
      · intro hh
        obtain ⟨f, b, hf, hnf, hne, -⟩ := hh
        rw [(hunique f b hf hnf).1] at hne
        exact absurd hempty hne
    · rename_i hne
      rw [Except.ok.injEq]
      constructor
      · exact fun h => ⟨front, back, htext, hn, hne, h.symm⟩
      · intro hh
        obtain ⟨f, b, hf, hnf, -, rfl⟩ := hh
        rw [(hunique f b hf hnf).1, (hunique f b hf hnf).2]

/-- Only an entry is read as one. -/
theorem readEntry_of_read {text : List Char} {key value : String}
    (h : read text = .ok (.entry key value)) : readEntry text = .ok (.entry key value) := by
  unfold read at h
  split at h
  · obtain ⟨inside, -, -, hst⟩ := readHeader_eq_ok_iff.mp h
    cases hst
  · exact h

/-- A trimmed line that is no comment says something with safe names, keys and values. -/
theorem wellFormed_of_read {text : List Char} {st : Statement} (ht : Trimmed text)
    (hn : '\n' ∉ text) (hc : isComment text = false) (h : read text = .ok st) : st.WellFormed := by
  unfold read at h
  split at h
  · obtain ⟨inside, rfl, hne, rfl⟩ := readHeader_eq_ok_iff.mp h
    have hnin : '\n' ∉ trim inside := fun m => hn (by simp [mem_of_mem_trim m])
    refine ⟨?_, ?_, ?_⟩
    · rwa [String.toList_ofList]
    · rw [String.toList_ofList]
      exact trimmed_trim inside
    · rwa [String.toList_ofList]
  · rename_i hhead
    obtain ⟨front, back, rfl, heq, hne, rfl⟩ := readEntry_eq_ok_iff.mp h
    have hfront : front ≠ [] := by
      intro hh
      subst hh
      exact hne trim_nil
    have hstart : startsBlank front = false := by
      rw [← startsBlank_append hfront]
      exact (trimmed_iff.mp ht).1
    have hfirst : (trim front).head? = front.head? := head?_trim hstart
    have hline : (front ++ '=' :: back).head? = front.head? := by
      obtain ⟨c, rest, rfl⟩ := List.exists_cons_of_ne_nil hfront
      rfl
    have hnk : '\n' ∉ trim front := fun m => hn (List.mem_append_left _ (mem_of_mem_trim m))
    have hnv : '\n' ∉ trim back := fun m =>
      hn (List.mem_append_right _ (List.mem_cons_of_mem _ (mem_of_mem_trim m)))
    refine ⟨⟨?_, ?_, ?_, ?_, ?_, ?_⟩, safeValue_of_no_newline hnv (trimmed_trim back)⟩
    all_goals rw [String.toList_ofList]
    · exact hne
    · exact trimmed_trim _
    · exact fun m => heq (mem_of_mem_trim m)
    · exact hnk
    · rwa [isComment_congr (hfirst.trans hline.symm)]
    · rwa [hfirst, ← hline]

/-- A safe name is read back from its header. -/
theorem read_header {name : String} (h : SafeName name) :
    read ('[' :: name.toList ++ [']']) = .ok (.header name) := by
  have htrim : trim name.toList = name.toList := h.trimmed
  have hhead : ('[' :: name.toList ++ [']']).head? = some '[' := rfl
  rw [read, if_pos hhead, readHeader_eq_ok_iff]
  exact ⟨name.toList, rfl, by rw [htrim]; exact h.ne_nil, by rw [htrim, String.ofList_toList]⟩

end Statement

/-- The first line of an entry as characters. -/
def firstLine (key : String) (line : List Char) : List Char :=
  key.toList ++ if line.isEmpty then [' ', '='] else ' ' :: '=' :: ' ' :: line

theorem toList_writeFirst (key : String) (line : List Char) :
    (writeFirst key line).toList = firstLine key line ++ ['\n'] := by
  unfold writeFirst firstLine
  split <;> simp

/-- A safe key and the first line of a value are read back from the line that is written for them.
-/
theorem Statement.read_firstLine {key : String} (h : SafeKey key) {line : List Char}
    (hline : Trimmed line) :
    Statement.read (firstLine key line) = .ok (.entry key (String.ofList line)) := by
  have hblank : ∀ c ∈ [' '], isBlank c = true := by simp [isBlank_space]
  have htrim : trim key.toList = key.toList := h.trimmed
  have hhead : (firstLine key line).head? ≠ some '[' := by
    obtain ⟨c, rest, hkey⟩ := List.exists_cons_of_ne_nil h.ne_nil
    have hno := h.no_header
    rw [hkey] at hno
    rw [firstLine, hkey]
    exact hno
  have hback : ∃ back, firstLine key line = (key.toList ++ [' ']) ++ '=' :: back ∧
      trim back = line := by
    unfold firstLine
    split
    · rename_i hempty
      exact ⟨[], by simp, by rw [List.isEmpty_iff.mp hempty, trim_nil]⟩
    · refine ⟨' ' :: line, by simp, ?_⟩
      exact (trim_blanks_append hblank line).trans hline
  obtain ⟨back, hfirst, hback⟩ := hback
  have hkey : trim (key.toList ++ [' ']) = key.toList :=
    (trim_append_blanks _ hblank).trans htrim
  rw [read, if_neg hhead, readEntry_eq_ok_iff]
  refine ⟨key.toList ++ [' '], back, hfirst, ?_, ?_, ?_⟩
  · simpa using h.no_equals
  · rw [hkey]
    exact h.ne_nil
  · rw [hkey, hback, String.ofList_toList]

end SwitchInventory.Config
