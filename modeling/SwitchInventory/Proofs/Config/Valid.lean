import Mathlib.Data.List.Nodup
import SwitchInventory.Proofs.Config.Statement
import SwitchInventory.Proofs.Config.Step
import SwitchInventory.Proofs.Lists
import SwitchInventory.Proofs.Sequence
import SwitchInventory.Proofs.Text.Lines

namespace SwitchInventory.Config

open SwitchInventory.Lists SwitchInventory.Text

/-- The cursor points into the sections, and what it continues is the last entry of its section. -/
def Cursor.PointsInto (sections : List Section) : Cursor → Prop
  | start => True
  | body p => p < sections.length
  | value p i => ∃ s, sections[p]? = some s ∧ i + 1 = s.entries.length
  | dropped p => p < sections.length

structure State.Valid (s : State) : Prop where
  wellFormed : WellFormed s.sections
  cursor : s.cursor.PointsInto s.sections

theorem Section.WellFormed.push {s : Section} (h : s.WellFormed) {e : Entry} (hk : SafeKey e.key)
    (hv : SafeValue e.value) (hnew : s.find? e.key = none) : (s.push e).WellFormed := by
  refine ⟨h.name, ?_, ?_, ?_⟩
  · change ((s.entries ++ [e]).map Entry.key).Nodup
    rw [List.map_append, List.map_singleton, ← List.concat_eq_append]
    exact (List.nodup_concat _ _).mpr ⟨Section.find?_eq_none_iff.mp hnew, h.nodup_keys⟩
  · intro d hd
    rcases List.mem_append.mp hd with hd | hd
    · exact h.keys d hd
    · rwa [List.mem_singleton.mp hd]
  · intro d hd
    rcases List.mem_append.mp hd with hd | hd
    · exact h.values d hd
    · rwa [List.mem_singleton.mp hd]

theorem Section.WellFormed.extend {s : Section} (h : s.WellFormed) {i : Nat}
    (hi : i < s.entries.length) {line : List Char} (hn : '\n' ∉ line) (hline : Continues line) :
    (s.extend i (String.ofList line)).WellFormed := by
  have hget : s.entries[i]? = some s.entries[i] := List.getElem?_eq_getElem hi
  have hmem := List.mem_of_getElem? hget
  refine ⟨h.name, ?_, ?_, ?_⟩
  · have hkeys : (s.extend i (String.ofList line)).entries.map Entry.key = s.entries.map Entry.key :=
      map_modify_eq (f := (·.extend (String.ofList line))) (fun _ => rfl) s.entries i
    rw [hkeys]
    exact h.nodup_keys
  · intro d hd
    rcases mem_modify hget hd with rfl | hd
    · exact h.keys s.entries[i] hmem
    · exact h.keys d hd
  · intro d hd
    rcases mem_modify hget hd with rfl | hd
    · exact (h.values s.entries[i] hmem).extend hn hline
    · exact h.values d hd

private theorem WellFormed.modify {sections : List Section} (h : WellFormed sections) {p : Nat}
    {s : Section} (hs : sections[p]? = some s) {f : Section → Section}
    (hname : ∀ t, (f t).name = t.name) (hf : (f s).WellFormed) :
    WellFormed (sections.modify p f) := by
  refine ⟨?_, ?_⟩
  · rw [map_modify_eq hname]
    exact h.nodup_names
  · intro t ht
    rcases mem_modify hs ht with rfl | ht
    · exact hf
    · exact h.wellFormed t ht

private theorem WellFormed.concat {sections : List Section} (h : WellFormed sections)
    {name : String} (hsafe : SafeName name) (hnew : name ∉ sections.map Section.name) (line : Nat) :
    WellFormed (sections ++ [{ name := name, line := line }]) := by
  refine ⟨?_, ?_⟩
  · rw [List.map_append, List.map_singleton, ← List.concat_eq_append]
    exact (List.nodup_concat _ _).mpr ⟨hnew, h.nodup_names⟩
  · intro t ht
    rcases List.mem_append.mp ht with ht | ht
    · exact h.wellFormed t ht
    · rw [List.mem_singleton.mp ht]
      exact ⟨hsafe, List.nodup_nil, by simp, by simp⟩

namespace State

variable {s s' : State} {raw : List Char} {number : Nat}

theorem valid_empty : State.Valid {} := ⟨⟨List.nodup_nil, by simp⟩, trivial⟩

theorem current?_eq_some_iff {p : Nat} {target : Section} :
    s.current? = some (p, target) ↔
      s.cursor.position? = some p ∧ s.sections[p]? = some target := by
  simp only [current?, Option.bind_eq_some_iff, Option.map_eq_some_iff, Prod.mk.injEq]
  constructor
  · intro hh
    obtain ⟨q, hq, t, ht, rfl, rfl⟩ := hh
    exact ⟨hq, ht⟩
  · intro hh
    obtain ⟨hp, ht⟩ := hh
    exact ⟨p, hp, target, ht, rfl, rfl⟩

/-- In a valid state only the place before the first header is outside of every section. -/
theorem Valid.current? (h : s.Valid) :
    s.cursor = .start ∨ ∃ p target, s.current? = some (p, target) := by
  have hin : ∀ p, p < s.sections.length → s.cursor.position? = some p →
      ∃ p target, s.current? = some (p, target) := by
    intro p hp hpos
    exact ⟨p, s.sections[p], current?_eq_some_iff.mpr ⟨hpos, List.getElem?_eq_getElem hp⟩⟩
  have hc := h.cursor
  cases hcur : s.cursor with
  | start => exact .inl rfl
  | body p =>
    rw [hcur] at hc
    exact .inr (hin p hc (by rw [hcur]; rfl))
  | value p i =>
    rw [hcur] at hc
    obtain ⟨t, ht, -⟩ := hc
    exact .inr ⟨p, t, current?_eq_some_iff.mpr ⟨by rw [hcur]; rfl, ht⟩⟩
  | dropped p =>
    rw [hcur] at hc
    exact .inr (hin p hc (by rw [hcur]; rfl))

theorem Valid.close (h : s.Valid) : State.Valid { s with cursor := s.cursor.close } := by
  refine ⟨h.wellFormed, ?_⟩
  have hc := h.cursor
  cases hcur : s.cursor with
  | start => trivial
  | body p => rwa [hcur] at hc
  | dropped p => rwa [hcur] at hc
  | value p i =>
    rw [hcur] at hc
    obtain ⟨t, ht, -⟩ := hc
    exact (List.getElem?_eq_some_iff.mp ht).1

theorem Valid.extend (h : s.Valid) {p i : Nat} (hcur : s.cursor = .value p i) {line : List Char}
    (hn : '\n' ∉ line) (hline : Continues line) : (s.extend p i (String.ofList line)).Valid := by
  have hc := h.cursor
  rw [hcur] at hc
  obtain ⟨t, ht, hi⟩ := hc
  have hwf : (t.extend i (String.ofList line)).WellFormed :=
    (h.wellFormed.wellFormed t (List.mem_of_getElem? ht)).extend (by omega) hn hline
  refine ⟨h.wellFormed.modify ht (fun _ => rfl) hwf, ?_⟩
  change s.cursor.PointsInto (s.sections.modify p (·.extend i (String.ofList line)))
  rw [hcur]
  refine ⟨t.extend i (String.ofList line), by rw [List.getElem?_modify_eq, ht]; rfl, ?_⟩
  rw [hi]
  exact (List.length_modify ..).symm

theorem Valid.openSection (h : s.Valid) {name : String} (hname : SafeName name) :
    (s.openSection name number).Valid := by
  by_cases hmem : name ∈ s.sections.map Section.name
  · obtain ⟨t, ht, rfl⟩ := List.mem_map.mp hmem
    obtain ⟨p, hp⟩ : ∃ p, s.sections.findIdx? (·.name = t.name) = some p := by
      apply Option.isSome_iff_exists.mp
      rw [List.findIdx?_isSome, List.any_eq_true]
      exact ⟨t, ht, by simp⟩
    rw [openSection_of_mem hp]
    exact ⟨h.wellFormed, (List.findIdx?_eq_some_iff_getElem.mp hp).1⟩
  · rw [openSection_of_not_mem hmem]
    refine ⟨h.wellFormed.concat hname hmem number, ?_⟩
    change s.sections.length < _
    simp

theorem Valid.addEntry (h : s.Valid) {key value : String} (hk : SafeKey key) (hv : SafeValue value)
    (hs : (s.addEntry key value number).result = .ok s') : s'.Valid := by
  cases hcur : s.current? with
  | none =>
    rw [addEntry_outside hcur] at hs
    cases hs
  | some found =>
    obtain ⟨p, target⟩ := found
    obtain ⟨-, ht⟩ := current?_eq_some_iff.mp hcur
    cases hfind : target.find? key with
    | some first =>
      rw [result_addEntry_duplicate hcur hfind] at hs
      rw [← Except.ok.inj hs]
      exact ⟨h.wellFormed, (List.getElem?_eq_some_iff.mp ht).1⟩
    | none =>
      rw [addEntry_new hcur hfind] at hs
      rw [← Except.ok.inj hs]
      have hwf : (target.push { key, value, line := number }).WellFormed :=
        (h.wellFormed.wellFormed target (List.mem_of_getElem? ht)).push hk hv hfind
      refine ⟨h.wellFormed.modify ht (fun _ => rfl) hwf, target.push { key, value, line := number },
        by rw [List.getElem?_modify_eq, ht]; rfl, ?_⟩
      change _ = (target.entries ++ [_]).length
      simp

/-- A line leads from a valid state to a valid state. -/
theorem Valid.step (h : s.Valid) (hn : '\n' ∉ raw) (hs : (s.step raw number).result = .ok s') :
    s'.Valid := by
  have hnt : '\n' ∉ trim raw := fun m => hn (mem_of_mem_trim m)
  rcases line_cases s raw with hb | hc | ⟨hne, hc, hb, hd⟩ | ⟨hne, hc, hb, p, i, hcur⟩ | halone
  · rw [step_blank hb] at hs
    exact Except.ok.inj hs ▸ h.close
  · rw [step_comment hc] at hs
    exact Except.ok.inj hs ▸ h
  · rw [step_dropped hne hc hb hd] at hs
    exact Except.ok.inj hs ▸ h
  · rw [step_continued hne hc hb hcur] at hs
    exact Except.ok.inj hs ▸ h.extend hcur hnt ⟨hne, trimmed_trim raw, hc⟩
  · cases hread : Statement.read (trim raw) with
    | error fault =>
      rw [step_of_fault halone hread] at hs
      cases hs
    | ok st =>
      rw [step_of_read halone hread] at hs
      have hst := Statement.wellFormed_of_read (trimmed_trim raw) hnt halone.no_comment hread
      cases st with
      | header name => exact Except.ok.inj hs ▸ h.openSection hst
      | entry key value => exact h.addEntry hst.1 hst.2 hs

/-- Every line leads from a valid state to a valid state. -/
theorem Valid.run (h : s.Valid) {numbered : List (List Char × Nat)}
    (hn : ∀ line ∈ numbered, '\n' ∉ line.1) (hs : (State.run s numbered).result = .ok s') :
    s'.Valid := by
  rw [State.run, Logged.result_foldlM] at hs
  exact Sequence.foldlM_induction (fun line hline _ _ hv hstep => hv.step (hn line hline) hstep) h hs

end State

/-- No line holds a line feed. -/
theorem newline_not_mem_of_mem_numberedLines {text : String} {line : List Char × Nat}
    (h : line ∈ numberedLines text) : '\n' ∉ line.1 := by
  obtain ⟨l, n⟩ := line
  exact newline_not_mem_of_mem_lines (List.fst_mem_of_mem_zipIdx h)

/-- What is read from a text is what its lines leave behind. -/
theorem read_eq_ok_iff {text : String} {sections : List Section} :
    (read text).result = .ok sections ↔
      ∃ s, (State.run {} (numberedLines text)).result = .ok s ∧ s.sections = sections := by
  rw [read, Logged.result_bind, Sequence.bind_eq_ok_iff]
  simp

theorem read_eq_error_iff {text : String} {e : FormatError} :
    (read text).result = .error e ↔ (State.run {} (numberedLines text)).result = .error e := by
  rw [read, Logged.result_bind]
  cases (State.run {} (numberedLines text)).result with
  | error d =>
    change (Except.error d : Except FormatError (List Section)) = .error e ↔ _
    rw [Except.error.injEq, Except.error.injEq]
  | ok s => exact ⟨fun h => (nomatch h), fun h => (nomatch h)⟩

/-- Whatever a text holds, the sections it is read to are well-formed. -/
theorem wellFormed_of_read {text : String} {sections : List Section}
    (h : (read text).result = .ok sections) : WellFormed sections := by
  obtain ⟨s, hs, rfl⟩ := read_eq_ok_iff.mp h
  exact (State.valid_empty.run (fun _ => newline_not_mem_of_mem_numberedLines) hs).wellFormed

end SwitchInventory.Config
