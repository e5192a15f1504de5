import SwitchInventory.Proofs.Config.Valid

namespace SwitchInventory.Config

open SwitchInventory.Text

namespace State

variable {s s' : State} {raw : List Char} {number : Nat} {e : FormatError}

/-- What a line can turn the state into, with the reason for it. -/
inductive Move (s : State) (raw : List Char) (number : Nat) : State → Prop where
  | blank : trim raw = [] → Move s raw number { s with cursor := s.cursor.close }
  | comment : isComment (trim raw) = true → Move s raw number s
  | dropped : startsBlank raw = true → s.cursor.isDropping = true → Move s raw number s
  | continued {p i : Nat} : startsBlank raw = true → s.cursor = .value p i → Continues (trim raw) →
    Move s raw number (s.extend p i (String.ofList (trim raw)))
  | reopened {name : String} {p : Nat} {t : Section} : s.StandsAlone raw →
    Statement.read (trim raw) = .ok (.header name) → s.sections[p]? = some t → t.name = name →
    Move s raw number { s with cursor := .body p }
  | opened {name : String} : s.StandsAlone raw → Statement.read (trim raw) = .ok (.header name) →
    name ∉ s.sections.map Section.name →
    Move s raw number ⟨s.sections ++ [{ name, line := number }], .body s.sections.length⟩
  | repeated {key value : String} {p : Nat} {t : Section} : s.StandsAlone raw →
    Statement.read (trim raw) = .ok (.entry key value) → s.sections[p]? = some t →
    key ∈ t.entries.map Entry.key → Move s raw number { s with cursor := .dropped p }
  | assigned {key value : String} {p : Nat} {t : Section} : s.StandsAlone raw →
    Statement.read (trim raw) = .ok (.entry key value) → s.sections[p]? = some t →
    key ∉ t.entries.map Entry.key →
    Move s raw number ⟨s.sections.modify p (·.push { key, value, line := number }),
      .value p t.entries.length⟩

private theorem move_of_openSection {name : String} (h : s.StandsAlone raw)
    (hread : Statement.read (trim raw) = .ok (.header name)) :
    s.Move raw number (s.openSection name number) := by
  cases hfind : s.sections.findIdx? (·.name = name) with
  | some p =>
    obtain ⟨hlt, hname, -⟩ := List.findIdx?_eq_some_iff_getElem.mp hfind
    rw [openSection_of_mem hfind]
    exact .reopened h hread (List.getElem?_eq_getElem hlt) (by simpa using hname)
  | none =>
    have hnew : name ∉ s.sections.map Section.name := by
      intro hmem
      obtain ⟨t, ht, hname⟩ := List.mem_map.mp hmem
      have hno := List.findIdx?_eq_none_iff.mp hfind t ht
      simp [hname] at hno
    rw [openSection_of_not_mem hnew]
    exact .opened h hread hnew

private theorem move_of_addEntry {key value : String} (h : s.StandsAlone raw)
    (hread : Statement.read (trim raw) = .ok (.entry key value))
    (hok : (s.addEntry key value number).result = .ok s') : s.Move raw number s' := by
  cases hcur : s.current? with
  | none =>
    rw [addEntry_outside hcur] at hok
    cases hok
  | some found =>
    obtain ⟨p, t⟩ := found
    obtain ⟨-, ht⟩ := current?_eq_some_iff.mp hcur
    cases hfind : t.find? key with
    | some first =>
      have hsame : first.key = key := by simpa using List.find?_some hfind
      have hkey : key ∈ t.entries.map Entry.key :=
        hsame ▸ List.mem_map_of_mem (List.mem_of_find?_eq_some hfind)
      rw [result_addEntry_duplicate hcur hfind] at hok
      exact Except.ok.inj hok ▸ .repeated h hread ht hkey
    | none =>
      rw [addEntry_new hcur hfind] at hok
      exact Except.ok.inj hok ▸ .assigned h hread ht (Section.find?_eq_none_iff.mp hfind)

/-- A key is refused only before the first header. -/
theorem fault_of_addEntry {key value : String}
    (herror : (s.addEntry key value number).result = .error e) :
    e = ⟨.entryOutsideSection, key, some number⟩ := by
  cases hcur : s.current? with
  | none =>
    rw [addEntry_outside hcur] at herror
    exact (Except.error.inj herror).symm
  | some found =>
    obtain ⟨p, t⟩ := found
    cases hfind : t.find? key with
    | some first =>
      rw [result_addEntry_duplicate hcur hfind] at herror
      cases herror
    | none =>
      rw [addEntry_new hcur hfind] at herror
      cases herror

/-- A line that is read makes one of the moves. -/
theorem move_of_step (hok : (s.step raw number).result = .ok s') : s.Move raw number s' := by
  rcases line_cases s raw with hb | hc | ⟨hne, hc, hb, hd⟩ | ⟨hne, hc, hb, p, i, hcur⟩ | halone
  · rw [step_blank hb] at hok
    exact Except.ok.inj hok ▸ .blank hb
  · rw [step_comment hc] at hok
    exact Except.ok.inj hok ▸ .comment hc
  · rw [step_dropped hne hc hb hd] at hok
    exact Except.ok.inj hok ▸ .dropped hb hd
  · rw [step_continued hne hc hb hcur] at hok
    exact Except.ok.inj hok ▸ .continued hb hcur ⟨hne, trimmed_trim raw, hc⟩
  · cases hread : Statement.read (trim raw) with
    | error fault =>
      rw [step_of_fault halone hread] at hok
      cases hok
    | ok st =>
      rw [step_of_read halone hread] at hok
      cases st with
      | header name => exact Except.ok.inj hok ▸ move_of_openSection halone hread
      | entry key value => exact move_of_addEntry halone hread hok

/-- A line that is not read says nothing, or assigns a value before the first header. -/
theorem fault_of_step (herror : (s.step raw number).result = .error e) :
    s.StandsAlone raw ∧
      ((∃ fault, Statement.read (trim raw) = .error fault ∧
          e = ⟨fault, String.ofList (trim raw), some number⟩) ∨
        ∃ key value, Statement.read (trim raw) = .ok (.entry key value) ∧
          e = ⟨.entryOutsideSection, key, some number⟩) := by
  rcases line_cases s raw with hb | hc | ⟨hne, hc, hb, hd⟩ | ⟨hne, hc, hb, p, i, hcur⟩ | halone
  · rw [step_blank hb] at herror
    cases herror
  · rw [step_comment hc] at herror
    cases herror
  · rw [step_dropped hne hc hb hd] at herror
    cases herror
  · rw [step_continued hne hc hb hcur] at herror
    cases herror
  · refine ⟨halone, ?_⟩
    cases hread : Statement.read (trim raw) with
    | error fault =>
      rw [step_of_fault halone hread] at herror
      exact .inl ⟨fault, rfl, (Except.error.inj herror).symm⟩
    | ok st =>
      rw [step_of_read halone hread] at herror
      cases st with
      | header name => cases herror
      | entry key value => exact .inr ⟨key, value, rfl, fault_of_addEntry herror⟩

/-- A malformed line is reported with its number. -/
theorem line_of_step (herror : (s.step raw number).result = .error e) : e.line = some number := by
  obtain ⟨-, ⟨fault, -, rfl⟩ | ⟨key, value, -, rfl⟩⟩ := fault_of_step herror
  · rfl
  · rfl

theorem run_append_eq_ok_iff {front back : List (List Char × Nat)} :
    (s.run (front ++ back)).result = .ok s' ↔
      ∃ t, (s.run front).result = .ok t ∧ (t.run back).result = .ok s' := by
  rw [run, List.foldlM_append, Logged.result_bind, Sequence.bind_eq_ok_iff]
  rfl

theorem run_cons_eq_ok_iff {line : List Char × Nat} {rest : List (List Char × Nat)} :
    (s.run (line :: rest)).result = .ok s' ↔
      ∃ t, (s.step line.1 line.2).result = .ok t ∧ (t.run rest).result = .ok s' := by
  rw [run, List.foldlM_cons, Logged.result_bind, Sequence.bind_eq_ok_iff]
  rfl

theorem run_concat_eq_ok_iff {front : List (List Char × Nat)} {line : List Char × Nat} :
    (s.run (front ++ [line])).result = .ok s' ↔
      ∃ t, (s.run front).result = .ok t ∧ (t.step line.1 line.2).result = .ok s' := by
  simp only [run_append_eq_ok_iff, run_cons_eq_ok_iff]
  simp [run]

/-- A run fails at the first line that is not read. -/
theorem run_eq_error_iff {numbered : List (List Char × Nat)} :
    (s.run numbered).result = .error e ↔
      ∃ front line back t, numbered = front ++ line :: back ∧ (s.run front).result = .ok t ∧
        (t.step line.1 line.2).result = .error e := by
  simp only [run, Logged.result_foldlM]
  exact Sequence.foldlM_eq_error_iff

end State

end SwitchInventory.Config
