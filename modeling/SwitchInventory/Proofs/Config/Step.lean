import Mathlib.Data.List.Basic
import SwitchInventory.Config.Reader
import SwitchInventory.Proofs.Config.WellFormed

namespace SwitchInventory.Config

open SwitchInventory.Text

namespace State

/-- A line that is neither blank nor a comment, and that the line before it does not take up. -/
structure StandsAlone (s : State) (raw : List Char) : Prop where
  ne_nil : trim raw ≠ []
  no_comment : isComment (trim raw) = false
  fresh : startsBlank raw = true → s.cursor.isDropping = false ∧ s.cursor.continued? = none

variable {s : State} {raw : List Char} {number : Nat}

theorem step_blank (h : trim raw = []) :
    s.step raw number = pure { s with cursor := s.cursor.close } := by
  simp [step, h]

theorem step_comment (h : isComment (trim raw) = true) : s.step raw number = pure s := by
  have hne : trim raw ≠ [] := by
    intro he
    rw [he] at h
    cases h
  simp [step, h, hne]

theorem step_dropped (hne : trim raw ≠ []) (hc : isComment (trim raw) = false)
    (hb : startsBlank raw = true) (hd : s.cursor.isDropping = true) :
    s.step raw number = pure s := by
  simp [step, hne, hc, hb, hd]

theorem step_continued {p i : Nat} (hne : trim raw ≠ []) (hc : isComment (trim raw) = false)
    (hb : startsBlank raw = true) (hcur : s.cursor = .value p i) :
    s.step raw number = pure (s.extend p i (String.ofList (trim raw))) := by
  simp [step, hne, hc, hb, hcur, Cursor.isDropping, Cursor.continued?]

theorem step_of_read {st : Statement} (h : s.StandsAlone raw)
    (hread : Statement.read (trim raw) = .ok st) : s.step raw number = s.take number st := by
  obtain ⟨hne, hc, hfresh⟩ := h
  cases hb : startsBlank raw with
  | false => simp [step, hne, hc, hb, hread]
  | true =>
    obtain ⟨hd, hcont⟩ := hfresh hb
    simp [step, hne, hc, hb, hd, hcont, hread]

theorem step_of_fault {fault : Fault} (h : s.StandsAlone raw)
    (hread : Statement.read (trim raw) = .error fault) :
    s.step raw number = .fail ⟨fault, String.ofList (trim raw), some number⟩ := by
  obtain ⟨hne, hc, hfresh⟩ := h
  cases hb : startsBlank raw with
  | false => simp [step, hne, hc, hb, hread]
  | true =>
    obtain ⟨hd, hcont⟩ := hfresh hb
    simp [step, hne, hc, hb, hd, hcont, hread]

/-- Every line is blank, a comment, dropped, the continuation of a value, or it stands alone. -/
theorem line_cases (s : State) (raw : List Char) :
    trim raw = [] ∨ isComment (trim raw) = true ∨
      (trim raw ≠ [] ∧ isComment (trim raw) = false ∧ startsBlank raw = true ∧
        s.cursor.isDropping = true) ∨
      (trim raw ≠ [] ∧ isComment (trim raw) = false ∧ startsBlank raw = true ∧
        ∃ p i, s.cursor = .value p i) ∨
      s.StandsAlone raw := by
  by_cases hne : trim raw = []
  · exact .inl hne
  cases hc : isComment (trim raw) with
  | true => exact .inr (.inl rfl)
  | false =>
    cases hb : startsBlank raw with
    | false =>
      refine .inr (.inr (.inr (.inr ⟨hne, hc, fun h => ?_⟩)))
      rw [hb] at h
      cases h
    | true =>
      cases hcur : s.cursor with
      | value p i => exact .inr (.inr (.inr (.inl ⟨hne, rfl, rfl, p, i, rfl⟩)))
      | dropped p => exact .inr (.inr (.inl ⟨hne, rfl, rfl, rfl⟩))
      | start => exact .inr (.inr (.inr (.inr ⟨hne, hc, fun _ => by rw [hcur]; exact ⟨rfl, rfl⟩⟩)))
      | body p => exact .inr (.inr (.inr (.inr ⟨hne, hc, fun _ => by rw [hcur]; exact ⟨rfl, rfl⟩⟩)))

theorem openSection_of_mem {name : String} {p : Nat}
    (h : s.sections.findIdx? (·.name = name) = some p) :
    s.openSection name number = { s with cursor := .body p } := by
  rw [openSection, h]

theorem openSection_of_not_mem {name : String} (h : name ∉ s.sections.map Section.name) :
    s.openSection name number =
      { sections := s.sections ++ [{ name, line := number }]
        cursor := .body s.sections.length } := by
  have hnone : s.sections.findIdx? (·.name = name) = none := by
    rw [List.findIdx?_eq_none_iff]
    intro t ht
    have hne : t.name ≠ name := fun e => h (e ▸ List.mem_map_of_mem ht)
    simpa using hne
  rw [openSection, hnone]

theorem addEntry_outside {key value : String} (h : s.current? = none) :
    s.addEntry key value number = .fail ⟨.entryOutsideSection, key, some number⟩ := by
  rw [addEntry, h]

theorem result_addEntry_duplicate {key value : String} {p : Nat} {target : Section} {first : Entry}
    (h : s.current? = some (p, target)) (hfirst : target.find? key = some first) :
    (s.addEntry key value number).result = .ok { s with cursor := .dropped p } := by
  rw [addEntry, h]
  simp only [hfirst]
  rfl

theorem addEntry_new {key value : String} {p : Nat} {target : Section}
    (h : s.current? = some (p, target)) (hnone : target.find? key = none) :
    s.addEntry key value number =
      pure {
        sections := s.sections.modify p (·.push { key, value, line := number })
        cursor := .value p target.entries.length } := by
  rw [addEntry, h]
  simp only [hnone]

end State

theorem Section.find?_eq_none_iff {s : Section} {key : String} :
    s.find? key = none ↔ key ∉ s.entries.map Entry.key := by
  simp [Section.find?, List.find?_eq_none]

end SwitchInventory.Config
