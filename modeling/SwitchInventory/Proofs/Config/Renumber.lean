import SwitchInventory.Proofs.Config.ByName

namespace SwitchInventory

def FormatError.renumber (f : Nat → Nat) (e : FormatError) : FormatError :=
  { e with line := e.line.map f }

namespace Config

open SwitchInventory.Text

def Entry.renumber (f : Nat → Nat) (e : Entry) : Entry := { e with line := f e.line }

/-- The section with all its line numbers changed. -/
def Section.renumber (f : Nat → Nat) (s : Section) : Section :=
  { s with line := f s.line, entries := s.entries.map (Entry.renumber f) }

variable {f : Nat → Nat} {sections : List Section} {name key : String}

private theorem Section.keys_renumber (f : Nat → Nat) (s : Section) :
    (s.renumber f).entries.map Entry.key = s.entries.map Entry.key := by
  rw [renumber, List.map_map]
  rfl

theorem Section.renumber_push (f : Nat → Nat) (s : Section) (e : Entry) :
    (s.push e).renumber f = (s.renumber f).push (e.renumber f) := by
  simp [renumber, push]

theorem Section.renumber_continue (f : Nat → Nat) (s : Section) (key text : String) :
    (s.continue key text).renumber f = (s.renumber f).continue key text := by
  have hkey : ∀ e : Entry, (e.renumber f).key = e.key := fun _ => rfl
  have hextend : ∀ e : Entry, (e.extend text).renumber f = (e.renumber f).extend text :=
    fun _ => rfl
  have hentries : (Keyed.change Entry.key key (·.extend text) s.entries).map (Entry.renumber f) =
      Keyed.change Entry.key key (·.extend text) (s.entries.map (Entry.renumber f)) :=
    Keyed.map_change hkey hextend key s.entries
  rw [renumber, Section.continue, Section.continue, renumber, hentries]

theorem map_name_renumber (f : Nat → Nat) (sections : List Section) :
    (sections.map (Section.renumber f)).map Section.name = sections.map Section.name := by
  rw [List.map_map]
  rfl

theorem holds_renumber : Holds (sections.map (Section.renumber f)) name key ↔
    Holds sections name key := by
  constructor
  · intro ⟨s, hs, hname, hkey⟩
    obtain ⟨t, ht, rfl⟩ := List.mem_map.mp hs
    rw [Section.keys_renumber] at hkey
    exact ⟨t, ht, hname, hkey⟩
  · intro ⟨s, hs, hname, hkey⟩
    exact ⟨s.renumber f, List.mem_map_of_mem hs, hname, by rwa [Section.keys_renumber]⟩

namespace View

variable {v : View} {number : Nat}

def renumber (f : Nat → Nat) (v : View) : View := { v with sections := v.sections.map (.renumber f) }

theorem renumber_extend (f : Nat → Nat) (v : View) (text : String) :
    (v.extend text).renumber f = (v.renumber f).extend text := by
  obtain ⟨sections, place⟩ := v
  cases place with
  | value name key =>
    have hname : ∀ s : Section, (s.renumber f).name = s.name := fun _ => rfl
    have hchange := Keyed.map_change (f := (·.continue key text)) hname
      (fun s => Section.renumber_continue f s key text) name sections
    exact congrArg (View.mk · (.value name key)) hchange
  | _ => rfl

theorem renumber_openSection (f : Nat → Nat) (v : View) (name : String) (number : Nat) :
    (v.openSection name number).renumber f = (v.renumber f).openSection name (f number) := by
  have hnames : (v.renumber f).sections.map Section.name = v.sections.map Section.name :=
    map_name_renumber f v.sections
  by_cases h : name ∈ v.sections.map Section.name
  · rw [openSection_of_mem h, openSection_of_mem (hnames ▸ h)]
    rfl
  · rw [openSection_of_not_mem h, openSection_of_not_mem (hnames ▸ h), renumber, List.map_append]
    rfl

theorem renumber_addEntry (f : Nat → Nat) (v : View) (key value : String) (number : Nat) :
    (v.renumber f).addEntry key value (f number) =
      ((v.addEntry key value number).map (renumber f)).mapError (.renumber f) := by
  cases hplace : v.place.name? with
  | none =>
    rw [addEntry_outside hplace, addEntry_outside (v := v.renumber f) hplace]
    rfl
  | some name =>
    by_cases hkey : Holds v.sections name key
    · rw [addEntry_of_holds hplace hkey,
        addEntry_of_holds (v := v.renumber f) hplace (holds_renumber.mpr hkey)]
      rfl
    · have hno : ¬ Holds (v.renumber f).sections name key := fun h => hkey (holds_renumber.mp h)
      have hname : ∀ s : Section, (s.renumber f).name = s.name := fun _ => rfl
      have hchange : (Keyed.change Section.name name (·.push { key, value, line := number })
          v.sections).map (Section.renumber f) =
            Keyed.change Section.name name (·.push { key, value, line := f number })
              (v.sections.map (Section.renumber f)) :=
        Keyed.map_change hname (fun s => Section.renumber_push f s _) name v.sections
      rw [addEntry_of_not_holds hplace hkey,
        addEntry_of_not_holds (v := v.renumber f) hplace hno]
      exact congrArg (fun sections => Except.ok (View.mk sections (.value name key))) hchange.symm

theorem renumber_step (f : Nat → Nat) (v : View) (raw : List Char) (number : Nat) :
    (v.renumber f).step raw (f number) =
      ((v.step raw number).map (renumber f)).mapError (.renumber f) := by
  -- The cases are those of a line: blank, a comment, indented, or a statement of its own.
  have hplace : (v.renumber f).place = v.place := rfl
  unfold step
  rw [hplace]
  split
  · rfl
  split
  · rfl
  split
  · rw [← renumber_extend]
    rfl
  cases Statement.read (trim raw) with
  | error fault => rfl
  | ok st =>
    cases st with
    | header name => exact congrArg Except.ok (renumber_openSection f v name number).symm
    | entry key value => exact renumber_addEntry f v key value number

/-- Line numbers are carried along and never looked at. -/
theorem renumber_run (f : Nat → Nat) (v : View) (numbered : List (List Char × Nat)) :
    (v.renumber f).run (numbered.map (Prod.map id f)) =
      ((v.run numbered).map (renumber f)).mapError (.renumber f) := by
  induction numbered generalizing v with
  | nil => rfl
  | cons line numbered ih =>
    rw [List.map_cons, run, run, List.foldlM_cons, List.foldlM_cons]
    change View.step _ line.1 (f line.2) >>= _ = _
    rw [renumber_step]
    cases v.step line.1 line.2 with
    | error e => rfl
    | ok w => exact ih w

end View

/-- The same lines are read to the same sections, whatever numbers they have. -/
theorem View.sections_unnumbered_of_run {numbered numbered' : List (List Char × Nat)}
    (h : numbered.map Prod.fst = numbered'.map Prod.fst) {v : View}
    (hv : View.run {} numbered = .ok v) :
    ∃ v', View.run {} numbered' = .ok v' ∧
      v'.sections.map Section.unnumbered = v.sections.map Section.unnumbered := by
  have hforget (ls : List (List Char × Nat)) :
      ls.map (Prod.map id fun _ => 0) = (ls.map Prod.fst).map (·, 0) := by
    rw [List.map_map]
    rfl
  have hrun := renumber_run (fun _ => 0) {} numbered
  have hrun' := renumber_run (fun _ => 0) {} numbered'
  rw [hforget, h, ← hforget, hrun', hv] at hrun
  cases hv' : View.run {} numbered' with
  | error e =>
    rw [hv'] at hrun
    cases hrun
  | ok v' =>
    rw [hv'] at hrun
    exact ⟨v', rfl, congrArg View.sections (Except.ok.inj hrun)⟩

end Config

end SwitchInventory
