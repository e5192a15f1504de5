import SwitchInventory.Proofs.Config.Valid
import SwitchInventory.Proofs.Keyed

namespace SwitchInventory.Config

open SwitchInventory.Text

/-- Where the next line belongs, by the names of sections and the keys of entries. -/
inductive Place where
  | start
  | body (name : String)
  | value (name key : String)
  | dropped (name : String)
  deriving DecidableEq

namespace Place

def close : Place → Place
  | start => start
  | body name => body name
  | value name _ => body name
  | dropped name => body name

/-- The name of the section that entries go to. -/
def name? : Place → Option String
  | start => none
  | body name => some name
  | value name _ => some name
  | dropped name => some name

/-- An indented line belongs to the entry before it. -/
def takesIndented : Place → Bool
  | start => false
  | body _ => false
  | value _ _ => true
  | dropped _ => true

end Place

/-- A section of that name has an entry for the key. -/
def Holds (sections : List Section) (name key : String) : Prop :=
  ∃ s ∈ sections, s.name = name ∧ key ∈ s.entries.map Entry.key

instance (sections : List Section) (name key : String) : Decidable (Holds sections name key) :=
  inferInstanceAs (Decidable (∃ s ∈ sections, s.name = name ∧ key ∈ s.entries.map Entry.key))

/-- The section with `text` added to the value under a key. -/
def Section.continue (key text : String) (s : Section) : Section :=
  { s with entries := Keyed.change Entry.key key (·.extend text) s.entries }

structure View where
  sections : List Section := []
  place : Place := .start

namespace View

variable {v : View} {name key value : String} {number : Nat}

def close (v : View) : View := { v with place := v.place.close }

def extend (v : View) (text : String) : View :=
  match v.place with
  | .value name key =>
    { v with sections := Keyed.change Section.name name (·.continue key text) v.sections }
  | _ => v

def openSection (v : View) (name : String) (number : Nat) : View where
  sections :=
    if name ∈ v.sections.map Section.name then v.sections
    else v.sections ++ [{ name, line := number }]
  place := .body name

def addEntry (v : View) (key value : String) (number : Nat) : Except FormatError View :=
  match v.place.name? with
  | none => .error ⟨.entryOutsideSection, key, some number⟩
  | some name =>
    if Holds v.sections name key then .ok { v with place := .dropped name }
    else
      .ok {
        sections := Keyed.change Section.name name (·.push { key, value, line := number }) v.sections
        place := .value name key }

def take (v : View) (number : Nat) : Statement → Except FormatError View
  | .header name => .ok (v.openSection name number)
  | .entry key value => v.addEntry key value number

def step (v : View) (raw : List Char) (number : Nat) : Except FormatError View :=
  if trim raw = [] then .ok v.close
  else if isComment (trim raw) then .ok v
  else if startsBlank raw && v.place.takesIndented then .ok (v.extend (String.ofList (trim raw)))
  else
    match Statement.read (trim raw) with
    | .error fault => .error ⟨fault, String.ofList (trim raw), some number⟩
    | .ok statement => v.take number statement

def run (v : View) (numbered : List (List Char × Nat)) : Except FormatError View :=
  numbered.foldlM (fun v line => v.step line.1 line.2) v

theorem openSection_of_mem (h : name ∈ v.sections.map Section.name) :
    v.openSection name number = ⟨v.sections, .body name⟩ := by
  rw [openSection, if_pos h]

theorem openSection_of_not_mem (h : name ∉ v.sections.map Section.name) :
    v.openSection name number = ⟨v.sections ++ [{ name, line := number }], .body name⟩ := by
  rw [openSection, if_neg h]

theorem addEntry_outside (h : v.place.name? = none) :
    v.addEntry key value number = .error ⟨.entryOutsideSection, key, some number⟩ := by
  rw [addEntry, h]

theorem addEntry_of_holds (h : v.place.name? = some name) (hkey : Holds v.sections name key) :
    v.addEntry key value number = .ok ⟨v.sections, .dropped name⟩ := by
  rw [addEntry, h]
  exact if_pos hkey

theorem addEntry_of_not_holds (h : v.place.name? = some name) (hkey : ¬ Holds v.sections name key) :
    v.addEntry key value number =
      .ok ⟨Keyed.change Section.name name (·.push { key, value, line := number }) v.sections,
        .value name key⟩ := by
  rw [addEntry, h]
  exact if_neg hkey

end View

def nameAt (sections : List Section) (p : Nat) : String := (sections[p]?.map Section.name).getD ""

def keyAt (sections : List Section) (p i : Nat) : String :=
  ((sections[p]?.bind fun s => s.entries[i]?).map Entry.key).getD ""

/-- The place that a cursor points to. -/
def Cursor.place (sections : List Section) : Cursor → Place
  | start => .start
  | body p => .body (nameAt sections p)
  | value p i => .value (nameAt sections p) (keyAt sections p i)
  | dropped p => .dropped (nameAt sections p)

theorem holds_iff {sections : List Section} (h : (sections.map Section.name).Nodup) {s : Section}
    (hs : s ∈ sections) {key : String} :
    Holds sections s.name key ↔ key ∈ s.entries.map Entry.key := by
  constructor
  · intro ⟨t, ht, hname, hkey⟩
    rwa [List.inj_on_of_nodup_map h ht hs hname] at hkey
  · intro hkey
    exact ⟨s, hs, rfl, hkey⟩

namespace State

variable {s s' : State} {raw : List Char} {number : Nat}

/-- The state with names in the place of positions. -/
def view (s : State) : View := ⟨s.sections, s.cursor.place s.sections⟩

section

variable {sections : List Section} {p i : Nat} {t : Section} {e : Entry}

theorem view_body (h : sections[p]? = some t) :
    view ⟨sections, .body p⟩ = ⟨sections, .body t.name⟩ := by
  simp [view, Cursor.place, nameAt, h]

theorem view_value (h : sections[p]? = some t) (he : t.entries[i]? = some e) :
    view ⟨sections, .value p i⟩ = ⟨sections, .value t.name e.key⟩ := by
  simp [view, Cursor.place, nameAt, keyAt, h, he]

theorem view_dropped (h : sections[p]? = some t) :
    view ⟨sections, .dropped p⟩ = ⟨sections, .dropped t.name⟩ := by
  simp [view, Cursor.place, nameAt, h]

end

theorem view_close (s : State) : State.view { s with cursor := s.cursor.close } = s.view.close := by
  obtain ⟨sections, cursor⟩ := s
  cases cursor <;> rfl

theorem Valid.view_extend (h : s.Valid) {p i : Nat} (hcur : s.cursor = .value p i) (text : String) :
    (s.extend p i text).view = s.view.extend text := by
  obtain ⟨sections, cursor⟩ := s
  obtain rfl : cursor = .value p i := hcur
  obtain ⟨t, ht, hi⟩ := h.cursor
  have he : t.entries[i]? = some t.entries[i] := List.getElem?_eq_getElem (by omega)
  have hsection : t.extend i text = t.continue t.entries[i].key text := by
    have hkeys := (h.wellFormed.wellFormed t (List.mem_of_getElem? ht)).nodup_keys
    rw [Section.extend, Keyed.modify_eq_change hkeys he rfl]
    rfl
  have hsections : sections.modify p (·.extend i text) =
      Keyed.change Section.name t.name (·.continue t.entries[i].key text) sections :=
    Keyed.modify_eq_change h.wellFormed.nodup_names ht hsection
  have ht' : (sections.modify p (·.extend i text))[p]? = some (t.extend i text) := by
    rw [List.getElem?_modify_eq, ht]
    rfl
  have he' : (t.extend i text).entries[i]? = some (t.entries[i].extend text) := by
    rw [Section.extend, List.getElem?_modify_eq, he]
    rfl
  rw [State.extend, view_value ht' he', view_value ht he, hsections]
  rfl

theorem view_openSection (s : State) (name : String) (number : Nat) :
    (s.openSection name number).view = s.view.openSection name number := by
  by_cases hmem : name ∈ s.sections.map Section.name
  · obtain ⟨t, ht, rfl⟩ := List.mem_map.mp hmem
    obtain ⟨p, hp⟩ : ∃ p, s.sections.findIdx? (·.name = t.name) = some p := by
      apply Option.isSome_iff_exists.mp
      rw [List.findIdx?_isSome, List.any_eq_true]
      exact ⟨t, ht, by simp⟩
    obtain ⟨hlt, hname, -⟩ := List.findIdx?_eq_some_iff_getElem.mp hp
    have hname' : s.sections[p].name = t.name := by simpa using hname
    rw [openSection_of_mem hp, view_body (List.getElem?_eq_getElem hlt),
      View.openSection_of_mem hmem, hname']
    rfl
  · rw [openSection_of_not_mem hmem, view_body (t := { name, line := number }) (by simp)]
    exact (View.openSection_of_not_mem (v := s.view) hmem).symm

theorem view_name?_of_current? {p : Nat} {target : Section} (h : s.current? = some (p, target)) :
    s.view.place.name? = some target.name := by
  obtain ⟨hpos, ht⟩ := current?_eq_some_iff.mp h
  have hname : nameAt s.sections p = target.name := by
    rw [nameAt, ht]
    rfl
  rw [← hname]
  unfold view
  cases hcur : s.cursor <;> simp_all [Cursor.position?, Cursor.place, Place.name?]

theorem Valid.view_addEntry (h : s.Valid) (key value : String) (number : Nat) :
    (s.addEntry key value number).result.map view = s.view.addEntry key value number := by
  rcases h.current? with hstart | ⟨p, target, hcur⟩
  · have hnone : s.current? = none := by rw [State.current?, hstart]; rfl
    have hname : s.view.place.name? = none := by rw [view, hstart]; rfl
    rw [addEntry_outside hnone, View.addEntry_outside hname]
    rfl
  · have hname := view_name?_of_current? hcur
    obtain ⟨-, ht⟩ := current?_eq_some_iff.mp hcur
    have hholds : Holds s.sections target.name key ↔ key ∈ target.entries.map Entry.key :=
      holds_iff h.wellFormed.nodup_names (List.mem_of_getElem? ht)
    cases hfind : target.find? key with
    | some first =>
      have hmem : Holds s.sections target.name key := by
        rw [hholds]
        by_contra hno
        rw [Section.find?_eq_none_iff.mpr hno] at hfind
        cases hfind
      rw [result_addEntry_duplicate hcur hfind, View.addEntry_of_holds hname hmem]
      exact congrArg Except.ok (view_dropped ht)
    | none =>
      have hmem : ¬ Holds s.sections target.name key := by
        rw [hholds]
        exact Section.find?_eq_none_iff.mp hfind
      have hsections : s.sections.modify p (·.push { key, value, line := number }) =
          Keyed.change Section.name target.name (·.push { key, value, line := number }) s.sections :=
        Keyed.modify_eq_change h.wellFormed.nodup_names ht rfl
      have ht' : (s.sections.modify p (·.push { key, value, line := number }))[p]? =
          some (target.push { key, value, line := number }) := by
        rw [List.getElem?_modify_eq, ht]
        rfl
      have he' : (target.push { key, value, line := number }).entries[target.entries.length]? =
          some { key, value, line := number } := by
        simp [Section.push]
      have hview := view_value ht' he'
      rw [addEntry_new hcur hfind, View.addEntry_of_not_holds hname hmem]
      rw [hsections] at hview ⊢
      exact congrArg Except.ok hview

theorem Valid.view_take (h : s.Valid) (number : Nat) (st : Statement) :
    (s.take number st).result.map view = s.view.take number st := by
  cases st with
  | header name => exact congrArg Except.ok (view_openSection s name number)
  | entry key value => exact h.view_addEntry key value number

theorem takesIndented_view (s : State) : s.view.place.takesIndented =
    (s.cursor.isDropping || s.cursor.continued?.isSome) := by
  unfold view
  cases s.cursor <;> rfl

theorem StandsAlone.not_taken (h : s.StandsAlone raw) :
    (startsBlank raw && s.view.place.takesIndented) = false := by
  cases hb : startsBlank raw with
  | false => rfl
  | true =>
    obtain ⟨hd, hcont⟩ := h.fresh hb
    rw [takesIndented_view, hd, hcont]
    rfl

/-- Both readers take the same step. -/
theorem Valid.view_step (h : s.Valid) (raw : List Char) (number : Nat) :
    (s.step raw number).result.map view = s.view.step raw number := by
  rcases line_cases s raw with hb | hc | ⟨hne, hc, hb, hd⟩ | ⟨hne, hc, hb, p, i, hcur⟩ | halone
  · rw [step_blank hb, View.step, if_pos hb, ← view_close]
    rfl
  · have hne : trim raw ≠ [] := by
      intro hnil
      rw [hnil] at hc
      cases hc
    rw [step_comment hc, View.step, if_neg hne, if_pos hc]
    rfl
  · obtain ⟨p, hcur⟩ : ∃ p, s.cursor = .dropped p := by
      cases hcur : s.cursor <;> simp_all [Cursor.isDropping]
    have hplace : s.view.place = .dropped (nameAt s.sections p) := by rw [view, hcur]; rfl
    rw [step_dropped hne hc hb hd]
    simp [View.step, hne, hc, hb, hplace, Place.takesIndented, View.extend, Except.map]
  · have hplace : s.view.place = .value (nameAt s.sections p) (keyAt s.sections p i) := by
      rw [view, hcur]
      rfl
    rw [step_continued hne hc hb hcur]
    simp [View.step, hne, hc, hb, hplace, Place.takesIndented, h.view_extend hcur, Except.map]
  · rw [View.step, if_neg halone.ne_nil, if_neg (by simp [halone.no_comment]),
      if_neg (by simp [halone.not_taken])]
    cases hread : Statement.read (trim raw) with
    | error fault =>
      rw [step_of_fault halone hread]
      rfl
    | ok st => rw [step_of_read halone hread, h.view_take]

/-- The reader takes the same steps with names as with positions. -/
theorem Valid.view_run (h : s.Valid) {numbered : List (List Char × Nat)}
    (hn : ∀ line ∈ numbered, '\n' ∉ line.1) :
    (s.run numbered).result.map view = s.view.run numbered := by
  induction numbered generalizing s with
  | nil => rfl
  | cons line numbered ih =>
    have hstep := h.view_step line.1 line.2
    rw [State.run, View.run, List.foldlM_cons, List.foldlM_cons, Logged.result_bind, ← hstep]
    cases hs : (s.step line.1 line.2).result with
    | error e => rfl
    | ok t =>
      have ht : t.Valid := h.step (hn line List.mem_cons_self) hs
      exact ih ht fun l hl => hn l (List.mem_cons_of_mem line hl)

end State

/-- A text can be read by names. -/
theorem result_read (text : String) :
    (read text).result = (View.run {} (numberedLines text)).map View.sections := by
  have hrun : (State.run {} (numberedLines text)).result.map State.view =
      View.run {} (numberedLines text) :=
    State.valid_empty.view_run fun _ => newline_not_mem_of_mem_numberedLines
  rw [← hrun, read, Logged.result_bind]
  cases (State.run {} (numberedLines text)).result <;> rfl

end SwitchInventory.Config
