import SwitchInventory.Proofs.Config.Move

namespace SwitchInventory.Config

open SwitchInventory.Lists SwitchInventory.Text

/-- What the reader knows between two lines, its place in the sections kept in three registers. -/
structure Registers where
  sections : List Section := []
  /-- the position of the section that entries go to -/
  current : Option Nat := none
  /-- the index of the entry that an indented line continues -/
  continuing : Option Nat := none
  /-- whether indented lines are dropped -/
  skipping : Bool := false
  deriving DecidableEq, Repr

namespace Registers

/-- Why a run over registers stops. -/
inductive Stop where
  | malformed (e : FormatError)
  | outOfBounds
  deriving DecidableEq, Repr

def extend (r : Registers) (p i : Nat) (text : String) : Logged Stop Registers :=
  match r.sections[p]? with
  | none => .fail .outOfBounds
  | some t =>
    if i < t.entries.length then
      pure { r with sections := r.sections.modify p (·.extend i text) }
    else .fail .outOfBounds

def openSection (r : Registers) (name : String) (number : Nat) : Registers :=
  match r.sections.findIdx? (·.name = name) with
  | some p => { r with current := some p, continuing := none, skipping := false }
  | none =>
    let sections := r.sections ++ [{ name, line := number }]
    { sections, current := some (sections.length - 1) }

def addEntry (r : Registers) (key value : String) (number : Nat) : Logged Stop Registers :=
  match r.current with
  | none => .fail (.malformed ⟨.entryOutsideSection, key, some number⟩)
  | some p =>
    match r.sections[p]? with
    | none => .fail .outOfBounds
    | some t =>
      match t.find? key with
      | some first => do
        Logged.log .warn .config (State.duplicateMessage t key number first.line)
        return { r with continuing := none, skipping := true }
      | none =>
        let e : Entry := { key, value, line := number }
        return { r with
          sections := r.sections.modify p (·.push e)
          continuing := some ((t.push e).entries.length - 1)
          skipping := false }

def take (r : Registers) (number : Nat) : Statement → Logged Stop Registers
  | .header name => pure (r.openSection name number)
  | .entry key value => r.addEntry key value number

def step (r : Registers) (raw : List Char) (number : Nat) : Logged Stop Registers :=
  let text := trim raw
  if text.isEmpty then pure { r with continuing := none, skipping := false }
  else if isComment text then pure r
  else if startsBlank raw && r.skipping then pure r
  else
    match startsBlank raw, r.current, r.continuing with
    | true, some p, some i => r.extend p i (String.ofList text)
    | _, _, _ =>
      match Statement.read text with
      | .error fault => .fail (.malformed ⟨fault, String.ofList text, some number⟩)
      | .ok statement => r.take number statement

def run (r : Registers) (numbered : List (List Char × Nat)) : Logged Stop Registers :=
  numbered.foldlM (fun r line => r.step line.1 line.2) r

def read (text : String) : Logged Stop (List Section) := do
  let final ← run {} (numberedLines text)
  return final.sections

variable {r : Registers} {raw : List Char} {key value : String} {number p i : Nat} {t : Section}

private theorem addEntry_outside (h : r.current = none) :
    r.addEntry key value number = .fail (.malformed ⟨.entryOutsideSection, key, some number⟩) := by
  rw [addEntry, h]

private theorem addEntry_duplicate (hp : r.current = some p) (ht : r.sections[p]? = some t)
    {first : Entry} (hfirst : t.find? key = some first) :
    r.addEntry key value number = do
      Logged.log .warn .config (State.duplicateMessage t key number first.line)
      return { r with continuing := none, skipping := true } := by
  rw [addEntry, hp]
  simp only [ht, hfirst]

private theorem addEntry_new (hp : r.current = some p) (ht : r.sections[p]? = some t)
    (hnone : t.find? key = none) :
    r.addEntry key value number = pure { r with
      sections := r.sections.modify p (·.push { key, value, line := number })
      continuing := some t.entries.length
      skipping := false } := by
  rw [addEntry, hp]
  simp [ht, hnone, Section.push]

private theorem extend_of_lt (ht : r.sections[p]? = some t) (hi : i < t.entries.length)
    (text : String) :
    r.extend p i text = pure { r with sections := r.sections.modify p (·.extend i text) } := by
  rw [extend, ht]
  exact if_pos hi

/-- A line that nothing above it takes up is read on its own. -/
theorem step_alone (hne : trim raw ≠ []) (hc : isComment (trim raw) = false)
    (hfresh : startsBlank raw = true → r.skipping = false ∧ r.continuing = none) :
    r.step raw number =
      match Statement.read (trim raw) with
      | .error fault => .fail (.malformed ⟨fault, String.ofList (trim raw), some number⟩)
      | .ok st => r.take number st := by
  cases hb : startsBlank raw with
  | false => simp [step, hne, hc, hb]
  | true =>
    obtain ⟨hskip, hnone⟩ := hfresh hb
    simp [step, hne, hc, hb, hskip, hnone]

/-- Registers that agree with each other and with the sections, in which no name and no key is
twice. -/
structure Sound (r : Registers) : Prop where
  current : ∀ p, r.current = some p → p < r.sections.length
  continuing : ∀ i, r.continuing = some i → ∃ p t, r.current = some p ∧ r.sections[p]? = some t ∧
    i + 1 = t.entries.length
  apart : ¬ (r.continuing.isSome = true ∧ r.skipping = true)
  nodup_names : (r.sections.map Section.name).Nodup
  nodup_keys : ∀ t ∈ r.sections, (t.entries.map Entry.key).Nodup

/-- An outcome without an access out of bounds; the registers, if there are any, are sound. -/
def Safe (x : Logged Stop Registers) : Prop :=
  match x.result with
  | .ok r => r.Sound
  | .error (.malformed _) => True
  | .error .outOfBounds => False

theorem Safe.sound {x : Logged Stop Registers} (h : Safe x) (hr : x.result = .ok r) : r.Sound := by
  rwa [Safe, hr] at h

theorem Safe.ne_outOfBounds {x : Logged Stop Registers} (h : Safe x) :
    x.result ≠ .error .outOfBounds := by
  intro hstop
  rwa [Safe, hstop] at h

theorem Safe.bind {x : Logged Stop Registers} (hx : Safe x) {f : Registers → Logged Stop Registers}
    (hf : ∀ r, r.Sound → Safe (f r)) : Safe (x >>= f) := by
  unfold Safe at hx ⊢
  rw [Logged.result_bind]
  cases hresult : x.result with
  | ok r =>
    rw [hresult] at hx
    exact hf r hx
  | error stop =>
    rw [hresult] at hx
    exact hx

theorem sound_empty : Sound {} where
  current := by simp
  continuing := by simp
  apart := by simp
  nodup_names := by simp
  nodup_keys := by simp

/-- A place in the same sections with no entry to continue. -/
theorem Sound.moveTo (h : r.Sound) {current : Option Nat}
    (hcurrent : ∀ p, current = some p → p < r.sections.length) (skipping : Bool) :
    Sound ⟨r.sections, current, none, skipping⟩ where
  current := hcurrent
  continuing := by simp
  apart := by simp
  nodup_names := h.nodup_names
  nodup_keys := h.nodup_keys

/-- A section can be changed as long as its name stays and its keys stay distinct; its last entry
can be continued. -/
theorem Sound.modify (h : r.Sound) (ht : r.sections[p]? = some t) {f : Section → Section}
    (hname : ∀ t, (f t).name = t.name) (hkeys : ((f t).entries.map Entry.key).Nodup)
    (hi : i + 1 = (f t).entries.length) :
    Sound ⟨r.sections.modify p f, some p, some i, false⟩ where
  current q hq := by
    obtain rfl := Option.some.inj hq
    rw [List.length_modify]
    exact (List.getElem?_eq_some_iff.mp ht).1
  continuing j hj := by
    obtain rfl := Option.some.inj hj
    exact ⟨p, f t, rfl, by simp [ht], hi⟩
  apart := by simp
  nodup_names := by
    rw [map_modify_eq hname]
    exact h.nodup_names
  nodup_keys u hu := by
    rcases mem_modify ht hu with rfl | hu
    · exact hkeys
    · exact h.nodup_keys u hu

theorem Sound.safe_extend (h : r.Sound) (hp : r.current = some p) (hi : r.continuing = some i)
    (text : String) : Safe (r.extend p i text) := by
  obtain ⟨q, t, hq, ht, hlast⟩ := h.continuing i hi
  obtain rfl : p = q := by simpa [hp] using hq
  have hskip : r.skipping = false := by
    have hapart := h.apart
    simpa [hi] using hapart
  have hkeys : (t.extend i text).entries.map Entry.key = t.entries.map Entry.key :=
    map_modify_eq (f := (·.extend text)) (fun _ => rfl) t.entries i
  rw [extend_of_lt ht (by omega), hp, hi, hskip]
  apply h.modify ht (f := (·.extend i text)) (fun _ => rfl)
  · rw [hkeys]
    exact h.nodup_keys t (List.mem_of_getElem? ht)
  · simp [Section.extend, hlast]

theorem Sound.openSection (h : r.Sound) (name : String) (number : Nat) :
    (r.openSection name number).Sound := by
  unfold Registers.openSection
  split
  · rename_i p hfind
    apply h.moveTo
    intro q hq
    obtain rfl := Option.some.inj hq
    exact (List.findIdx?_eq_some_iff_getElem.mp hfind).1
  · rename_i hfind
    have hnew : name ∉ r.sections.map Section.name := by simpa using hfind
    refine ⟨by simp, by simp, by simp, ?_, ?_⟩
    · rw [List.map_append, List.map_singleton, ← List.concat_eq_append]
      exact (List.nodup_concat _ _).mpr ⟨hnew, h.nodup_names⟩
    · intro t ht
      rcases List.mem_append.mp ht with ht | ht
      · exact h.nodup_keys t ht
      · rw [List.mem_singleton.mp ht]
        exact List.nodup_nil

theorem Sound.safe_addEntry (h : r.Sound) (key value : String) (number : Nat) :
    Safe (r.addEntry key value number) := by
  cases hp : r.current with
  | none =>
    rw [addEntry_outside hp]
    trivial
  | some p =>
    have hlt := h.current p hp
    have ht : r.sections[p]? = some r.sections[p] := List.getElem?_eq_getElem hlt
    cases hfind : r.sections[p].find? key with
    | some first =>
      rw [addEntry_duplicate hp ht hfind]
      exact h.moveTo h.current true
    | none =>
      have hkeys := h.nodup_keys _ (List.getElem_mem hlt)
      rw [addEntry_new hp ht hfind, hp]
      apply h.modify ht (f := (·.push { key, value, line := number })) (fun _ => rfl)
      · rw [Section.push, List.map_append, List.map_singleton, ← List.concat_eq_append]
        exact (List.nodup_concat _ _).mpr ⟨Section.find?_eq_none_iff.mp hfind, hkeys⟩
      · simp [Section.push]

theorem Sound.safe_take (h : r.Sound) (number : Nat) (st : Statement) :
    Safe (r.take number st) := by
  cases st with
  | header name => exact h.openSection name number
  | entry key value => exact h.safe_addEntry key value number

/-- Whatever the line, it is read without an access out of bounds and leaves sound registers. -/
theorem Sound.safe_step (h : r.Sound) (raw : List Char) (number : Nat) :
    Safe (r.step raw number) := by
  unfold step
  dsimp only
  split
  · exact h.moveTo h.current false
  split
  · exact h
  split
  · exact h
  split
  · rename_i hp hi
    exact h.safe_extend hp hi _
  · split
    · trivial
    · exact h.safe_take number _

/-- Registers that are not sound can lead out of bounds. -/
example : (step ⟨[], some 0, some 0, false⟩ [' ', 'a'] 1).result = .error .outOfBounds := by rfl

/-- No run from sound registers makes an access out of bounds. -/
theorem Sound.safe_run (h : r.Sound) (numbered : List (List Char × Nat)) :
    Safe (r.run numbered) := by
  induction numbered generalizing r with
  | nil => exact h
  | cons line rest ih =>
    rw [run, List.foldlM_cons]
    exact (h.safe_step line.1 line.2).bind fun r' hr' => ih hr'

end Registers

def State.registers (s : State) : Registers where
  sections := s.sections
  current := s.cursor.position?
  continuing := s.cursor.continued?.map Prod.snd
  skipping := s.cursor.isDropping

/-- The outcome of the reader, in registers. -/
def inRegisters (x : Logged FormatError State) : Logged Registers.Stop Registers where
  events := x.events
  result := (x.result.map State.registers).mapError .malformed

variable {s : State}

@[simp] theorem inRegisters_pure (s : State) : inRegisters (pure s) = pure s.registers := rfl

@[simp] theorem inRegisters_fail (e : FormatError) :
    inRegisters (.fail e) = .fail (.malformed e) := rfl

theorem result_inRegisters_eq_ok_iff {x : Logged FormatError State} {r : Registers} :
    (inRegisters x).result = .ok r ↔ ∃ s, x.result = .ok s ∧ s.registers = r := by
  rw [inRegisters, Sequence.mapError_eq_ok_iff, Sequence.map_eq_ok_iff]

theorem inRegisters_bind {x : Logged FormatError State} {f : State → Logged FormatError State}
    {g : Registers → Logged Registers.Stop Registers}
    (h : ∀ s, x.result = .ok s → inRegisters (f s) = g s.registers) :
    inRegisters (x >>= f) = inRegisters x >>= g := by
  obtain ⟨events, result⟩ := x
  cases result with
  | error e => rfl
  | ok s =>
    change inRegisters ⟨events ++ (f s).events, (f s).result⟩ =
      ⟨events ++ (g s.registers).events, (g s.registers).result⟩
    rw [← h s rfl]
    rfl

namespace State

@[simp] theorem sections_registers (s : State) : s.registers.sections = s.sections := rfl

theorem registers_body (sections : List Section) (p : Nat) :
    registers ⟨sections, .body p⟩ = ⟨sections, some p, none, false⟩ := rfl

theorem registers_value (sections : List Section) (p i : Nat) :
    registers ⟨sections, .value p i⟩ = ⟨sections, some p, some i, false⟩ := rfl

theorem registers_dropped (sections : List Section) (p : Nat) :
    registers ⟨sections, .dropped p⟩ = ⟨sections, some p, none, true⟩ := rfl

theorem registers_close (s : State) :
    State.registers { s with cursor := s.cursor.close } =
      { s.registers with continuing := none, skipping := false } := by
  obtain ⟨sections, cursor⟩ := s
  cases cursor <;> rfl

theorem registers_openSection (s : State) (name : String) (number : Nat) :
    s.registers.openSection name number = (s.openSection name number).registers := by
  unfold openSection Registers.openSection
  change (match s.sections.findIdx? (·.name = name) with | some p => _ | none => _) = _
  cases s.sections.findIdx? (·.name = name) with
  | some p => rfl
  | none => simp [registers_body]

theorem registers_addEntry (h : s.registers.Sound) (key value : String) (number : Nat) :
    s.registers.addEntry key value number = inRegisters (s.addEntry key value number) := by
  cases hp : s.cursor.position? with
  | none =>
    have hcur : s.current? = none := by rw [current?, hp]; rfl
    rw [addEntry_outside hcur, Registers.addEntry_outside hp, inRegisters_fail]
  | some p =>
    have hlt : p < s.sections.length := h.current p hp
    have ht : s.sections[p]? = some s.sections[p] := List.getElem?_eq_getElem hlt
    have hcur : s.current? = some (p, s.sections[p]) := current?_eq_some_iff.mpr ⟨hp, ht⟩
    cases hfind : s.sections[p].find? key with
    | some first =>
      have hdropped : State.registers { s with cursor := .dropped p } =
          { s.registers with continuing := none, skipping := true } := by
        rw [registers_dropped, ← hp]
        rfl
      rw [addEntry, hcur, Registers.addEntry_duplicate hp ht hfind, ← hdropped]
      simp only [hfind]
      rfl
    | none =>
      rw [addEntry_new hcur hfind, Registers.addEntry_new hp ht hfind, inRegisters_pure,
        registers_value, ← hp]
      rfl

theorem registers_take (h : s.registers.Sound) (number : Nat) (st : Statement) :
    s.registers.take number st = inRegisters (s.take number st) := by
  cases st with
  | header name =>
    rw [Registers.take, take, registers_openSection, inRegisters_pure]
  | entry key value => exact registers_addEntry h key value number

/-- From sound registers both readers take the same step. -/
theorem registers_step (h : s.registers.Sound) (raw : List Char) (number : Nat) :
    s.registers.step raw number = inRegisters (s.step raw number) := by
  rcases line_cases s raw with hb | hc | ⟨hne, hc, hb, hd⟩ | ⟨hne, hc, hb, p, i, hcur⟩ | halone
  · rw [step_blank hb, inRegisters_pure, registers_close]
    simp [Registers.step, hb]
  · have hne : trim raw ≠ [] := by
      intro hnil
      rw [hnil] at hc
      cases hc
    rw [step_comment hc, inRegisters_pure]
    simp [Registers.step, hne, hc]
  · have hskip : s.registers.skipping = true := hd
    rw [step_dropped hne hc hb hd, inRegisters_pure]
    simp [Registers.step, hne, hc, hb, hskip]
  -- The reader passes over an entry that is not there; here it is there, since the registers are sound.
  · obtain ⟨sections, cursor⟩ := s
    obtain rfl : cursor = .value p i := hcur
    obtain ⟨q, t, hq, ht, hlast⟩ := h.continuing i rfl
    obtain rfl : p = q := Option.some.inj hq
    have hlt : i < t.entries.length := by omega
    have hstep : (registers ⟨sections, .value p i⟩).step raw number =
        (registers ⟨sections, .value p i⟩).extend p i (String.ofList (trim raw)) := by
      simp [Registers.step, hne, hc, hb, registers_value]
    rw [step_continued hne hc hb rfl, hstep, Registers.extend_of_lt ht hlt]
    rfl
  · have hfresh : startsBlank raw = true →
        s.registers.skipping = false ∧ s.registers.continuing = none := by
      intro hb
      obtain ⟨hd, hcont⟩ := halone.fresh hb
      exact ⟨hd, by simp [registers, hcont]⟩
    rw [Registers.step_alone halone.ne_nil halone.no_comment hfresh]
    cases hread : Statement.read (trim raw) with
    | error fault =>
      rw [step_of_fault halone hread, inRegisters_fail]
    | ok st =>
      rw [step_of_read halone hread]
      exact registers_take h number st

/-- A run over registers is the run of the reader itself. -/
theorem registers_run (h : s.registers.Sound) (numbered : List (List Char × Nat)) :
    s.registers.run numbered = inRegisters (s.run numbered) := by
  induction numbered generalizing s with
  | nil => rfl
  | cons line rest ih =>
    have hstep := registers_step h line.1 line.2
    have hsafe := h.safe_step line.1 line.2
    rw [Registers.run, run, List.foldlM_cons, List.foldlM_cons, hstep]
    symm
    apply inRegisters_bind
    intro t ht
    have hok : (inRegisters (s.step line.1 line.2)).result = .ok t.registers :=
      result_inRegisters_eq_ok_iff.mpr ⟨t, ht, rfl⟩
    rw [hstep] at hsafe
    exact (ih (hsafe.sound hok)).symm

end State

/-- A text can be read over registers. -/
theorem registers_read (text : String) : Registers.read text = (read text).mapError .malformed := by
  have hrun : Registers.run {} (numberedLines text) = inRegisters (State.run {} (numberedLines text)) :=
    State.registers_run (s := {}) Registers.sound_empty _
  rw [Registers.read, read, hrun]
  cases h : State.run {} (numberedLines text) with
  | mk events result => cases result <;> rfl

end SwitchInventory.Config
