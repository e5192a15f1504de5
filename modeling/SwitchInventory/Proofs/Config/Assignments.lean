import SwitchInventory.Config.Reader
import SwitchInventory.Proofs.Keyed

namespace SwitchInventory.Config

open SwitchInventory.Text

/-- A line that assigns a value to a key of a section. -/
structure Assignment where
  target : String
  key : String
  line : Nat
  deriving DecidableEq, Repr

namespace Assignment

/-- What is assigned to. -/
def slot (a : Assignment) : String × String := (a.target, a.key)

/-- The report on an assignment that comes after the one on line `first`. -/
def warning (a : Assignment) (first : Nat) : Event where
  level := .warn
  topic := .config
  message := "[" ++ a.target ++ "] " ++ a.key ++ " on line " ++ toString a.line ++
    " is already set on line " ++ toString first ++ ", keeping the first value"

end Assignment

/-- What a scan has to remember between two lines: the section they are in, and whether an indented
line belongs to an entry before it. -/
structure Mark where
  name? : Option String := none
  taken : Bool := false

/-- Scans one line, for the assignment on it. -/
def Mark.next (m : Mark) (raw : List Char) (number : Nat) : Mark × Option Assignment :=
  if trim raw = [] then ({ m with taken := false }, none)
  else if isComment (trim raw) then (m, none)
  else if startsBlank raw && m.taken then (m, none)
  else
    match Statement.read (trim raw), m.name? with
    | .ok (.header name), _ => ({ name? := some name }, none)
    | .ok (.entry key _), some name => ({ m with taken := true }, some ⟨name, key, number⟩)
    | _, _ => (m, none)

def assignmentsFrom (m : Mark) : List (List Char × Nat) → List Assignment
  | [] => []
  | line :: rest =>
    let (next, a?) := m.next line.1 line.2
    a?.toList ++ assignmentsFrom next rest

/-- The assignments of a text, in the order of their lines. -/
def assignments (text : String) : List Assignment := assignmentsFrom {} (numberedLines text)

/-- The assignments to what is assigned to before, each with the line where that is done first;
`seen` are the assignments further up. -/
def repeatsAfter (seen : List Assignment) : List Assignment → List (Assignment × Nat)
  | [] => []
  | a :: rest =>
    ((Keyed.find? Assignment.slot a.slot seen).map fun first => (a, first.line)).toList ++
      repeatsAfter (seen ++ [a]) rest

def repeats (as : List Assignment) : List (Assignment × Nat) := repeatsAfter [] as

theorem repeatsAfter_append (seen as bs : List Assignment) :
    repeatsAfter seen (as ++ bs) = repeatsAfter seen as ++ repeatsAfter (seen ++ as) bs := by
  induction as generalizing seen with
  | nil => simp [repeatsAfter]
  | cons a as ih => simp [repeatsAfter, ih]

/-- The line given with a repeat is that of the first assignment. -/
theorem find?_of_mem_repeatsAfter {seen as : List Assignment} {r : Assignment × Nat}
    (h : r ∈ repeatsAfter seen as) :
    (Keyed.find? Assignment.slot r.1.slot (seen ++ as)).map Assignment.line = some r.2 := by
  induction as generalizing seen with
  | nil => cases h
  | cons a as ih =>
    rcases List.mem_append.mp h with h | h
    · obtain ⟨first, hfirst, rfl⟩ := Option.map_eq_some_iff.mp (Option.mem_toList.mp h)
      rw [Keyed.find?, List.find?_append, ← Keyed.find?, hfirst]
      rfl
    · have hrest := ih h
      rwa [List.append_assoc] at hrest

/-- There are no repeats exactly when nothing is assigned to twice. -/
theorem repeatsAfter_eq_nil_iff {seen as : List Assignment} :
    repeatsAfter seen as = [] ↔
      (as.map Assignment.slot).Nodup ∧ ∀ a ∈ as, a.slot ∉ seen.map Assignment.slot := by
  induction as generalizing seen with
  | nil => simp [repeatsAfter]
  | cons a as ih =>
    have hfirst : ((Keyed.find? Assignment.slot a.slot seen).map
        fun first => (a, first.line)).toList = [] ↔ a.slot ∉ seen.map Assignment.slot := by
      rw [Option.toList_eq_nil_iff, Option.map_eq_none_iff, Keyed.find?_eq_none_iff]
    rw [repeatsAfter, List.append_eq_nil_iff, hfirst, ih, List.map_cons, List.nodup_cons,
      List.forall_mem_cons]
    simp only [List.map_append, List.map_singleton, List.mem_append, List.mem_singleton, not_or]
    constructor
    · intro ⟨ha, hnodup, hrest⟩
      refine ⟨⟨?_, hnodup⟩, ha, fun b hb => (hrest b hb).1⟩
      intro hmem
      obtain ⟨b, hb, hslot⟩ := List.mem_map.mp hmem
      exact (hrest b hb).2 hslot
    · intro ⟨⟨hnew, hnodup⟩, ha, hrest⟩
      exact ⟨ha, hnodup, fun b hb => ⟨hrest b hb, fun hslot => hnew (hslot ▸ List.mem_map_of_mem hb)⟩⟩

theorem map_fst_repeatsAfter_sublist (seen as : List Assignment) :
    ((repeatsAfter seen as).map Prod.fst).Sublist as := by
  induction as generalizing seen with
  | nil => exact .slnil
  | cons a as ih =>
    rw [repeatsAfter]
    cases Keyed.find? Assignment.slot a.slot seen with
    | none => exact (ih (seen ++ [a])).cons a
    | some first => exact (ih (seen ++ [a])).cons_cons a

namespace Mark

variable {m : Mark} {raw : List Char} {number : Nat}

/-- A line that says something on its own. -/
structure Fresh (m : Mark) (raw : List Char) : Prop where
  ne_nil : trim raw ≠ []
  no_comment : isComment (trim raw) = false
  not_taken : (startsBlank raw && m.taken) = false

theorem next_blank (h : trim raw = []) : m.next raw number = ({ m with taken := false }, none) := by
  rw [next, if_pos h]

theorem next_comment (h : isComment (trim raw) = true) : m.next raw number = (m, none) := by
  have hne : trim raw ≠ [] := by
    intro hnil
    rw [hnil] at h
    cases h
  rw [next, if_neg hne, if_pos h]

theorem next_indented (hne : trim raw ≠ []) (hc : isComment (trim raw) = false)
    (h : (startsBlank raw && m.taken) = true) : m.next raw number = (m, none) := by
  rw [next, if_neg hne, if_neg (by simp [hc]), if_pos h]

theorem Fresh.next_header (h : m.Fresh raw) {name : String}
    (hread : Statement.read (trim raw) = .ok (.header name)) :
    m.next raw number = ({ name? := some name }, none) := by
  rw [next, if_neg h.ne_nil, if_neg (by simp [h.no_comment]), if_neg (by simp [h.not_taken]), hread]

theorem Fresh.next_entry (h : m.Fresh raw) {name key value : String}
    (hread : Statement.read (trim raw) = .ok (.entry key value)) (hname : m.name? = some name) :
    m.next raw number = ({ m with taken := true }, some ⟨name, key, number⟩) := by
  rw [next, if_neg h.ne_nil, if_neg (by simp [h.no_comment]), if_neg (by simp [h.not_taken]), hread,
    hname]

theorem fresh_of_next_eq_some {a : Assignment} (h : (m.next raw number).2 = some a) :
    m.Fresh raw ∧ m.name? = some a.target ∧ a.line = number ∧
      ∃ value, Statement.read (trim raw) = .ok (.entry a.key value) := by
  unfold next at h
  split at h
  · cases h
  split at h
  · cases h
  split at h
  · cases h
  split at h
  · cases h
  · rename_i hne hc ht _ _ key value name hread hname
    obtain rfl := Option.some.inj h
    exact ⟨⟨hne, by simpa using hc, by simpa using ht⟩, hname, rfl, value, hread⟩
  · cases h

end Mark

/-- Assignments come in the order of their lines. -/
theorem map_line_assignmentsFrom_sublist (m : Mark) (numbered : List (List Char × Nat)) :
    ((assignmentsFrom m numbered).map Assignment.line).Sublist (numbered.map Prod.snd) := by
  induction numbered generalizing m with
  | nil => exact .slnil
  | cons line rest ih =>
    rw [assignmentsFrom, List.map_append, List.map_cons]
    cases hnext : (m.next line.1 line.2).2 with
    | none => exact (ih _).cons line.2
    | some a =>
      obtain ⟨-, -, hline, -⟩ := Mark.fresh_of_next_eq_some hnext
      rw [← hline]
      exact (ih _).cons_cons a.line

end SwitchInventory.Config
