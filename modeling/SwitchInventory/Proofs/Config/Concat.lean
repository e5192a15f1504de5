import SwitchInventory.Proofs.Config.Merge
import SwitchInventory.Proofs.Config.Renumber

namespace SwitchInventory

def FormatError.shift (k : Nat) (e : FormatError) : FormatError := { e with line := e.line.map (· + k) }

namespace Config

open SwitchInventory.Text

def Entry.shift (k : Nat) (e : Entry) : Entry := { e with line := e.line + k }

/-- The section with all its lines moved down by `k`. -/
def Section.shift (k : Nat) (s : Section) : Section :=
  { s with line := s.line + k, entries := s.entries.map (Entry.shift k) }

def lineCount (text : String) : Nat := (lines text.toList).length

variable {xs ys : List Section} {name key : String} {k : Nat}

theorem Section.shift_push (k : Nat) (s : Section) (e : Entry) :
    (s.push e).shift k = (s.shift k).push (e.shift k) := renumber_push (· + k) s e

theorem Section.shift_continue (k : Nat) (s : Section) (key text : String) :
    (s.continue key text).shift k = (s.shift k).continue key text :=
  renumber_continue (· + k) s key text

private theorem map_name_shift (k : Nat) (ys : List Section) :
    (ys.map (Section.shift k)).map Section.name = ys.map Section.name :=
  map_name_renumber (· + k) ys

private theorem holds_shift : Holds (ys.map (Section.shift k)) name key ↔ Holds ys name key :=
  holds_renumber (f := (· + k))

/-- An entry is dropped where the sections in front have its key. -/
def Place.behind (xs : List Section) : Place → Place
  | value name key => if Holds xs name key then dropped name else value name key
  | place => place

/-- The view of a reader that has `xs` and `k` more lines in front of what it has read. -/
def View.behind (xs : List Section) (k : Nat) (v : View) : View :=
  ⟨merge xs (v.sections.map (Section.shift k)), v.place.behind xs⟩

/-- What a reader has in view always: names that differ, and among them the one its place has. -/
structure View.Inside (v : View) : Prop where
  nodup_names : (v.sections.map Section.name).Nodup
  name_mem : ∀ name, v.place.name? = some name → name ∈ v.sections.map Section.name

theorem State.Valid.inside_view {s : State} (h : s.Valid) : s.view.Inside := by
  refine ⟨h.wellFormed.nodup_names, ?_⟩
  intro name hname
  rcases h.current? with hstart | ⟨p, target, hcur⟩
  · rw [State.view, hstart] at hname
    cases hname
  · rw [view_name?_of_current? hcur] at hname
    obtain ⟨-, ht⟩ := current?_eq_some_iff.mp hcur
    obtain rfl := Option.some.inj hname
    exact List.mem_map_of_mem (List.mem_of_getElem? ht)

namespace Place

private theorem behind_cases (xs : List Section) (place : Place) :
    place.behind xs = place ∨
      ∃ name key, place = .value name key ∧ place.behind xs = .dropped name := by
  cases place with
  | value name key =>
    by_cases h : Holds xs name key
    · exact .inr ⟨name, key, rfl, if_pos h⟩
    · exact .inl (if_neg h)
  | _ => exact .inl rfl

theorem close_behind (xs : List Section) (place : Place) :
    (place.behind xs).close = place.close.behind xs := by
  have hclose : place.close.behind xs = place.close := by cases place <;> rfl
  rcases behind_cases xs place with h | ⟨name, key, rfl, h⟩
  · rw [h, hclose]
  · rw [h]
    rfl

theorem name?_behind (xs : List Section) (place : Place) :
    (place.behind xs).name? = place.name? := by
  rcases behind_cases xs place with h | ⟨name, key, rfl, h⟩
  · rw [h]
  · rw [h]
    rfl

theorem takesIndented_behind (xs : List Section) (place : Place) :
    (place.behind xs).takesIndented = place.takesIndented := by
  rcases behind_cases xs place with h | ⟨name, key, rfl, h⟩
  · rw [h]
  · rw [h]
    rfl

end Place

namespace View

variable {v : View}

theorem behind_empty (xs : List Section) (k : Nat) : View.behind xs k {} = ⟨xs, .start⟩ := by
  rw [behind, List.map_nil, merge_nil]
  rfl

theorem behind_close (xs : List Section) (k : Nat) (v : View) :
    v.close.behind xs k = (v.behind xs k).close := by
  rw [behind, close, close, behind, Place.close_behind]

theorem behind_openSection (xs : List Section) (k : Nat) (v : View) (name : String) (number : Nat) :
    (v.openSection name number).behind xs k = (v.behind xs k).openSection name (number + k) := by
  have hnames := map_name_shift k v.sections
  have hmem : name ∈ (v.behind xs k).sections.map Section.name ↔
      name ∈ xs.map Section.name ∨ name ∈ v.sections.map Section.name := by
    rw [behind, mem_names_merge, hnames]
  by_cases hy : name ∈ v.sections.map Section.name
  · rw [openSection_of_mem hy, openSection_of_mem (hmem.mpr (.inr hy))]
    rfl
  · rw [openSection_of_not_mem hy]
    have hy' : name ∉ (v.sections.map (Section.shift k)).map Section.name := by rwa [hnames]
    by_cases hx : name ∈ xs.map Section.name
    · have hmerge := merge_concat_of_mem (t := { name, line := number + k }) rfl hx hy'
      rw [openSection_of_mem (hmem.mpr (.inl hx)), behind, behind, List.map_append]
      exact congrArg (View.mk · (.body name)) hmerge
    · have hmerge : merge xs (v.sections.map (Section.shift k) ++ [⟨name, number + k, []⟩]) =
          merge xs (v.sections.map (Section.shift k)) ++ [⟨name, number + k, []⟩] :=
        merge_concat_of_not_mem hx
      have hnew : name ∉ (v.behind xs k).sections.map Section.name := by
        rw [hmem]
        exact not_or.mpr ⟨hx, hy⟩
      rw [openSection_of_not_mem hnew, behind, behind, List.map_append]
      exact congrArg (View.mk · (.body name)) hmerge

/-- What is changed under a key of the sections in front is lost; any other change is kept. -/
theorem behind_change (hxs : (xs.map Section.name).Nodup) (hy : name ∈ ys.map Section.name)
    {f g : Section → Section} (hg : ∀ s, (g s).name = s.name)
    (hshift : ∀ s, (f s).shift k = g (s.shift k))
    (hin : ∀ x y : Section, key ∈ x.entries.map Entry.key → x.absorb (g y) = x.absorb y)
    (hout : ∀ x y : Section, key ∉ x.entries.map Entry.key → x.absorb (g y) = g (x.absorb y)) :
    View.behind xs k ⟨Keyed.change Section.name name f ys, .value name key⟩ =
      if Holds xs name key then ⟨merge xs (ys.map (Section.shift k)), .dropped name⟩
      else ⟨Keyed.change Section.name name g (merge xs (ys.map (Section.shift k))),
        .value name key⟩ := by
  have hname : ∀ s : Section, (s.shift k).name = s.name := fun _ => rfl
  have hy' : name ∈ (ys.map (Section.shift k)).map Section.name := by rwa [map_name_shift]
  rw [behind, Keyed.map_change hname hshift, merge_change_key hg hxs hy' hin hout, Place.behind]
  split <;> rfl

theorem Inside.behind_extend (h : v.Inside) (hxs : (xs.map Section.name).Nodup) (k : Nat)
    (text : String) : (v.extend text).behind xs k = (v.behind xs k).extend text := by
  obtain ⟨sections, place⟩ := v
  cases place with
  | value name key =>
    have hchange := behind_change (g := Section.continue key text) hxs (h.name_mem name rfl)
      (fun _ => rfl)
      (fun s => Section.shift_continue k s key text)
      (fun x y hx => Section.absorb_continue_of_mem hx y text)
      (fun x y hx => Section.absorb_continue_of_not_mem hx y text)
    rw [extend, hchange, behind, Place.behind]
    split <;> rfl
  | _ => rfl

theorem Inside.behind_addEntry (h : v.Inside) (hxs : (xs.map Section.name).Nodup) (k : Nat)
    (key value : String) (number : Nat) :
    (v.behind xs k).addEntry key value (number + k) =
      ((v.addEntry key value number).map (behind xs k)).mapError (.shift k) := by
  have hname : (v.behind xs k).place.name? = v.place.name? := Place.name?_behind xs v.place
  cases hplace : v.place.name? with
  | none =>
    rw [hplace] at hname
    rw [addEntry_outside hplace, addEntry_outside hname]
    rfl
  | some name =>
    rw [hplace] at hname
    have hnodup : ((v.sections.map (Section.shift k)).map Section.name).Nodup := by
      rw [map_name_shift]
      exact h.nodup_names
    have hholds : Holds (v.behind xs k).sections name key ↔
        Holds xs name key ∨ Holds v.sections name key := by
      rw [behind, holds_merge hnodup, holds_shift]
    -- Alone, the entry is dropped only for a key read before it; behind `xs`, for a key in `xs` too.
    by_cases hkey : Holds v.sections name key
    · rw [addEntry_of_holds hplace hkey, addEntry_of_holds hname (hholds.mpr (.inr hkey))]
      rfl
    · have hchange := behind_change (g := (·.push { key, value, line := number + k })) hxs
        (h.name_mem name hplace) (fun _ => rfl)
        (fun s => Section.shift_push k s { key, value, line := number })
        (fun x y hx => Section.absorb_push_of_mem hx y)
        (fun x y hx => Section.absorb_push_of_not_mem hx y)
      rw [addEntry_of_not_holds hplace hkey, Except.map, Except.mapError, hchange]
      by_cases hx : Holds xs name key
      · rw [addEntry_of_holds hname (hholds.mpr (.inl hx)), if_pos hx]
        rfl
      · have hno : ¬ Holds (v.behind xs k).sections name key := by
          rw [hholds]
          exact not_or.mpr ⟨hx, hkey⟩
        rw [addEntry_of_not_holds hname hno, if_neg hx]
        rfl

/-- A line does the same behind other sections as it does alone. -/
theorem Inside.behind_step (h : v.Inside) (hxs : (xs.map Section.name).Nodup) (k : Nat)
    (raw : List Char) (number : Nat) :
    (v.behind xs k).step raw (number + k) =
      ((v.step raw number).map (behind xs k)).mapError (.shift k) := by
  have htakes : (v.behind xs k).place.takesIndented = v.place.takesIndented :=
    Place.takesIndented_behind xs v.place
  -- The cases are those of a line: blank, a comment, indented, or a statement of its own.
  unfold step
  rw [htakes]
  split
  · rw [← behind_close]
    rfl
  split
  · rfl
  split
  · rw [← h.behind_extend hxs]
    rfl
  cases Statement.read (trim raw) with
  | error fault => rfl
  | ok st =>
    cases st with
    | header name => exact congrArg Except.ok (behind_openSection xs k v name number).symm
    | entry key value => exact h.behind_addEntry hxs k key value number

/-- A line that starts with a header's bracket is read alike at every place. -/
theorem step_of_bracket {raw : List Char} (h : raw.head? = some '[') (sections : List Section)
    (place place' : Place) (number : Nat) :
    View.step ⟨sections, place⟩ raw number = View.step ⟨sections, place'⟩ raw number := by
  have hblank : startsBlank raw = false := by
    cases raw with
    | nil => cases h
    | cons c s =>
      obtain rfl := Option.some.inj h
      rfl
  have hhead : (trim raw).head? = some '[' := by rw [head?_trim hblank, h]
  have hne : trim raw ≠ [] := by
    intro hnil
    rw [hnil] at hhead
    cases hhead
  have hcomment : isComment (trim raw) = false := isComment_congr (b := ['[']) hhead
  unfold step
  rw [if_neg hne, if_neg hne, hcomment, hblank, Statement.read, if_pos hhead]
  cases hread : Statement.readHeader (trim raw) with
  | error fault => rfl
  | ok st =>
    obtain ⟨inside, -, -, rfl⟩ := Statement.readHeader_eq_ok_iff.mp hread
    rfl

/-- A header makes no difference between two places in the same sections. -/
theorem run_of_bracket {line : List Char × Nat} (h : line.1.head? = some '[')
    (more : List (List Char × Nat)) (sections : List Section) (place place' : Place) :
    View.run ⟨sections, place⟩ (line :: more) = View.run ⟨sections, place'⟩ (line :: more) := by
  rw [run, run, List.foldlM_cons, List.foldlM_cons, step_of_bracket h sections place place']

end View

/-- Sections and lines in front change nothing but the line numbers and what the sections are merged
into. -/
theorem State.Valid.behind_run {s : State} (h : s.Valid) (hxs : (xs.map Section.name).Nodup)
    (k : Nat) {numbered : List (List Char × Nat)} (hn : ∀ line ∈ numbered, '\n' ∉ line.1) :
    (s.view.behind xs k).run (numbered.map (Prod.map id (· + k))) =
      ((s.view.run numbered).map (View.behind xs k)).mapError (.shift k) := by
  induction numbered generalizing s with
  | nil => rfl
  | cons line numbered ih =>
    have hstep := h.view_step line.1 line.2
    have hbehind := h.inside_view.behind_step hxs k line.1 line.2
    rw [List.map_cons, View.run, View.run, List.foldlM_cons, List.foldlM_cons]
    change View.step _ line.1 (line.2 + k) >>= _ = _
    rw [hbehind, ← hstep]
    cases hs : (s.step line.1 line.2).result with
    | error e => rfl
    | ok t =>
      have ht : t.Valid := h.step (hn line List.mem_cons_self) hs
      exact ih ht fun l hl => hn l (List.mem_cons_of_mem line hl)

/-- A text that ends in a line feed has its lines to itself. -/
theorem lines_append {front back : List Char} (h : front = [] ∨ ∃ body, front = body ++ ['\n']) :
    lines (front ++ back) = lines front ++ lines back := by
  rcases h with rfl | ⟨body, rfl⟩
  · rfl
  · rw [List.append_assoc]
    exact lines_append_cons body back

theorem numberedLines_append {front back : String} (h : front = "" ∨ ∃ body, front = body ++ "\n") :
    numberedLines (front ++ back) =
      numberedLines front ++ (numberedLines back).map (Prod.map id (· + lineCount front)) := by
  have hlists : front.toList = [] ∨ ∃ body, front.toList = body ++ ['\n'] := by
    rcases h with rfl | ⟨body, rfl⟩
    · exact .inl rfl
    · exact .inr ⟨body.toList, by simp⟩
  rw [numberedLines, String.toList_append, lines_append hlists, List.zipIdx_append, numberedLines,
    numberedLines, List.map_snd_add_zipIdx_eq_zipIdx, Nat.add_comm]
  rfl

private theorem numberedLines_of_bracket {back : String} (h : ∃ rest, back = "[" ++ rest) :
    ∃ line more, numberedLines back = line :: more ∧ line.1.head? = some '[' := by
  obtain ⟨rest, rfl⟩ := h
  have hlines : lines ("[" ++ rest).toList = consLine '[' (lines rest.toList) := by
    rw [String.toList_append]
    exact lines_cons (by decide) fun h => absurd h (by decide)
  rw [numberedLines, hlines]
  cases lines rest.toList with
  | nil => exact ⟨_, _, rfl, rfl⟩
  | cons line more => exact ⟨_, _, rfl, rfl⟩

/-- A text with a header in front says the same after other lines as it does alone. -/
theorem View.run_numberedLines {v : View} (hv : (v.sections.map Section.name).Nodup) (k : Nat)
    {back : String} (hback : ∃ rest, back = "[" ++ rest) :
    v.run ((numberedLines back).map (Prod.map id (· + k))) =
      ((View.run {} (numberedLines back)).map (View.behind v.sections k)).mapError (.shift k) := by
  obtain ⟨sections, place⟩ := v
  obtain ⟨line, more, hlines, hline⟩ := numberedLines_of_bracket hback
  have hreset : View.run ⟨sections, place⟩ ((numberedLines back).map (Prod.map id (· + k))) =
      View.run ⟨sections, .start⟩ ((numberedLines back).map (Prod.map id (· + k))) := by
    rw [hlines, List.map_cons]
    have hshifted : (Prod.map id (· + k) line).1.head? = some '[' := hline
    exact View.run_of_bracket hshifted _ sections place .start
  have hn : ∀ line ∈ numberedLines back, '\n' ∉ line.1 := fun _ =>
    newline_not_mem_of_mem_numberedLines
  rw [hreset, ← View.behind_empty sections k]
  exact State.valid_empty.behind_run hv k hn

/-- The sections of a text that is followed by a text with a header in front. -/
theorem read_append_of_header {front back : String}
    (hfront : front = "" ∨ ∃ body, front = body ++ "\n") (hback : ∃ rest, back = "[" ++ rest) :
    (read (front ++ back)).result = do
      let xs ← (read front).result
      let ys ← (read back).result.mapError (.shift (lineCount front))
      return merge xs (ys.map (.shift (lineCount front))) := by
  have hsplit : (read (front ++ back)).result =
      (View.run {} (numberedLines front) >>= fun v =>
        v.run ((numberedLines back).map (Prod.map id (· + lineCount front)))).map View.sections := by
    rw [result_read, numberedLines_append hfront, View.run, List.foldlM_append]
    rfl
  cases hv : View.run {} (numberedLines front) with
  | error e =>
    have hread : (read front).result = .error e := by rw [result_read, hv]; rfl
    rw [hsplit, hv, hread]
    rfl
  | ok v =>
    have hread : (read front).result = .ok v.sections := by rw [result_read, hv]; rfl
    have hnodup : (v.sections.map Section.name).Nodup := (wellFormed_of_read hread).nodup_names
    have hrun := View.run_numberedLines hnodup (lineCount front) hback
    rw [hsplit, hv, hread, result_read back]
    change (v.run _).map View.sections = _
    rw [hrun]
    cases View.run {} (numberedLines back) <;> rfl

/-- The second text takes up the section of the first, which keeps its line and its value of `x`. -/
theorem read_append_sharedSection :
    (read ("[a]\nx = 1\n" ++ "[a]\nx = 2\n more\ny = 3\n[b]\n")).result =
      .ok [⟨"a", 1, [⟨"x", "1", 2⟩, ⟨"y", "3", 6⟩]⟩, ⟨"b", 7, []⟩] := by
  have hfront : "[a]\nx = 1\n" = "" ∨ ∃ body, "[a]\nx = 1\n" = body ++ "\n" :=
    .inr ⟨"[a]\nx = 1", rfl⟩
  have hback : ∃ rest, "[a]\nx = 2\n more\ny = 3\n[b]\n" = "[" ++ rest :=
    ⟨"a]\nx = 2\n more\ny = 3\n[b]\n", rfl⟩
  rw [read_append_of_header hfront hback]
  rfl

end Config

end SwitchInventory
