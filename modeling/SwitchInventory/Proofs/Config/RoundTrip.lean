import SwitchInventory.Proofs.Config.Valid
import SwitchInventory.Proofs.Config.WrittenLines
import SwitchInventory.Proofs.Keyed

namespace SwitchInventory.Config

open SwitchInventory.Lists SwitchInventory.Text

namespace State

private theorem result_run_cons (s : State) (line : List Char) (lines : List (List Char))
    (n : Nat) :
    (s.run ((line :: lines).zipIdx n)).result =
      (s.step line n).result >>= fun t => (t.run (lines.zipIdx (n + 1))).result := by
  rw [run, List.zipIdx_cons, List.foldlM_cons, Logged.result_bind]
  rfl

private theorem result_run_append (s : State) (xs ys : List (List Char)) (n : Nat) :
    (s.run ((xs ++ ys).zipIdx n)).result =
      (s.run (xs.zipIdx n)).result >>= fun t => (t.run (ys.zipIdx (n + xs.length))).result := by
  rw [run, List.zipIdx_append, List.foldlM_append, Logged.result_bind]
  rfl

theorem step_firstLine {s : State} {sections : List Section} {current : Section}
    (hs : s.sections = sections ++ [current]) (hpos : s.cursor.position? = some sections.length)
    {key : String} (hk : SafeKey key) {line : List Char} (hline : Trimmed line)
    (hnew : current.find? key = none) (n : Nat) :
    s.step (firstLine key line) n =
      pure ⟨sections ++ [current.push { key, value := String.ofList line, line := n }],
        .value sections.length current.entries.length⟩ := by
  have htrim : trim (firstLine key line) = firstLine key line := trimmed_firstLine hk hline
  have hhead : (firstLine key line).head? = key.toList.head? := by
    obtain ⟨c, rest, hkey⟩ := List.exists_cons_of_ne_nil hk.ne_nil
    rw [firstLine, hkey]
    rfl
  have halone : s.StandsAlone (firstLine key line) := by
    refine ⟨?_, ?_, ?_⟩
    · rw [htrim]
      intro hnil
      rw [hnil] at hhead
      exact hk.ne_nil (List.head?_eq_none_iff.mp hhead.symm)
    · rw [htrim, isComment_congr hhead]
      exact hk.no_comment
    · intro hb
      have hstart : startsBlank (firstLine key line) = false := by
        rw [firstLine, startsBlank_append hk.ne_nil]
        exact (trimmed_iff.mp hk.trimmed).1
      rw [hstart] at hb
      cases hb
  have hcur : s.current? = some (sections.length, current) := by
    rw [current?_eq_some_iff, hs]
    exact ⟨hpos, by simp⟩
  have hread : Statement.read (trim (firstLine key line)) = .ok (.entry key (String.ofList line)) := by
    rw [htrim]
    exact Statement.read_firstLine hk hline
  rw [step_of_read halone hread]
  change s.addEntry key (String.ofList line) n = _
  rw [addEntry_new hcur hnew, hs, modify_concat]

theorem step_indented {sections : List Section} {current : Section} {e : Entry} {line : List Char}
    (hline : Continues line) (n : Nat) :
    State.step ⟨sections ++ [current.push e], .value sections.length current.entries.length⟩
        (indented line) n =
      pure ⟨sections ++ [current.push (e.extend (String.ofList line))],
        .value sections.length current.entries.length⟩ := by
  have hblank : ∀ c ∈ "    ".toList, isBlank c = true := by simp [isBlank_space]
  have htrim : trim (indented line) = line := (trim_blanks_append hblank line).trans hline.2.1
  rw [step_continued (by rw [htrim]; exact hline.1) (by rw [htrim]; exact hline.2.2) rfl rfl, htrim]
  simp only [State.extend, modify_concat]
  rw [Section.extend, Section.push, modify_concat]
  rfl

theorem run_indented {sections : List Section} {current : Section} (more : List (List Char))
    (hmore : ∀ line ∈ more, Continues line) (e : Entry) (n : Nat) :
    (State.run ⟨sections ++ [current.push e], .value sections.length current.entries.length⟩
        ((more.map indented).zipIdx n)).result =
      .ok ⟨sections ++
          [current.push (more.foldl (fun e line => e.extend (String.ofList line)) e)],
        .value sections.length current.entries.length⟩ := by
  induction more generalizing e n with
  | nil => rfl
  | cons line more ih =>
    rw [List.map_cons, result_run_cons, step_indented (hmore line List.mem_cons_self)]
    exact ih (fun l hl => hmore l (List.mem_cons_of_mem line hl)) _ _

end State

private theorem Entry.toList_value_foldl_extend (more : List (List Char)) (e : Entry) :
    (more.foldl (fun e line => e.extend (String.ofList line)) e).value.toList =
      ['\n'].intercalate (e.value.toList :: more) := by
  induction more generalizing e with
  | nil => simp
  | cons line more ih =>
    rw [List.foldl_cons, ih, List.intercalate_cons_cons]
    cases more <;> simp [Entry.extend, List.intercalate_cons_cons]

/-- Lines that are added one by one are joined by line feeds. -/
theorem Entry.foldl_extend_eq (more : List (List Char)) (e : Entry) :
    more.foldl (fun e line => e.extend (String.ofList line)) e =
      { e with value := String.ofList (['\n'].intercalate (e.value.toList :: more)) } := by
  have hvalue := Entry.toList_value_foldl_extend more e
  have hkeep : (more.foldl (fun e line => e.extend (String.ofList line)) e).key = e.key ∧
      (more.foldl (fun e line => e.extend (String.ofList line)) e).line = e.line := by
    clear hvalue
    induction more generalizing e with
    | nil => exact ⟨rfl, rfl⟩
    | cons line more ih => exact ih (e.extend (String.ofList line))
  rw [← hvalue, String.ofList_toList, ← hkeep.1, ← hkeep.2]

namespace State

/-- An entry is read back onto the end of its section, with the number of its first line. -/
theorem run_entry {s : State} {sections : List Section} {current : Section}
    (hs : s.sections = sections ++ [current]) (hpos : s.cursor.position? = some sections.length)
    {e : Entry} (hk : SafeKey e.key) (hv : SafeValue e.value)
    (hnew : current.find? e.key = none) (n : Nat) :
    (s.run (e.toLines.zipIdx n)).result =
      .ok ⟨sections ++ [current.push { e with line := n }],
        .value sections.length current.entries.length⟩ := by
  have hvalue : ['\n'].intercalate (e.value.toList.splitOn '\n') = e.value.toList :=
    List.intercalate_splitOn '\n'
  unfold SafeValue at hv
  unfold Entry.toLines
  cases hsplit : e.value.toList.splitOn '\n' with
  | nil => exact absurd hsplit (List.splitOn_ne_nil _ _)
  | cons first more =>
    rw [hsplit] at hv hvalue
    rw [result_run_cons, step_firstLine hs hpos hk hv.1 hnew]
    change (State.run ⟨sections ++ [current.push _], _⟩ _).result = _
    rw [run_indented more hv.2, Entry.foldl_extend_eq]
    simp only [String.toList_ofList, hvalue, String.ofList_toList]

theorem run_entries {es : List Entry} (hks : ∀ e ∈ es, SafeKey e.key)
    (hvs : ∀ e ∈ es, SafeValue e.value) {s : State} {sections : List Section} {t : Section}
    (hs : s.sections = sections ++ [t]) (hpos : s.cursor.position? = some sections.length)
    (hnodup : ((t.entries ++ es).map Entry.key).Nodup) (n : Nat) :
    ∃ u cursor, (s.run ((es.flatMap Entry.toLines).zipIdx n)).result = .ok ⟨sections ++ [u], cursor⟩ ∧
      u.name = t.name ∧
      u.entries.map Entry.unnumbered = (t.entries ++ es).map Entry.unnumbered := by
  induction es generalizing s t n with
  | nil =>
    obtain ⟨sections', cursor⟩ := s
    cases hs
    exact ⟨t, cursor, rfl, rfl, by rw [List.append_nil]⟩
  | cons e es ih =>
    have hnew : t.find? e.key = none := by
      rw [Section.find?_eq_none_iff]
      exact Keyed.not_mem_of_nodup_append hnodup
    have hrun := run_entry hs hpos (hks e List.mem_cons_self) (hvs e List.mem_cons_self) hnew n
    obtain ⟨u, cursor, hu, hname, hentries⟩ := ih
      (fun d hd => hks d (List.mem_cons_of_mem e hd)) (fun d hd => hvs d (List.mem_cons_of_mem e hd))
      (s := ⟨sections ++ [t.push { e with line := n }], .value sections.length t.entries.length⟩)
      (t := t.push { e with line := n }) rfl rfl
      (by simpa [Section.push] using hnodup) (n + e.toLines.length)
    refine ⟨u, cursor, ?_, hname, ?_⟩
    · rw [List.flatMap_cons, result_run_append, hrun]
      exact hu
    · rw [hentries]
      simp [Section.push, Entry.unnumbered]

theorem step_header {s : State} {name : String} (h : SafeName name)
    (hnew : name ∉ s.sections.map Section.name) (n : Nat) :
    s.step ('[' :: name.toList ++ [']']) n =
      pure ⟨s.sections ++ [{ name := name, line := n }], .body s.sections.length⟩ := by
  have htrim : trim ('[' :: name.toList ++ [']']) = '[' :: name.toList ++ [']'] :=
    trimmed_append (List.cons_ne_nil _ _) (List.cons_ne_nil _ _) rfl rfl
  have halone : s.StandsAlone ('[' :: name.toList ++ [']']) := by
    refine ⟨by rw [htrim]; simp, by rw [htrim]; rfl, fun hb => ?_⟩
    cases hb
  rw [step_of_read halone (by rw [htrim]; exact Statement.read_header h)]
  change pure (s.openSection name n) = _
  rw [openSection_of_not_mem hnew]

theorem run_section {s : State} {t : Section} (ht : t.WellFormed)
    (hnew : t.name ∉ s.sections.map Section.name) (n : Nat) :
    ∃ u cursor, (s.run (t.toLines.zipIdx n)).result = .ok ⟨s.sections ++ [u], cursor⟩ ∧
      u.unnumbered = t.unnumbered := by
  obtain ⟨u, cursor, hu, hname, hentries⟩ := run_entries ht.keys ht.values
    (s := ⟨s.sections ++ [{ name := t.name, line := n }], .body s.sections.length⟩)
    (t := { name := t.name, line := n }) rfl rfl
    (by simpa using ht.nodup_keys) (n + 1)
  refine ⟨u, cursor, ?_, ?_⟩
  · rw [Section.toLines, result_run_cons, step_header ht.name hnew]
    exact hu
  · rw [Section.unnumbered, Section.unnumbered, hname, hentries]
    rfl

/-- The lines that are written for well-formed sections add these sections, one after the other. -/
theorem run_sections {ts : List Section} (hts : ∀ t ∈ ts, t.WellFormed) {s : State}
    (hnodup : ((s.sections ++ ts).map Section.name).Nodup) (n : Nat) :
    ∃ us cursor, (s.run (([[]].intercalate (ts.map Section.toLines)).zipIdx n)).result =
        .ok ⟨s.sections ++ us, cursor⟩ ∧
      us.map Section.unnumbered = ts.map Section.unnumbered := by
  induction ts generalizing s n with
  | nil =>
    refine ⟨[], s.cursor, ?_, rfl⟩
    rw [List.append_nil]
    rfl
  | cons t ts ih =>
    have hnew : t.name ∉ s.sections.map Section.name := Keyed.not_mem_of_nodup_append hnodup
    obtain ⟨u, cursor, hu, hut⟩ := run_section (hts t List.mem_cons_self) hnew n
    have hname : u.name = t.name := by simpa using congrArg Section.name hut
    cases ts with
    | nil =>
      refine ⟨[u], cursor, ?_, by rw [List.map_singleton, List.map_singleton, hut]⟩
      rw [List.map_singleton, List.intercalate_singleton]
      exact hu
    | cons t' ts =>
      obtain ⟨us, cursor', hus, husts⟩ := ih (fun v hv => hts v (List.mem_cons_of_mem t hv))
        (s := ⟨s.sections ++ [u], cursor.close⟩) (by simpa [hname] using hnodup)
        (n + t.toLines.length + 1)
      refine ⟨u :: us, cursor', ?_, by rw [List.map_cons, hut, husts]; rfl⟩
      rw [List.map_cons, List.map_cons, List.intercalate_cons_cons, List.append_assoc,
        result_run_append, hu]
      change (State.run ⟨s.sections ++ [u], cursor⟩ _).result = _
      -- The blank line between two sections closes whatever the first one left open.
      rw [List.singleton_append, result_run_cons, step_blank rfl]
      change (State.run ⟨s.sections ++ [u], cursor.close⟩ _).result = _
      rw [List.map_cons] at hus
      rw [hus, List.append_assoc, List.singleton_append]

end State

/-- Well-formed sections are read back from their text. -/
theorem read_write {sections : List Section} (h : WellFormed sections) :
    ∃ again, (read (write sections)).result = .ok again ∧
      again.map Section.unnumbered = sections.map Section.unnumbered := by
  obtain ⟨again, cursor, hrun, hagain⟩ := State.run_sections (s := {}) h.wellFormed
    (by simpa using h.nodup_names) 1
  refine ⟨again, ?_, hagain⟩
  rw [read_eq_ok_iff, numberedLines, lines_write h]
  exact ⟨_, hrun, by simp⟩

private theorem write_eq_of_unnumbered_eq {again sections : List Section}
    (h : again.map Section.unnumbered = sections.map Section.unnumbered) :
    write again = write sections := by
  rw [← write_map_unnumbered again, h, write_map_unnumbered]

/-- Exactly the well-formed sections are read back from their text, line numbers aside. The sections
of every text are well-formed, so they are read back, and what they are read back to has their
text. -/
theorem read_write_iff_wellFormed :
    (∀ sections : List Section,
      (∃ again, (read (write sections)).result = .ok again ∧
        again.map Section.unnumbered = sections.map Section.unnumbered) ↔ WellFormed sections) ∧
    ∀ (text : String) (sections : List Section), (read text).result = .ok sections →
      WellFormed sections ∧
        ∃ again, (read (write sections)).result = .ok again ∧
          again.map Section.unnumbered = sections.map Section.unnumbered ∧
          write again = write sections := by
  constructor
  · intro sections
    constructor
    · intro hh
      obtain ⟨again, hread, hagain⟩ := hh
      have hwf : WellFormed again := wellFormed_of_read hread
      rwa [← wellFormed_map_unnumbered, hagain, wellFormed_map_unnumbered] at hwf
    · exact read_write
  · intro text sections hread
    have hwf := wellFormed_of_read hread
    obtain ⟨again, hagain, heq⟩ := read_write hwf
    exact ⟨hwf, again, hagain, heq, write_eq_of_unnumbered_eq heq⟩

/-- A value of several lines, the first of them empty, and a key given twice. -/
theorem read_write_continued_and_repeated :
    (read "[a]\nk =\n  x = [y\n# c\n\tz\nk = 2\n").result = .ok [⟨"a", 1, [⟨"k", "\nx = [y\nz", 2⟩]⟩] ∧
      ∃ again, (read (write [⟨"a", 1, [⟨"k", "\nx = [y\nz", 2⟩]⟩])).result = .ok again ∧
        again.map Section.unnumbered = [⟨"a", 0, [⟨"k", "\nx = [y\nz", 0⟩]⟩] ∧
        write again = write [⟨"a", 1, [⟨"k", "\nx = [y\nz", 2⟩]⟩] := by
  have hread : (read "[a]\nk =\n  x = [y\n# c\n\tz\nk = 2\n").result =
      .ok [⟨"a", 1, [⟨"k", "\nx = [y\nz", 2⟩]⟩] := by rfl
  exact ⟨hread, (read_write_iff_wellFormed.2 _ _ hread).2⟩

end SwitchInventory.Config
