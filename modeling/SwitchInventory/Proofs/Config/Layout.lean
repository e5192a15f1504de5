import SwitchInventory.Proofs.Config.Concat
import SwitchInventory.Proofs.Text.Rows

namespace SwitchInventory

namespace Config

open SwitchInventory.Text

theorem State.step_trimEnd (s : State) (raw : List Char) (number : Nat) :
    s.step (trimEnd raw) number = s.step raw number := by
  by_cases hblank : trim raw = []
  · rw [step_blank hblank, step_blank (by rwa [trim_trimEnd])]
  · rw [step, step, trim_trimEnd, startsBlank_trimEnd hblank]

/-- The sections that lines are read to, when they are numbered from 1. -/
def readLines (ls : List (List Char)) : Logged FormatError (List Section) := do
  let final ← State.run {} (ls.zipIdx 1)
  return final.sections

/-- Blanks at the ends of lines are not looked at. -/
theorem readLines_map_trimEnd (ls : List (List Char)) : readLines
    (ls.map trimEnd) = readLines ls := by
  have hstep : (fun (s : State) (line : List Char × Nat) =>
      s.step (Prod.map trimEnd id line).1 (Prod.map trimEnd id line).2) =
        fun s line => s.step line.1 line.2 := by
    funext s line
    exact s.step_trimEnd line.1 line.2
  have hrun (numbered : List (List Char × Nat)) :
      State.run {} (numbered.map (Prod.map trimEnd id)) = State.run {} numbered := by
    rw [State.run, List.foldlM_map, hstep, State.run]
  rw [readLines, List.zipIdx_map, hrun, readLines]

/-- A blank line at the end has no part in the sections. -/
theorem readLines_concat_nil (ls : List (List Char)) : readLines (ls ++ [[]]) = readLines ls := by
  -- It ends a value, but a cursor has no part in the result.
  have hlast (s : State) (number : Nat) :
      (s.run [([], number)] >>= fun final => pure final.sections) =
        (pure s.sections : Logged FormatError (List Section)) := by
    rw [State.run, List.foldlM_cons, State.step_blank trim_nil, pure_bind, List.foldlM_nil, pure_bind]
  rw [readLines, List.zipIdx_append, State.run, List.foldlM_append, bind_assoc]
  exact congrArg (State.run {} (ls.zipIdx 1) >>= ·) (funext fun s => hlast s _)

def trimmedLines (text : String) : List (List Char) := (lines text.toList).map trimEnd

theorem readLines_trimmedLines (text : String) : readLines (trimmedLines text) = read text :=
  readLines_map_trimEnd (lines text.toList)

/-- Neither blanks at the ends of lines nor carriage returns before line feeds are looked at. -/
theorem readLines_rows (text : String) : readLines (rows text.toList) = read text := by
  rw [← readLines_trimmedLines]
  rcases rows_eq_or_eq_concat text.toList with h | h
  · rw [h, trimmedLines]
  · rw [h, readLines_concat_nil, trimmedLines]

/-- Only the rows of a text matter. -/
theorem read_eq_of_rows_eq {text other : String} (h : rows other.toList = rows text.toList) :
    read other = read text := by
  rw [← readLines_rows, h, readLines_rows]

/-- What can follow the end of a line. -/
def AfterLine (back : String) : Prop :=
  back = "" ∨ (∃ rest, back = "\n" ++ rest) ∨ ∃ rest, back = "\r\n" ++ rest

private theorem rows_insert_blanks (front : String) {blanks back : String}
    (hblanks : ∀ c ∈ blanks.toList, isBlank c = true ∧ c ≠ '\n') (hback : AfterLine back) :
    rows (front ++ blanks ++ back).toList = rows (front ++ back).toList := by
  rw [String.toList_append, String.toList_append, String.toList_append]
  rcases hback with rfl | ⟨rest, rfl⟩ | ⟨rest, rfl⟩
  · rw [String.toList_empty, List.append_nil, List.append_nil, rows_append_blanks _ hblanks]
  · have hrest : ("\n" ++ rest).toList = '\n' :: rest.toList := by simp
    rw [hrest, rows_append_newline, rows_append_newline, rows_append_blanks _ hblanks]
  · have hrest (l : List Char) : l ++ ("\r\n" ++ rest).toList = (l ++ ['\r']) ++ '\n' :: rest.toList := by
      simp
    have hreturn : ∀ c ∈ ['\r'], isBlank c = true ∧ c ≠ '\n' := by simp [isBlank]
    rw [hrest, hrest, rows_append_newline, rows_append_newline, rows_append_blanks _ hreturn,
      rows_append_blanks _ hreturn, rows_append_blanks _ hblanks]

private theorem trimmedLines_append {front back : String}
    (h : front = "" ∨ ∃ body, front = body ++ "\n") :
    trimmedLines (front ++ back) = trimmedLines front ++ trimmedLines back := by
  have hlists : front.toList = [] ∨ ∃ body, front.toList = body ++ ['\n'] := by
    rcases h with rfl | ⟨body, rfl⟩
    · exact .inl rfl
    · exact .inr ⟨body.toList, by simp⟩
  rw [trimmedLines, String.toList_append, lines_append hlists, List.map_append]
  rfl

private theorem trimmedLines_line {line : String} (h : '\n' ∉ line.toList) :
    trimmedLines (line ++ "\n") = [trimEnd line.toList] := by
  have hlist : (line ++ "\n").toList = line.toList ++ ['\n'] := by simp
  have hrows : rows (line.toList ++ ['\n']) = [trimEnd line.toList] ++ [[]] := by
    rw [rows_append_newline, rows_nil, rows, List.splitOn_eq_singleton h, List.map_singleton]
  have hlength : ((lines (line.toList ++ ['\n'])).map trimEnd).length = 1 := by
    rw [List.length_map, length_lines_concat, List.count_eq_zero.mpr h]
  rw [trimmedLines, hlist]
  rcases rows_eq_or_eq_concat (line.toList ++ ['\n']) with hlines | hlines
  · rw [← hlines, hrows] at hlength
    cases hlength
  · exact (List.append_cancel_right (hrows.symm.trans hlines)).symm

/-- The lines of a text into which a line is put. -/
theorem trimmedLines_insert {front : String} (hfront : front = "" ∨ ∃ body, front = body ++ "\n")
    (line : String) (hline : '\n' ∉ line.toList) (back : String) :
    trimmedLines (front ++ (line ++ "\n" ++ back)) =
      trimmedLines front ++ trimEnd line.toList :: trimmedLines back := by
  rw [trimmedLines_append hfront, trimmedLines_append (.inr ⟨line, rfl⟩), trimmedLines_line hline]
  rfl

/-- The numbers of lines when one line is put after the first `k` of them. -/
def later (k n : Nat) : Nat := if n ≤ k then n else n + 1

/-- The numbers of lines when line `k + 1` is taken out. -/
def earlier (k n : Nat) : Nat := if n ≤ k then n else n - 1

/-- What is read, with its line numbers changed. -/
def renumberRead (f : Nat → Nat) (r : Except FormatError (List Section)) :
    Except FormatError (List Section) :=
  (r.map fun sections => sections.map (Section.renumber f)).mapError (.renumber f)

private theorem renumberRead_earlier_later (k : Nat) (r : Except FormatError (List Section)) :
    renumberRead (earlier k) (renumberRead (later k) r) = r := by
  have hback : ∀ n, earlier k (later k n) = n := by
    intro n
    by_cases hn : n ≤ k
    · rw [later, if_pos hn, earlier, if_pos hn]
    · rw [later, if_neg hn, earlier, if_neg (by omega), Nat.add_sub_cancel]
  have hentry : ∀ e : Entry, (e.renumber (later k)).renumber (earlier k) = e := fun e =>
    congrArg (Entry.mk e.key e.value) (hback e.line)
  have hsection : ∀ s : Section, (s.renumber (later k)).renumber (earlier k) = s := by
    intro s
    simp [Section.renumber, hback, Function.comp_def, hentry]
  cases r with
  | error e =>
    have hline : (e.line.map (later k)).map (earlier k) = e.line := by
      cases e.line <;> simp [hback]
    exact congrArg (fun line => Except.error (FormatError.mk e.fault e.subject line)) hline
  | ok sections =>
    refine congrArg Except.ok ?_
    simp [Function.comp_def, hsection]

theorem result_readLines {ls : List (List Char)} (hn : ∀ l ∈ ls, '\n' ∉ l) :
    (readLines ls).result = (View.run {} (ls.zipIdx 1)).map View.sections := by
  have hmem : ∀ line ∈ ls.zipIdx 1, '\n' ∉ line.1 := fun line hline =>
    hn line.1 (List.fst_mem_of_mem_zipIdx hline)
  have hrun : (State.run {} (ls.zipIdx 1)).result.map State.view = View.run {} (ls.zipIdx 1) :=
    State.valid_empty.view_run hmem
  rw [← hrun, readLines, Logged.result_bind]
  cases (State.run {} (ls.zipIdx 1)).result <;> rfl

private theorem map_later_zipIdx (front back : List (List Char)) :
    ((front ++ back).zipIdx 1).map (Prod.map id (later front.length)) =
      front.zipIdx 1 ++ back.zipIdx (front.length + 2) := by
  apply List.ext_getElem?
  intro i
  rw [List.getElem?_map, List.getElem?_zipIdx, List.getElem?_append, List.getElem?_append,
    List.length_zipIdx]
  split
  · have hfirst : later front.length (1 + i) = 1 + i := if_pos (by omega)
    rw [List.getElem?_zipIdx, Option.map_map]
    simp [Function.comp_def, hfirst]
  · have hlast : later front.length (1 + i) = front.length + 2 + (i - front.length) := by
      rw [later, if_neg (by omega)]
      omega
    rw [List.getElem?_zipIdx, Option.map_map]
    simp [Function.comp_def, hlast]

/-- A comment that comes between other lines moves those below it. -/
theorem View.run_insert_comment {front back : List (List Char)} {line : List Char}
    (hline : isComment (trim line) = true) :
    View.run {} ((front ++ line :: back).zipIdx 1) =
      ((View.run {} ((front ++ back).zipIdx 1)).map (renumber (later front.length))).mapError
        (.renumber (later front.length)) := by
  have hne : trim line ≠ [] := by
    intro hnil
    rw [hnil] at hline
    cases hline
  have hskip (v : View) (number : Nat) : v.step line number = .ok v := by
    rw [step, if_neg hne, if_pos hline]
  have hsplit : (front ++ line :: back).zipIdx 1 =
      front.zipIdx 1 ++ (line, front.length + 1) :: back.zipIdx (front.length + 2) := by
    rw [List.zipIdx_append, List.zipIdx_cons, Nat.add_comm 1]
  -- Without the comment, the lines are those of the other text under their later numbers.
  have hempty : View.renumber (later front.length) {} = {} := rfl
  have hrun := renumber_run (later front.length) {} ((front ++ back).zipIdx 1)
  rw [hempty, map_later_zipIdx] at hrun
  rw [← hrun, hsplit, run, run, List.foldlM_append, List.foldlM_append]
  refine congrArg (List.foldlM _ _ _ >>= ·) (funext fun v => ?_)
  rw [List.foldlM_cons, hskip]
  rfl

/-- A comment that is put between two lines only moves the lines below it. -/
theorem result_read_insert_comment {text other : String} {front back : List (List Char)}
    {line : List Char} (htext : trimmedLines text = front ++ back)
    (hother : trimmedLines other = front ++ line :: back) (hline : isComment (trim line) = true) :
    (read other).result = renumberRead (later front.length) (read text).result := by
  have hnewline (t : String) : ∀ l ∈ trimmedLines t, '\n' ∉ l := by
    intro l hl
    obtain ⟨raw, hraw, rfl⟩ := List.mem_map.mp hl
    exact fun hmem => newline_not_mem_of_mem_lines hraw ((trimEnd_isPrefix raw).subset hmem)
  rw [← readLines_trimmedLines, ← readLines_trimmedLines, result_readLines (hnewline other),
    result_readLines (hnewline text), hother, htext, View.run_insert_comment hline, renumberRead]
  cases View.run {} ((front ++ back).zipIdx 1) <;> rfl

/-- Comments only move the lines below them, and what stands at the end of a line without being seen
changes nothing. -/
theorem read_layout (text : String) :
    (∀ other front line back, trimmedLines text = front ++ back →
      trimmedLines other = front ++ line :: back → isComment (trim line) = true →
      (read other).result = renumberRead (later front.length) (read text).result ∧
      (read text).result = renumberRead (earlier front.length) (read other).result) ∧
    (∀ front blanks back, text = front ++ back → AfterLine back →
      (∀ c ∈ blanks.toList, isBlank c = true ∧ c ≠ '\n') →
      read (front ++ blanks ++ back) = read text) ∧
    read (String.ofList (withReturns text.toList)) = read text := by
  refine ⟨?_, ?_, ?_⟩
  · intro other front line back htext hother hline
    have hread := result_read_insert_comment htext hother hline
    exact ⟨hread, by rw [hread, renumberRead_earlier_later]⟩
  · intro front blanks back htext hback hblanks
    rw [htext]
    exact read_eq_of_rows_eq (rows_insert_blanks front hblanks hback)
  · apply read_eq_of_rows_eq
    rw [String.toList_ofList, rows_withReturns]

/-- A value of two lines, and a header below it. -/
def twoLineText : String := "[a]\nk = 1\n" ++ "  2\n[b]\n"

/-- A comment is put into the value, blanks are put after its first line, and all lines get carriage
returns. -/
theorem read_twoLineText :
    (read twoLineText).result = .ok [⟨"a", 1, [⟨"k", "1\n2", 2⟩]⟩, ⟨"b", 4, []⟩] ∧
      (read ("[a]\nk = 1\n" ++ (" # note\r" ++ "\n" ++ "  2\n[b]\n"))).result =
        .ok [⟨"a", 1, [⟨"k", "1\n2", 2⟩]⟩, ⟨"b", 5, []⟩] ∧
      read "[a]\nk = 1\t \n  2\n[b]\n" = read twoLineText ∧
      read "[a]\r\nk = 1\r\n  2\r\n[b]\r\n" = read twoLineText := by
  have hread : (read twoLineText).result =
      .ok [⟨"a", 1, [⟨"k", "1\n2", 2⟩]⟩, ⟨"b", 4, []⟩] := by rfl
  obtain ⟨hcomment, hblanks, hreturns⟩ := read_layout twoLineText
  have hfront : "[a]\nk = 1\n" = "" ∨ ∃ body, "[a]\nk = 1\n" = body ++ "\n" :=
    .inr ⟨"[a]\nk = 1", by decide⟩
  have hinsert := (hcomment _ _ _ _ (trimmedLines_append hfront)
    (trimmedLines_insert hfront " # note\r" (by decide) "  2\n[b]\n") (by decide)).1
  rw [hread] at hinsert
  exact ⟨hread, hinsert.trans (by rfl),
    hblanks "[a]\nk = 1" "\t " "\n  2\n[b]\n" (by decide)
      (.inr (.inl ⟨"  2\n[b]\n", by decide⟩)) (by simp [isBlank]), hreturns⟩

end Config

end SwitchInventory
