import SwitchInventory.Proofs.Config.NumberedLines
import SwitchInventory.Proofs.Config.Reports
import SwitchInventory.Proofs.Text.Endings

namespace SwitchInventory.Config

open SwitchInventory.Text

/-- The lines without those that belong to an entry above them: indented ones, up to a line that is
blank or not indented. Comments stay and end nothing. -/
def withoutContinuation {β : Type} : List (List Char × β) → List (List Char × β)
  | [] => []
  | line :: rest =>
    if trim line.1 = [] then line :: rest
    else if isComment (trim line.1) then line :: withoutContinuation rest
    else if startsBlank line.1 then withoutContinuation rest
    else line :: rest

/-- The text without the entry on line `number` and the lines that belong to it. -/
def withoutEntry (text : String) (number : Nat) : String :=
  let ls := endedLines text.toList
  String.ofList (joinEnded (ls.take (number - 1) ++ withoutContinuation (ls.drop number)))

private theorem withoutContinuation_sublist {β : Type} (ls : List (List Char × β)) :
    (withoutContinuation ls).Sublist ls := by
  induction ls with
  | nil => exact .slnil
  | cons line rest ih =>
    rw [withoutContinuation]
    split
    · exact .refl _
    split
    · exact ih.cons_cons line
    split
    · exact ih.cons line
    · exact .refl _

/-- What comes with the lines does not matter. -/
theorem map_fst_withoutContinuation {β γ : Type} {ls : List (List Char × β)}
    {ms : List (List Char × γ)} (h : ls.map Prod.fst = ms.map Prod.fst) :
    (withoutContinuation ls).map Prod.fst = (withoutContinuation ms).map Prod.fst := by
  induction ls generalizing ms with
  | nil =>
    cases ms with
    | nil => rfl
    | cons m ms => cases h
  | cons l ls ih =>
    cases ms with
    | nil => cases h
    | cons m ms =>
      rw [List.map_cons, List.map_cons, List.cons.injEq] at h
      rw [withoutContinuation, withoutContinuation, ← h.1]
      split
      · simp [h.1, h.2]
      split
      · simp [h.1, ih h.2]
      split
      · exact ih h.2
      · simp [h.1, h.2]

namespace View

variable {sections : List Section} {place place' : Place} {name : String} {raw : List Char}

/-- A line that is not indented is read alike at all places of a section. -/
theorem step_of_unindented (hne : trim raw ≠ []) (hc : isComment (trim raw) = false)
    (hb : startsBlank raw = false) (h : place.name? = place'.name?) (number : Nat) :
    View.step ⟨sections, place⟩ raw number = View.step ⟨sections, place'⟩ raw number := by
  unfold step
  rw [if_neg hne, if_neg hne, hc, hb]
  cases Statement.read (trim raw) with
  | error fault => rfl
  | ok st =>
    cases st with
    | header name => rfl
    | entry key value =>
      change View.addEntry ⟨sections, place⟩ key value number =
        View.addEntry ⟨sections, place'⟩ key value number
      unfold addEntry
      rw [h]

/-- Lines that are dropped with an entry are those that belong to it. -/
theorem run_withoutContinuation (numbered : List (List Char × Nat)) (sections : List Section)
    (h : place.name? = some name) :
    (View.run ⟨sections, .dropped name⟩ numbered).map View.sections =
      (View.run ⟨sections, place⟩ (withoutContinuation numbered)).map View.sections := by
  induction numbered with
  | nil => rfl
  | cons line rest ih =>
    have hcons (v : View) (ls : List (List Char × Nat)) :
        v.run (line :: ls) = v.step line.1 line.2 >>= fun w => w.run ls := List.foldlM_cons
    rw [withoutContinuation]
    by_cases hblank : trim line.1 = []
    · have hclose : place.close = .body name := by
        cases place <;> simp_all [Place.name?, Place.close]
      rw [if_pos hblank, hcons, hcons, step, step, if_pos hblank, if_pos hblank, close, close, hclose]
      rfl
    rw [if_neg hblank]
    by_cases hcomment : isComment (trim line.1) = true
    · rw [if_pos hcomment, hcons, hcons, step, step, if_neg hblank, if_neg hblank, if_pos hcomment,
        if_pos hcomment]
      exact ih
    rw [if_neg hcomment]
    by_cases hindented : startsBlank line.1 = true
    · have hstay : View.step ⟨sections, .dropped name⟩ line.1 line.2 =
          .ok ⟨sections, .dropped name⟩ := by
        rw [step, if_neg hblank, if_neg hcomment, if_pos (by rw [hindented]; rfl)]
        rfl
      rw [if_pos hindented, hcons, hstay]
      exact ih
    · have hsame : (Place.dropped name).name? = place.name? := h.symm
      rw [if_neg hindented, hcons, hcons,
        step_of_unindented hblank (by simpa using hcomment) (by simpa using hindented) hsame]

/-- An entry that is dropped can be taken out together with its further lines. -/
theorem sections_of_drop_entry {front back : List (List Char × Nat)} {raw : List Char}
    {number : Nat} {v w : View} (hfront : View.run {} front = .ok v)
    (hname : v.place.name? = some name)
    (hdrop : v.step raw number = .ok ⟨v.sections, .dropped name⟩)
    (hrun : View.run {} (front ++ (raw, number) :: back) = .ok w) :
    ∃ w', View.run {} (front ++ withoutContinuation back) = .ok w' ∧ w'.sections = w.sections := by
  have happend (ls : List (List Char × Nat)) : View.run {} (front ++ ls) = v.run ls := by
    rw [run, List.foldlM_append, ← run, hfront]
    rfl
  have hskip := run_withoutContinuation back v.sections hname
  have hdropped : v.run ((raw, number) :: back) = View.run ⟨v.sections, .dropped name⟩ back := by
    rw [run, List.foldlM_cons, hdrop]
    rfl
  rw [happend, hdropped] at hrun
  rw [hrun] at hskip
  rw [happend]
  obtain ⟨w', hw', hsections⟩ := Sequence.map_eq_ok_iff.mp hskip.symm
  exact ⟨w', hw', hsections⟩

end View

private theorem numbered_eq_append {text : String} {front back : List (List Char × Nat)}
    {raw : List Char} {number : Nat} (h : numberedLines text = front ++ (raw, number) :: back) :
    front = (numberedLines text).take (number - 1) ∧ back = (numberedLines text).drop number := by
  rw [number_of_numberedLines_eq h, h]
  simp

private theorem map_fst_numberedLines_withoutEntry (text : String) (number : Nat) :
    (numberedLines (withoutEntry text number)).map Prod.fst =
      ((numberedLines text).take (number - 1) ++
        withoutContinuation ((numberedLines text).drop number)).map Prod.fst := by
  let ls := endedLines text.toList
  have hsame : ls.map Prod.fst = (numberedLines text).map Prod.fst := by
    rw [map_fst_endedLines, map_fst_numberedLines]
  have hsub : (ls.take (number - 1) ++ withoutContinuation (ls.drop number)).Sublist ls := by
    have hdrop : (ls.drop number).Sublist (ls.drop (number - 1)) :=
      List.drop_sublist_drop_left ls (Nat.sub_le number 1)
    have hback := (withoutContinuation_sublist (ls.drop number)).trans hdrop
    have hall := (List.Sublist.refl (ls.take (number - 1))).append hback
    rwa [List.take_append_drop] at hall
  have hdrop : (ls.drop number).map Prod.fst = ((numberedLines text).drop number).map Prod.fst := by
    rw [List.map_drop, hsame, List.map_drop]
  rw [map_fst_numberedLines, withoutEntry, String.toList_ofList, lines_joinEnded_of_sublist hsub,
    List.map_append, List.map_append, map_fst_withoutContinuation hdrop, List.map_take, hsame,
    List.map_take]

/-- Without the lines of a repeated assignment the configuration says the same. -/
theorem read_withoutEntry {text : String} {sections : List Section}
    (h : (read text).result = .ok sections) {r : Assignment × Nat}
    (hr : r ∈ repeats (assignments text)) :
    ∃ again, (read (withoutEntry text r.1.line)).result = .ok again ∧
      again.map Section.unnumbered = sections.map Section.unnumbered := by
  obtain ⟨s, hs, rfl⟩ := read_eq_ok_iff.mp h
  have hview : (State.run {} (numberedLines text)).result.map State.view =
      View.run {} (numberedLines text) :=
    State.valid_empty.view_run fun _ => newline_not_mem_of_mem_numberedLines
  rw [hs] at hview
  obtain ⟨front, raw, back, v, hsplit, hfront, hname, hdrop⟩ :=
    State.valid_empty.exists_line_of_repeat .empty
      (fun _ => newline_not_mem_of_mem_numberedLines) hs hr
  rw [hsplit] at hview
  obtain ⟨w, hw, hsections⟩ := View.sections_of_drop_entry hfront hname hdrop hview.symm
  obtain ⟨hfront', hback'⟩ := numbered_eq_append hsplit
  rw [hfront', hback'] at hw
  obtain ⟨w', hw', hsame⟩ := View.sections_unnumbered_of_run
    (map_fst_numberedLines_withoutEntry text r.1.line).symm hw
  refine ⟨w'.sections, ?_, ?_⟩
  · rw [result_read, hw']
    rfl
  · rw [hsame, hsections]
    rfl

/-- Repeats are found in the order of their lines. -/
theorem pairwise_line_repeats (text : String) :
    (repeats (assignments text)).Pairwise fun r t => r.1.line < t.1.line := by
  have hnumbers : ((numberedLines text).map Prod.snd).Pairwise (· < ·) := by
    rw [numberedLines, List.zipIdx_map_snd]
    exact List.pairwise_lt_range'
  have hlines : ((assignments text).map Assignment.line).Pairwise (· < ·) :=
    hnumbers.sublist (map_line_assignmentsFrom_sublist {} _)
  have hrepeats : (((repeats (assignments text)).map Prod.fst).map Assignment.line).Pairwise
      (· < ·) := hlines.sublist ((map_fst_repeatsAfter_sublist [] _).map _)
  rwa [List.map_map, List.pairwise_map] at hrepeats

/-- A repeated assignment is always reported, and taking it out with the lines that belong to it
changes nothing but line numbers. -/
theorem repeats_of_read {text : String} {sections : List Section}
    (h : (read text).result = .ok sections) :
    (read text).events = (repeats (assignments text)).map (fun r => r.1.warning r.2) ∧
      ((repeats (assignments text)).Pairwise fun r t => r.1.line < t.1.line) ∧
      ((read text).events = [] ↔ ((assignments text).map Assignment.slot).Nodup) ∧
      ∀ r ∈ repeats (assignments text),
        (kept? sections r.1.target r.1.key).map Entry.line = some r.2 ∧
        ∃ again, (read (withoutEntry text r.1.line)).result = .ok again ∧
          again.map Section.unnumbered = sections.map Section.unnumbered := by
  obtain ⟨s, hs, rfl⟩ := read_eq_ok_iff.mp h
  obtain ⟨hrun, m, hlast⟩ := State.valid_empty.events_run .empty
    (fun _ => newline_not_mem_of_mem_numberedLines) hs
  have hevents : (read text).events =
      (repeats (assignments text)).map fun r => r.1.warning r.2 := by
    rw [read, Logged.events_bind_of_ok hs, hrun]
    exact List.append_nil _
  refine ⟨hevents, pairwise_line_repeats text, ?_, fun r hr => ⟨?_, read_withoutEntry h hr⟩⟩
  · rw [hevents, List.map_eq_nil_iff, repeats, repeatsAfter_eq_nil_iff]
    exact and_iff_left fun _ _ => List.not_mem_nil
  · exact (hlast.lines r.1.target r.1.key).trans (find?_of_mem_repeatsAfter hr)

/-- A key is given again, with a comment between the entry and the line that belongs to it. -/
def droppedEntry : String := "[s]\nk = 1\n more\nk = 2\r\n# c\n  gone\n\nj = 3"

theorem read_droppedEntry :
    (read droppedEntry).result = .ok [⟨"s", 1, [⟨"k", "1\nmore", 2⟩, ⟨"j", "3", 8⟩]⟩] ∧
      (read droppedEntry).events = [⟨.warn, .config,
        "[s] k on line 4 is already set on line 2, keeping the first value"⟩] ∧
      withoutEntry droppedEntry 4 = "[s]\nk = 1\n more\n# c\n\nj = 3" ∧
      ∃ again, (read "[s]\nk = 1\n more\n# c\n\nj = 3").result = .ok again ∧
        again.map Section.unnumbered = [⟨"s", 0, [⟨"k", "1\nmore", 0⟩, ⟨"j", "3", 0⟩]⟩] := by
  have hread : (read droppedEntry).result =
      .ok [⟨"s", 1, [⟨"k", "1\nmore", 2⟩, ⟨"j", "3", 8⟩]⟩] := by rfl
  have hrepeats : repeats (assignments droppedEntry) = [(⟨"s", "k", 4⟩, 2)] := by rfl
  have hwithout : withoutEntry droppedEntry 4 = "[s]\nk = 1\n more\n# c\n\nj = 3" := by rfl
  obtain ⟨hevents, -, -, hall⟩ := repeats_of_read hread
  rw [hrepeats] at hevents hall
  obtain ⟨-, hagain⟩ := hall _ List.mem_cons_self
  rw [hwithout] at hagain
  exact ⟨hread, hevents, hwithout, hagain⟩

end SwitchInventory.Config
