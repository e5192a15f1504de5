import SwitchInventory.Proofs.Config.Assignments
import SwitchInventory.Proofs.Config.Concat
import SwitchInventory.Proofs.Config.Kept

namespace SwitchInventory.Config

open SwitchInventory.Text

/-- A reader and a scan that have seen the same lines: the entries that the reader keeps are on the
lines of the first assignments. -/
structure Tracks (v : View) (m : Mark) (seen : List Assignment) : Prop where
  name? : v.place.name? = m.name?
  taken : v.place.takesIndented = m.taken
  lines : ∀ name key, (kept? v.sections name key).map Entry.line =
    (Keyed.find? Assignment.slot (name, key) seen).map Assignment.line

namespace Tracks

variable {v v' : View} {m : Mark} {seen : List Assignment} {raw : List Char} {number : Nat}

theorem empty : Tracks {} {} [] := ⟨rfl, rfl, fun _ _ => rfl⟩

theorem addEntry (h : Tracks v m seen) (hv : v.Inside) {name key value : String}
    (hname : v.place.name? = some name) (hok : v.addEntry key value number = .ok v') :
    Tracks v' { m with taken := true } (seen ++ [⟨name, key, number⟩]) := by
  by_cases hholds : Holds v.sections name key
  · rw [View.addEntry_of_holds hname hholds] at hok
    obtain rfl := Except.ok.inj hok
    refine ⟨hname.symm.trans h.name?, rfl, fun n k => ?_⟩
    rw [h.lines, Keyed.find?_concat]
    by_cases hslot : (name, key) = (n, k)
    · obtain ⟨rfl, rfl⟩ := Prod.mk.inj hslot
      cases hfind : Keyed.find? Assignment.slot (name, key) seen with
      | some first => rfl
      | none =>
        have hline := h.lines name key
        rw [hfind, Option.map_none, Option.map_eq_none_iff, kept?_eq_none_iff hv.nodup_names] at hline
        exact absurd hholds hline
    · rw [Assignment.slot, if_neg hslot, Option.or_none]
  · rw [View.addEntry_of_not_holds hname hholds] at hok
    obtain rfl := Except.ok.inj hok
    have hnew := (kept?_eq_none_iff hv.nodup_names).mpr hholds
    refine ⟨hname.symm.trans h.name?, rfl, fun n k => ?_⟩
    rw [kept?_push (hv.name_mem name hname) hnew, Keyed.find?_concat, Assignment.slot]
    by_cases hslot : (name, key) = (n, k)
    · obtain ⟨rfl, rfl⟩ := Prod.mk.inj hslot
      have hline := h.lines name key
      rw [hnew, Option.map_none, eq_comm, Option.map_eq_none_iff] at hline
      rw [hline, if_pos rfl, if_pos rfl]
      rfl
    · rw [if_neg hslot, if_neg hslot, Option.or_none, h.lines]

theorem close (h : Tracks v m seen) : Tracks v.close { m with taken := false } seen := by
  refine ⟨?_, ?_, h.lines⟩
  · rw [← h.name?]
    cases hplace : v.place <;> simp [View.close, hplace, Place.close, Place.name?]
  · cases hplace : v.place <;> simp [View.close, hplace, Place.close, Place.takesIndented]

theorem extend (h : Tracks v m seen) (text : String) : Tracks (v.extend text) m seen := by
  refine ⟨?_, ?_, fun name key => ?_⟩
  · rw [View.place_extend, h.name?]
  · rw [View.place_extend, h.taken]
  · rw [View.map_line_kept?_extend, h.lines]

theorem openSection (h : Tracks v m seen) (name : String) (number : Nat) :
    Tracks (v.openSection name number) { name? := some name } seen := by
  refine ⟨rfl, rfl, fun n key => ?_⟩
  rw [View.kept?_openSection, h.lines]

theorem take (h : Tracks v m seen) (hv : v.Inside) (hfresh : m.Fresh raw) {st : Statement}
    (hread : Statement.read (trim raw) = .ok st) (hok : v.take number st = .ok v') :
    Tracks v' (m.next raw number).1 (seen ++ (m.next raw number).2.toList) := by
  cases st with
  | header name =>
    rw [hfresh.next_header hread, ← Except.ok.inj hok, Option.toList_none, List.append_nil]
    exact h.openSection name number
  | entry key value =>
    have hok : v.addEntry key value number = .ok v' := hok
    cases hname : v.place.name? with
    | none =>
      rw [View.addEntry_outside hname] at hok
      cases hok
    | some name =>
      rw [hfresh.next_entry hread (h.name? ▸ hname)]
      exact h.addEntry hv hname hok

/-- The reader and the scan tell the same kinds of lines apart. -/
theorem step (h : Tracks v m seen) (hv : v.Inside) (hok : v.step raw number = .ok v') :
    Tracks v' (m.next raw number).1 (seen ++ (m.next raw number).2.toList) := by
  by_cases hblank : trim raw = []
  · rw [View.step, if_pos hblank] at hok
    rw [Mark.next_blank hblank, ← Except.ok.inj hok, Option.toList_none, List.append_nil]
    exact h.close
  by_cases hcomment : isComment (trim raw) = true
  · rw [View.step, if_neg hblank, if_pos hcomment] at hok
    rw [Mark.next_comment hcomment, ← Except.ok.inj hok, Option.toList_none, List.append_nil]
    exact h
  have hno : isComment (trim raw) = false := by simpa using hcomment
  by_cases hindented : (startsBlank raw && m.taken) = true
  · rw [View.step, if_neg hblank, if_neg hcomment, h.taken, if_pos hindented] at hok
    rw [Mark.next_indented hblank hno hindented, ← Except.ok.inj hok, Option.toList_none,
      List.append_nil]
    exact h.extend _
  · rw [View.step, if_neg hblank, if_neg hcomment, h.taken, if_neg hindented] at hok
    cases hread : Statement.read (trim raw) with
    | error fault =>
      rw [hread] at hok
      cases hok
    | ok st =>
      rw [hread] at hok
      exact h.take hv ⟨hblank, hno, by simpa using hindented⟩ hread hok

/-- A repeated assignment leaves everything as it is but for what follows it. -/
theorem step_of_repeat (h : Tracks v m seen) (hv : v.Inside) {r : Assignment × Nat}
    (hr : r ∈ repeatsAfter seen (m.next raw number).2.toList) :
    r.1.line = number ∧ v.place.name? = some r.1.target ∧
      v.step raw number = .ok ⟨v.sections, .dropped r.1.target⟩ := by
  cases hnext : (m.next raw number).2 with
  | none =>
    rw [hnext] at hr
    cases hr
  | some a =>
    obtain ⟨hfresh, hname, hline, value, hread⟩ := Mark.fresh_of_next_eq_some hnext
    rw [hnext, Option.toList_some, repeatsAfter, repeatsAfter, List.append_nil] at hr
    obtain ⟨first, hfirst, rfl⟩ := Option.map_eq_some_iff.mp (Option.mem_toList.mp hr)
    have hplace : v.place.name? = some a.target := h.name?.trans hname
    have hlines := h.lines a.target a.key
    have hholds : Holds v.sections a.target a.key := by
      by_contra hno
      rw [(kept?_eq_none_iff hv.nodup_names).mpr hno] at hlines
      cases hlines.trans (congrArg (Option.map Assignment.line) hfirst)
    refine ⟨hline, hplace, ?_⟩
    rw [View.step, if_neg hfresh.ne_nil, if_neg (by simp [hfresh.no_comment]), h.taken,
      if_neg (by simp [hfresh.not_taken]), hread]
    exact View.addEntry_of_holds hplace hholds

end Tracks

namespace State

variable {s s' : State} {m : Mark} {seen : List Assignment} {raw : List Char} {number : Nat}

theorem Valid.events_addEntry (h : s.Valid) {name : String} (hname : s.view.place.name? = some name)
    (key value : String) (number : Nat) :
    (s.addEntry key value number).events =
      ((kept? s.sections name key).map fun first =>
        (Assignment.mk name key number).warning first.line).toList := by
  rcases h.current? with hstart | ⟨p, target, hcur⟩
  · rw [view, hstart] at hname
    cases hname
  · obtain rfl := Option.some.inj ((view_name?_of_current? hcur).symm.trans hname)
    obtain ⟨-, ht⟩ := current?_eq_some_iff.mp hcur
    rw [kept?_of_mem h.wellFormed.nodup_names (List.mem_of_getElem? ht)]
    cases hfind : target.find? key with
    | none =>
      rw [addEntry_new hcur hfind]
      rfl
    | some first =>
      rw [State.addEntry, hcur]
      simp only [hfind]
      rfl

theorem Valid.events_addEntry_eq_repeats (h : s.Valid) (ht : Tracks s.view m seen) {name : String}
    (hname : s.view.place.name? = some name) (key value : String) (number : Nat) :
    (s.addEntry key value number).events =
      (repeatsAfter seen [⟨name, key, number⟩]).map fun r => r.1.warning r.2 := by
  have hkept : (kept? s.sections name key).map (fun first =>
      (Assignment.mk name key number).warning first.line) =
        ((kept? s.view.sections name key).map Entry.line).map
          (Assignment.mk name key number).warning := by
    rw [Option.map_map]
    rfl
  rw [h.events_addEntry hname, hkept, ht.lines, repeatsAfter, Assignment.slot]
  cases Keyed.find? Assignment.slot (name, key) seen <;> rfl

/-- A line is reported on when it is a repeated assignment, and on no other account. -/
theorem Valid.events_step (h : s.Valid) (ht : Tracks s.view m seen)
    (hok : (s.step raw number).result = .ok s') :
    (s.step raw number).events =
      (repeatsAfter seen (m.next raw number).2.toList).map fun r => r.1.warning r.2 := by
  rcases line_cases s raw with hb | hc | ⟨hne, hc, hb, hd⟩ | ⟨hne, hc, hb, p, i, hcur⟩ | halone
  · rw [step_blank hb, Mark.next_blank hb]
    rfl
  · rw [step_comment hc, Mark.next_comment hc]
    rfl
  · have htaken : m.taken = true := by
      rw [← ht.taken, takesIndented_view, hd]
      rfl
    rw [step_dropped hne hc hb hd, Mark.next_indented hne hc (by rw [hb, htaken]; rfl)]
    rfl
  · have htaken : m.taken = true := by
      rw [← ht.taken, takesIndented_view, hcur]
      rfl
    rw [step_continued hne hc hb hcur, Mark.next_indented hne hc (by rw [hb, htaken]; rfl)]
    rfl
  · have hfresh : m.Fresh raw := ⟨halone.ne_nil, halone.no_comment, ht.taken ▸ halone.not_taken⟩
    cases hread : Statement.read (trim raw) with
    | error fault =>
      rw [step_of_fault halone hread] at hok
      cases hok
    | ok st =>
      rw [step_of_read halone hread] at hok ⊢
      cases st with
      | header name =>
        rw [hfresh.next_header hread]
        rfl
      | entry key value =>
        cases hname : s.view.place.name? with
        | none =>
          have hadd : (s.addEntry key value number).result = .ok s' := hok
          have herr := h.view_addEntry key value number
          rw [hadd, View.addEntry_outside hname] at herr
          cases herr
        | some name =>
          rw [hfresh.next_entry hread (ht.name? ▸ hname)]
          exact h.events_addEntry_eq_repeats ht hname key value number

theorem Valid.tracks_step (h : s.Valid) (ht : Tracks s.view m seen)
    (hok : (s.step raw number).result = .ok s') :
    Tracks s'.view (m.next raw number).1 (seen ++ (m.next raw number).2.toList) := by
  have hview := h.view_step raw number
  rw [hok] at hview
  exact ht.step h.inside_view hview.symm

private theorem run_cons_eq_ok {line : List Char × Nat} {rest : List (List Char × Nat)}
    (hok : (s.run (line :: rest)).result = .ok s') :
    ∃ t, (s.step line.1 line.2).result = .ok t ∧ (t.run rest).result = .ok s' ∧
      (s.run (line :: rest)).events = (s.step line.1 line.2).events ++ (t.run rest).events := by
  rw [State.run, List.foldlM_cons, Logged.result_bind] at hok
  obtain ⟨t, ht, hrest⟩ := Sequence.bind_eq_ok_iff.mp hok
  refine ⟨t, ht, hrest, ?_⟩
  rw [State.run, List.foldlM_cons, Logged.events_bind_of_ok ht]
  rfl

/-- The reader reports the repeats among the assignments, each in its turn, and nothing else. -/
theorem Valid.events_run (h : s.Valid) (ht : Tracks s.view m seen)
    {numbered : List (List Char × Nat)} (hn : ∀ line ∈ numbered, '\n' ∉ line.1)
    (hok : (s.run numbered).result = .ok s') :
    (s.run numbered).events =
        (repeatsAfter seen (assignmentsFrom m numbered)).map (fun r => r.1.warning r.2) ∧
      ∃ m', Tracks s'.view m' (seen ++ assignmentsFrom m numbered) := by
  induction numbered generalizing s m seen with
  | nil =>
    obtain rfl := Except.ok.inj hok
    exact ⟨rfl, m, by rwa [assignmentsFrom, List.append_nil]⟩
  | cons line rest ih =>
    obtain ⟨t, hstep, hrest, hevents⟩ := run_cons_eq_ok hok
    have hvalid := h.step (hn line List.mem_cons_self) hstep
    obtain ⟨hrun, hlast⟩ := ih hvalid (h.tracks_step ht hstep)
      (fun l hl => hn l (List.mem_cons_of_mem line hl)) hrest
    rw [hevents, hrun, h.events_step ht hstep, assignmentsFrom, repeatsAfter_append,
      List.map_append, ← List.append_assoc]
    exact ⟨rfl, hlast⟩

/-- The line of a repeated assignment, with what was read before it. -/
theorem Valid.exists_line_of_repeat (h : s.Valid) (ht : Tracks s.view m seen)
    {numbered : List (List Char × Nat)} (hn : ∀ line ∈ numbered, '\n' ∉ line.1)
    (hok : (s.run numbered).result = .ok s') {r : Assignment × Nat}
    (hr : r ∈ repeatsAfter seen (assignmentsFrom m numbered)) :
    ∃ front raw back v, numbered = front ++ (raw, r.1.line) :: back ∧ s.view.run front = .ok v ∧
      v.place.name? = some r.1.target ∧
      v.step raw r.1.line = .ok ⟨v.sections, .dropped r.1.target⟩ := by
  induction numbered generalizing s m seen with
  | nil => cases hr
  | cons line rest ih =>
    obtain ⟨t, hstep, hrest, -⟩ := run_cons_eq_ok hok
    rw [assignmentsFrom, repeatsAfter_append] at hr
    rcases List.mem_append.mp hr with hr | hr
    · obtain ⟨hline, hplace, hdrop⟩ := ht.step_of_repeat h.inside_view hr
      exact ⟨[], line.1, rest, s.view, by rw [hline]; rfl, rfl, hplace, hline ▸ hdrop⟩
    · have hvalid := h.step (hn line List.mem_cons_self) hstep
      obtain ⟨front, raw, back, v, rfl, hfront, hplace, hdrop⟩ := ih hvalid (h.tracks_step ht hstep)
        (fun l hl => hn l (List.mem_cons_of_mem line hl)) hrest hr
      refine ⟨line :: front, raw, back, v, rfl, ?_, hplace, hdrop⟩
      have hview := h.view_step line.1 line.2
      rw [hstep] at hview
      rw [View.run, List.foldlM_cons, ← hview]
      exact hfront

end State

end SwitchInventory.Config
