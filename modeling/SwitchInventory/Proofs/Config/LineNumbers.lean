import SwitchInventory.Proofs.Config.Move
import SwitchInventory.Proofs.Config.NumberedLines
import SwitchInventory.Proofs.Config.Reports

namespace SwitchInventory.Config

open SwitchInventory.Lists SwitchInventory.Text

/-- Line `number`, which trimmed is `text`, is read on its own: the lines before it
are read, and it does not belong to one of them. -/
def ReadAlone (numbered : List (List Char × Nat)) (number : Nat) (text : List Char) : Prop :=
  ∃ front raw back s, numbered = front ++ (raw, number) :: back ∧
    (State.run {} front).result = .ok s ∧ s.StandsAlone raw ∧ trim raw = text

/-- Line `number` is read on its own and says `st`. -/
def Says (numbered : List (List Char × Nat)) (number : Nat) (st : Statement) : Prop :=
  ∃ text, ReadAlone numbered number text ∧ Statement.read text = .ok st

/-- The part of the value that stands on the line of the key. -/
def Entry.firstValueLine (e : Entry) : String := String.ofList (e.value.toList.takeWhile (· ≠ '\n'))

/-- Numbers that point at the lines that were read to the section. -/
structure Section.Faithful (numbered : List (List Char × Nat)) (t : Section) : Prop where
  header : Says numbered t.line (.header t.name)
  entry : ∀ e ∈ t.entries, Says numbered e.line (.entry e.key e.firstValueLine)
  ascending : (t.line :: t.entries.map Entry.line).Pairwise (· < ·)

/-- Numbers that point at the lines that were read to the sections, each at its first header. -/
structure Faithful (numbered : List (List Char × Nat)) (sections : List Section) : Prop where
  each : ∀ t ∈ sections, t.Faithful numbered
  first : ∀ n name, Says numbered n (.header name) → ∃ t ∈ sections, t.name = name ∧ t.line ≤ n
  ascending : (sections.map Section.line).Pairwise (· < ·)

variable {numbered : List (List Char × Nat)} {sections : List Section} {s s' : State}
  {raw : List Char} {number n : Nat} {st : Statement} {line : List Char × Nat}

theorem ReadAlone.exists_mem {text : List Char} (h : ReadAlone numbered n text) :
    ∃ raw, (raw, n) ∈ numbered ∧ trim raw = text := by
  obtain ⟨front, raw, back, s, rfl, -, -, htext⟩ := h
  exact ⟨raw, by simp, htext⟩

theorem Says.mem_numbers (h : Says numbered n st) : n ∈ numbered.map Prod.snd := by
  obtain ⟨text, halone, -⟩ := h
  obtain ⟨raw, hmem, -⟩ := halone.exists_mem
  exact List.mem_map_of_mem hmem

theorem Says.append (h : Says numbered n st) (more : List (List Char × Nat)) :
    Says (numbered ++ more) n st := by
  obtain ⟨text, ⟨front, raw, back, s, rfl, hrest⟩, hread⟩ := h
  exact ⟨text, ⟨front, raw, back ++ more, s, by simp, hrest⟩, hread⟩

private theorem says_last (hrun : (State.run {} numbered).result = .ok s)
    (halone : s.StandsAlone raw) (hread : Statement.read (trim raw) = .ok st) :
    Says (numbered ++ [(raw, number)]) number st :=
  ⟨trim raw, ⟨numbered, raw, [], s, rfl, hrun, halone, rfl⟩, hread⟩

/-- What is said with one more line was said before it or is said by it. -/
theorem says_concat (hrun : (State.run {} numbered).result = .ok s)
    (h : Says (numbered ++ [line]) n st) :
    Says numbered n st ∨
      n = line.2 ∧ s.StandsAlone line.1 ∧ Statement.read (trim line.1) = .ok st := by
  obtain ⟨text, ⟨front, raw, back, t, hsplit, ht, halone, rfl⟩, hread⟩ := h
  rcases List.eq_nil_or_concat back with rfl | ⟨back, last, rfl⟩
  · obtain ⟨rfl, hline⟩ := List.append_inj' hsplit rfl
    obtain rfl := List.singleton_inj.mp hline
    obtain rfl : s = t := Except.ok.inj (hrun.symm.trans ht)
    exact .inr ⟨rfl, halone, hread⟩
  · have hfront : numbered = front ++ (raw, n) :: back := by
      have hassoc : front ++ (raw, n) :: (back ++ [last]) = (front ++ (raw, n) :: back) ++ [last] := by
        simp
      rw [List.concat_eq_append, hassoc] at hsplit
      exact (List.append_inj' hsplit rfl).1
    exact .inl ⟨trim raw, ⟨front, raw, back, t, hfront, ht, halone, rfl⟩, hread⟩

private theorem Entry.firstValueLine_extend (e : Entry) (text : String) :
    (e.extend text).firstValueLine = e.firstValueLine := by
  have hvalue : (e.extend text).value.toList = e.value.toList ++ '\n' :: text.toList := by
    simp [extend]
  rw [firstValueLine, firstValueLine, hvalue, takeWhile_append_cons (by simp)]

private theorem firstValueLine_of_read {key value : String} (hn : '\n' ∉ raw)
    (hread : Statement.read (trim raw) = .ok (.entry key value)) (number : Nat) :
    Entry.firstValueLine ⟨key, value, number⟩ = value := by
  obtain ⟨front, back, htext, -, -, hst⟩ :=
    Statement.readEntry_eq_ok_iff.mp (Statement.readEntry_of_read hread)
  obtain ⟨-, rfl⟩ := Statement.entry.inj hst
  have hkeep : ∀ c ∈ trim back, decide (c ≠ '\n') = true := by
    intro c hc
    have hraw : c ∈ raw := by
      apply mem_of_mem_trim
      rw [htext]
      exact List.mem_append_right _ (List.mem_cons_of_mem _ (mem_of_mem_trim hc))
    rw [decide_eq_true_eq]
    exact fun heq => hn (heq ▸ hraw)
  rw [Entry.firstValueLine, String.toList_ofList, List.takeWhile_eq_self_iff.mpr hkeep]

namespace Section.Faithful

variable {t : Section}

theorem append (h : t.Faithful numbered) (more : List (List Char × Nat)) :
    t.Faithful (numbered ++ more) where
  header := h.header.append more
  entry e he := (h.entry e he).append more
  ascending := h.ascending

theorem mem_numbers (h : t.Faithful numbered) :
    ∀ m ∈ t.line :: t.entries.map Entry.line, m ∈ numbered.map Prod.snd := by
  intro m hm
  rcases List.mem_cons.mp hm with rfl | hm
  · exact h.header.mem_numbers
  · obtain ⟨e, he, rfl⟩ := List.mem_map.mp hm
    exact (h.entry e he).mem_numbers

theorem extend (h : t.Faithful numbered) (i : Nat) (text : String) :
    (t.extend i text).Faithful numbered := by
  have hlines : (t.extend i text).entries.map Entry.line = t.entries.map Entry.line :=
    map_modify_eq (f := (·.extend text)) (fun _ => rfl) t.entries i
  refine ⟨h.header, fun e he => ?_, ?_⟩
  · rcases mem_or_of_mem_modify he with he | ⟨e, hget, rfl⟩
    · exact h.entry e he
    · rw [Entry.firstValueLine_extend]
      exact h.entry e (List.mem_of_getElem? hget)
  · rw [hlines]
    exact h.ascending

theorem push (h : t.Faithful numbered) {e : Entry}
    (hsaid : Says numbered e.line (.entry e.key e.firstValueLine))
    (hlt : ∀ m ∈ t.line :: t.entries.map Entry.line, m < e.line) :
    (t.push e).Faithful numbered := by
  refine ⟨h.header, fun d hd => ?_, ?_⟩
  · rcases List.mem_append.mp hd with hd | hd
    · exact h.entry d hd
    · rwa [List.mem_singleton.mp hd]
  · change (t.line :: (t.entries ++ [e]).map Entry.line).Pairwise _
    rw [List.map_append, ← List.cons_append, List.pairwise_append]
    refine ⟨h.ascending, List.pairwise_singleton _ _, fun m hm l hl => ?_⟩
    rw [List.map_singleton, List.mem_singleton] at hl
    rw [hl]
    exact hlt m hm

end Section.Faithful

namespace Faithful

/-- A line that begins no new section leaves the numbers faithful. -/
theorem keep (h : Faithful numbered sections) (hrun : (State.run {} numbered).result = .ok s)
    (hquiet : ∀ name, s.StandsAlone line.1 → Statement.read (trim line.1) = .ok (.header name) →
      ∃ t ∈ sections, t.name = name ∧ t.line ≤ line.2) :
    Faithful (numbered ++ [line]) sections where
  each t ht := (h.each t ht).append _
  first n name hsaid := by
    rcases says_concat hrun hsaid with hsaid | ⟨rfl, halone, hread⟩
    · exact h.first n name hsaid
    · exact hquiet name halone hread
  ascending := h.ascending

theorem keep_of_not_standsAlone (h : Faithful numbered sections)
    (hrun : (State.run {} numbered).result = .ok s) (hno : ¬ s.StandsAlone line.1) :
    Faithful (numbered ++ [line]) sections :=
  h.keep hrun fun _ halone _ => absurd halone hno

/-- A section can be changed as long as its name, its number and its faithfulness stay. -/
theorem modify (h : Faithful numbered sections) {f : Section → Section} {p : Nat}
    (hname : ∀ t, (f t).name = t.name) (hline : ∀ t, (f t).line = t.line)
    (hf : ∀ t ∈ sections, (f t).Faithful numbered) : Faithful numbered (sections.modify p f) where
  each t ht := by
    rcases mem_or_of_mem_modify ht with ht | ⟨t, hget, rfl⟩
    · exact h.each t ht
    · exact hf t (List.mem_of_getElem? hget)
  first n name hsaid := by
    obtain ⟨t, ht, htname, hle⟩ := h.first n name hsaid
    obtain ⟨j, hj⟩ := List.getElem?_of_mem ht
    have hget : (sections.modify p f)[j]? = some (if p = j then f t else t) := by
      rw [List.getElem?_modify, hj]
      rfl
    refine ⟨_, List.mem_of_getElem? hget, ?_⟩
    split
    · exact ⟨(hname t).trans htname, hline t ▸ hle⟩
    · exact ⟨htname, hle⟩
  ascending := by
    rw [map_modify_eq hline]
    exact h.ascending

theorem opened (h : Faithful numbered sections) (hrun : (State.run {} numbered).result = .ok s)
    (hlt : ∀ m ∈ numbered.map Prod.snd, m < number) {name : String} (halone : s.StandsAlone raw)
    (hread : Statement.read (trim raw) = .ok (.header name)) :
    Faithful (numbered ++ [(raw, number)]) (sections ++ [{ name, line := number }]) := by
  refine ⟨?_, ?_, ?_⟩
  · intro t ht
    rcases List.mem_append.mp ht with ht | ht
    · exact (h.each t ht).append _
    · obtain rfl := List.mem_singleton.mp ht
      exact ⟨says_last hrun halone hread, by simp, List.pairwise_singleton _ _⟩
  · intro n name' hsaid
    rcases says_concat hrun hsaid with hsaid | ⟨rfl, -, hread'⟩
    · obtain ⟨t, ht, hname⟩ := h.first n name' hsaid
      exact ⟨t, List.mem_append_left _ ht, hname⟩
    · obtain ⟨rfl⟩ : name = name' := by simpa using hread.symm.trans hread'
      exact ⟨_, List.mem_append_right _ List.mem_cons_self, rfl, Nat.le_refl _⟩
  · rw [List.map_append, List.pairwise_append]
    refine ⟨h.ascending, List.pairwise_singleton _ _, ?_⟩
    intro m hm l hl
    obtain ⟨t, ht, rfl⟩ := List.mem_map.mp hm
    rw [List.map_singleton, List.mem_singleton] at hl
    rw [hl]
    exact hlt _ (h.each t ht).header.mem_numbers

/-- Whatever move the next line makes, the numbers stay faithful. -/
theorem move (h : Faithful numbered s.sections) (hrun : (State.run {} numbered).result = .ok s)
    (hlt : ∀ m ∈ numbered.map Prod.snd, m < number) (hn : '\n' ∉ raw)
    (hmove : s.Move raw number s') : Faithful (numbered ++ [(raw, number)]) s'.sections := by
  cases hmove with
  | blank hb => exact h.keep_of_not_standsAlone hrun fun halone => halone.ne_nil hb
  | comment hc =>
    refine h.keep_of_not_standsAlone hrun fun halone => ?_
    have hno := halone.no_comment
    rw [hc] at hno
    cases hno
  | dropped hb hd =>
    refine h.keep_of_not_standsAlone hrun fun halone => ?_
    have hno := (halone.fresh hb).1
    rw [hd] at hno
    cases hno
  | continued hb hcur hline =>
    have hkeep : Faithful (numbered ++ [(raw, number)]) s.sections := by
      refine h.keep_of_not_standsAlone hrun fun halone => ?_
      have hno := (halone.fresh hb).2
      rw [hcur] at hno
      cases hno
    exact hkeep.modify (fun _ => rfl) (fun _ => rfl) fun t ht => (hkeep.each t ht).extend _ _
  | reopened halone hread ht hname =>
    refine h.keep hrun fun name _ hread' => ?_
    have hmem := List.mem_of_getElem? ht
    obtain ⟨rfl⟩ : _ = name := by simpa using hread.symm.trans hread'
    exact ⟨_, hmem, hname, Nat.le_of_lt (hlt _ (h.each _ hmem).header.mem_numbers)⟩
  | opened halone hread hnew => exact h.opened hrun hlt halone hread
  | repeated halone hread ht hkey =>
    refine h.keep hrun fun name _ hread' => ?_
    cases hread.symm.trans hread'
  | @assigned key value p t halone hread ht hkey =>
    have hkeep : Faithful (numbered ++ [(raw, number)]) s.sections := by
      refine h.keep hrun fun name _ hread' => ?_
      cases hread.symm.trans hread'
    refine hkeep.modify (fun _ => rfl) (fun _ => rfl) fun u hu => (hkeep.each u hu).push ?_ ?_
    · rw [firstValueLine_of_read hn hread]
      exact says_last hrun halone hread
    · exact fun m hm => hlt m ((h.each u hu).mem_numbers m hm)

end Faithful

/-- What is read points at the lines it comes from. The induction is on the line read last. -/
theorem faithful_of_run (hn : ∀ line ∈ numbered, '\n' ∉ line.1)
    (hnumbers : (numbered.map Prod.snd).Pairwise (· < ·))
    (hrun : (State.run {} numbered).result = .ok s) : Faithful numbered s.sections := by
  induction numbered using List.reverseRecOn generalizing s with
  | nil =>
    obtain rfl := Except.ok.inj hrun
    refine ⟨by simp, ?_, .nil⟩
    intro n name hsaid
    cases hsaid.mem_numbers
  | append_singleton front line ih =>
    obtain ⟨t, ht, hstep⟩ := State.run_concat_eq_ok_iff.mp hrun
    rw [List.map_append, List.pairwise_append] at hnumbers
    have hfront := ih (fun l hl => hn l (List.mem_append_left _ hl)) hnumbers.1 ht
    have hlt : ∀ m ∈ front.map Prod.snd, m < line.2 := fun m hm =>
      hnumbers.2.2 m hm line.2 List.mem_cons_self
    exact hfront.move ht hlt (hn line (List.mem_append_right _ List.mem_cons_self))
      (State.move_of_step hstep)

/-- An entry is said by a line with its key before the first equals sign. -/
theorem Says.exists_split {key value : String} (h : Says numbered n (.entry key value)) :
    ∃ raw front back, (raw, n) ∈ numbered ∧ trim raw = front ++ '=' :: back ∧ '=' ∉ front ∧
      String.ofList (trim front) = key ∧ String.ofList (trim back) = value := by
  obtain ⟨text, halone, hread⟩ := h
  obtain ⟨raw, hmem, rfl⟩ := halone.exists_mem
  obtain ⟨front, back, htext, hno, -, hst⟩ :=
    Statement.readEntry_eq_ok_iff.mp (Statement.readEntry_of_read hread)
  obtain ⟨hkey, hvalue⟩ := Statement.entry.inj hst
  exact ⟨raw, front, back, hmem, htext, hno, hkey.symm, hvalue.symm⟩

/-- Line `number` is the first header of that name. -/
def FirstHeader (text : String) (number : Nat) (name : String) : Prop :=
  Says (numberedLines text) number (.header name) ∧
    ∀ n, Says (numberedLines text) n (.header name) → number ≤ n

/-- The number of a section is that of its first header, the number of an entry that of the line
with its key, and the numbers go up. -/
theorem faithful_of_read {text : String} (h : (read text).result = .ok sections) :
    Faithful (numberedLines text) sections := by
  obtain ⟨s, hs, rfl⟩ := read_eq_ok_iff.mp h
  exact faithful_of_run (fun _ => newline_not_mem_of_mem_numberedLines)
    (pairwise_numberedLines text) hs

theorem firstHeader_of_read {text : String} (h : (read text).result = .ok sections) {t : Section}
    (ht : t ∈ sections) : FirstHeader text t.line t.name := by
  have hfaithful := faithful_of_read h
  refine ⟨(hfaithful.each t ht).header, fun n hsaid => ?_⟩
  obtain ⟨u, hu, hname, hle⟩ := hfaithful.first n t.name hsaid
  rwa [List.inj_on_of_nodup_map (wellFormed_of_read h).nodup_names hu ht hname] at hle

/-- An entry stands where its key is assigned to first in its section. -/
theorem line_find?_assignments {text : String} (h : (read text).result = .ok sections) {t : Section}
    (ht : t ∈ sections) {e : Entry} (he : e ∈ t.entries) :
    (Keyed.find? Assignment.slot (t.name, e.key) (assignments text)).map Assignment.line =
      some e.line := by
  have hwf := wellFormed_of_read h
  obtain ⟨s, hs, rfl⟩ := read_eq_ok_iff.mp h
  obtain ⟨-, m, hlast⟩ := State.valid_empty.events_run .empty
    (fun _ => newline_not_mem_of_mem_numberedLines) hs
  have hfind : t.find? e.key = some e :=
    Keyed.find?_eq_some_of_mem (hwf.wellFormed t ht).nodup_keys he
  have hline := hlast.lines t.name e.key
  rw [State.view, kept?_of_mem hwf.nodup_names ht, hfind] at hline
  exact hline.symm

end SwitchInventory.Config
