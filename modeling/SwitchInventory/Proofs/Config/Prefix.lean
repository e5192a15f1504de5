import SwitchInventory.Proofs.Config.LineNumbers
import SwitchInventory.Proofs.Config.RoundTrip
import SwitchInventory.Proofs.Text.Endings

namespace SwitchInventory.Config

open SwitchInventory.Lists SwitchInventory.Text

/-- The entry with further lines in its value. -/
def Entry.continued (e : Entry) (more : List (List Char)) : Entry :=
  { e with value := String.ofList (['\n'].intercalate (e.value.toList :: more)) }

theorem Entry.continued_nil (e : Entry) : e.continued [] = e := by
  rw [continued, List.intercalate_singleton, String.ofList_toList]

theorem Entry.extend_continued (e : Entry) (more : List (List Char)) (line : List Char) :
    (e.continued more).extend (String.ofList line) = e.continued (more ++ [line]) := by
  rw [continued, continued, ← foldl_extend_eq, ← foldl_extend_eq, List.foldl_append]
  rfl

/-- What `s` has read stands in `s'` at the same place, with the lines of `more` added to the entry
that `s` continues. -/
structure State.Within (s : State) (more : List (List Char)) (s' : State) : Prop where
  sections : ∀ p t, s.sections[p]? = some t → ∃ u, s'.sections[p]? = some u ∧ u.name = t.name ∧
    u.line = t.line ∧ ∀ i e, t.entries[i]? = some e →
      u.entries[i]? = some (if s.cursor = .value p i then e.continued more else e)
  cursor : ∀ p i, s'.cursor = .value p i →
    s.cursor = .value p i ∨ ∀ t, s.sections[p]? = some t → t.entries.length ≤ i

private theorem State.exists_section_extend {s : State} {q : Nat} {u : Section}
    (h : s.sections[q]? = some u) (p i : Nat) (text : String) :
    ∃ v, (s.extend p i text).sections[q]? = some v ∧ v.name = u.name ∧ v.line = u.line ∧
      ∀ (j : Nat) e, u.entries[j]? = some e →
        v.entries[j]? = some (if Cursor.value p i = .value q j then e.extend text else e) := by
  by_cases hq : p = q
  · subst hq
    refine ⟨u.extend i text, by simp [State.extend, h], rfl, rfl, fun j e he => ?_⟩
    by_cases hj : i = j <;> simp [Section.extend, he, hj]
  · refine ⟨u, by simp [State.extend, hq, h], rfl, rfl, fun j e he => ?_⟩
    rw [if_neg fun heq => hq (Cursor.value.inj heq).1]
    exact he

namespace State.Within

variable {s s' s'' : State} {more : List (List Char)} {raw : List Char} {number p i : Nat}

theorem refl (s : State) : s.Within [] s where
  sections p t ht := by
    refine ⟨t, ht, rfl, rfl, fun i e he => ?_⟩
    rw [Entry.continued_nil, ite_self]
    exact he
  cursor p i h := .inl h

/-- Going to a place without an entry to continue changes nothing that was read. -/
theorem moveTo (h : s.Within more s') {cursor : Cursor} (hcursor : ∀ p i, cursor ≠ .value p i) :
    s.Within more { s' with cursor } where
  sections := h.sections
  cursor p i heq := absurd heq (hcursor p i)

theorem concat (h : s.Within more s') (t : Section) {cursor : Cursor}
    (hcursor : ∀ p i, cursor ≠ .value p i) : s.Within more ⟨s'.sections ++ [t], cursor⟩ where
  sections p u hu := by
    obtain ⟨v, hv, hrest⟩ := h.sections p u hu
    refine ⟨v, ?_, hrest⟩
    rw [List.getElem?_append_left (List.getElem?_eq_some_iff.mp hv).1]
    exact hv
  cursor p i heq := absurd heq (hcursor p i)

theorem length_le (h : s.Within more s') {t u : Section} (ht : s.sections[p]? = some t)
    (hu : s'.sections[p]? = some u) : t.entries.length ≤ u.entries.length := by
  obtain ⟨v, hv, -, -, hentries⟩ := h.sections p t ht
  obtain rfl := Option.some.inj (hu.symm.trans hv)
  by_contra hlt
  have he := hentries u.entries.length _ (List.getElem?_eq_getElem (by omega))
  rw [List.getElem?_eq_none (Nat.le_refl _)] at he
  cases he

theorem push (h : s.Within more s') {t : Section} (ht : s'.sections[p]? = some t) (e : Entry) :
    s.Within more ⟨s'.sections.modify p (·.push e), .value p t.entries.length⟩ where
  sections q u hu := by
    obtain ⟨v, hv, hname, hline, hentries⟩ := h.sections q u hu
    by_cases hq : p = q
    · subst hq
      refine ⟨v.push e, by rw [List.getElem?_modify_eq, hv]; rfl, hname, hline, fun i d hd => ?_⟩
      have hget := hentries i d hd
      change (v.entries ++ [e])[i]? = _
      rw [List.getElem?_append_left (List.getElem?_eq_some_iff.mp hget).1]
      exact hget
    · refine ⟨v, ?_, hname, hline, hentries⟩
      change (s'.sections.modify p _)[q]? = _
      rw [List.getElem?_modify_ne _ _ hq]
      exact hv
  cursor q i heq := by
    obtain ⟨rfl, rfl⟩ := Cursor.value.inj heq
    exact .inr fun u hu => h.length_le hu ht

/-- A further line of a value goes to the entry that `s` continues, or to one that `s` does not
have. -/
theorem extend (h : s.Within more s') (hcur : s'.cursor = .value p i) (line : List Char) :
    ∃ new, (new = [] ∨ new = [line]) ∧
      s.Within (more ++ new) (s'.extend p i (String.ofList line)) := by
  -- The entry is either the one that `s` is at, or one that was read after `s`.
  by_cases hopen : s.cursor = .value p i
  · refine ⟨[line], .inr rfl, ?_, h.cursor⟩
    intro q t ht
    obtain ⟨u, hu, hname, hline, hentries⟩ := h.sections q t ht
    obtain ⟨v, hv, hvname, hvline, hventries⟩ := State.exists_section_extend hu p i (String.ofList line)
    refine ⟨v, hv, hvname.trans hname, hvline.trans hline, fun j e he => ?_⟩
    have hget := hventries j _ (hentries j e he)
    rw [hopen] at hget ⊢
    by_cases hsame : Cursor.value p i = .value q j
    · simp only [if_pos hsame, Entry.extend_continued] at hget ⊢
      exact hget
    · simp only [if_neg hsame] at hget ⊢
      exact hget
  · have hbeyond := (h.cursor p i hcur).resolve_left hopen
    refine ⟨[], .inl rfl, ?_, h.cursor⟩
    rw [List.append_nil]
    intro q t ht
    obtain ⟨u, hu, hname, hline, hentries⟩ := h.sections q t ht
    obtain ⟨v, hv, hvname, hvline, hventries⟩ := State.exists_section_extend hu p i (String.ofList line)
    refine ⟨v, hv, hvname.trans hname, hvline.trans hline, fun j e he => ?_⟩
    have hother : Cursor.value p i ≠ .value q j := by
      intro heq
      obtain ⟨rfl, rfl⟩ := Cursor.value.inj heq
      have hlt := (List.getElem?_eq_some_iff.mp he).1
      have hle := hbeyond t ht
      omega
    have hget := hventries j _ (hentries j e he)
    rwa [if_neg hother] at hget

theorem move (h : s.Within more s') (hmove : s'.Move raw number s'') :
    ∃ new, new.Sublist [trim raw] ∧ (∀ line ∈ new, Continues line) ∧
      s.Within (more ++ new) s'' := by
  have hsame (s'' : State) (h : s.Within more s'') : ∃ new, new.Sublist [trim raw] ∧
      (∀ line ∈ new, Continues line) ∧ s.Within (more ++ new) s'' :=
    ⟨[], List.nil_sublist _, by simp, by rwa [List.append_nil]⟩
  cases hmove with
  | blank hb =>
    refine hsame _ (h.moveTo fun p i => ?_)
    cases s'.cursor <;> simp [Cursor.close]
  | comment hc => exact hsame _ h
  | dropped hb hd => exact hsame _ h
  | continued hb hcur hline =>
    obtain ⟨new, hnew, hwithin⟩ := h.extend hcur (trim raw)
    refine ⟨new, ?_, ?_, hwithin⟩
    · rcases hnew with rfl | rfl
      · exact List.nil_sublist _
      · exact .refl _
    · rcases hnew with rfl | rfl
      · simp
      · simpa using hline
  | reopened halone hread ht hname => exact hsame _ (h.moveTo (by simp))
  | opened halone hread hnew => exact hsame _ (h.concat _ (by simp))
  | repeated halone hread ht hkey => exact hsame _ (h.moveTo (by simp))
  | assigned halone hread ht hkey => exact hsame _ (h.push ht _)

/-- What has been read stays where it is, whatever lines follow. -/
theorem run (h : s.Within more s') {numbered : List (List Char × Nat)}
    (hrun : (s'.run numbered).result = .ok s'') :
    ∃ new, new.Sublist (numbered.map fun line => trim line.1) ∧ (∀ line ∈ new, Continues line) ∧
      s.Within (more ++ new) s'' := by
  induction numbered generalizing s' more with
  | nil =>
    obtain rfl := Except.ok.inj hrun
    exact ⟨[], .slnil, by simp, by rwa [List.append_nil]⟩
  | cons line rest ih =>
    obtain ⟨t, hstep, hrest⟩ := State.run_cons_eq_ok_iff.mp hrun
    obtain ⟨new, hsub, hcont, hwithin⟩ := h.move (State.move_of_step hstep)
    obtain ⟨new', hsub', hcont', hwithin'⟩ := ih hwithin hrest
    refine ⟨new ++ new', hsub.append hsub', ?_, by rwa [← List.append_assoc]⟩
    intro l hl
    exact (List.mem_append.mp hl).elim (hcont l) (hcont' l)

end State.Within

/-- No entry of the sections stands on a later line. -/
def LastRead (sections : List Section) (e : Entry) : Prop :=
  ∀ t ∈ sections, ∀ d ∈ t.entries, d.line ≤ e.line

/-- The entry that an indented line continues is the one read last. -/
def State.ContinuesLast (s : State) : Prop :=
  ∀ p i t e, s.cursor = .value p i → s.sections[p]? = some t → t.entries[i]? = some e →
    LastRead s.sections e

theorem State.ContinuesLast.move {s s' : State} {raw : List Char} {number : Nat}
    (h : s.ContinuesLast) (hlt : ∀ t ∈ s.sections, ∀ d ∈ t.entries, d.line < number)
    (hmove : s.Move raw number s') : s'.ContinuesLast := by
  cases hmove with
  | blank hb =>
    intro p i t e hcur
    exfalso
    revert hcur
    change s.cursor.close ≠ _
    cases s.cursor <;> simp [Cursor.close]
  | comment hc => exact h
  | dropped hb hd => exact h
  | @continued q j hb hcur hline =>
    intro p i t e hcur' ht he
    obtain ⟨rfl, rfl⟩ := Cursor.value.inj (hcur.symm.trans hcur')
    obtain ⟨t₀, ht₀, rfl⟩ : ∃ t₀, s.sections[q]? = some t₀ ∧ t₀.extend j _ = t := by
      simpa [State.extend] using ht
    obtain ⟨e₀, he₀, rfl⟩ : ∃ e₀, t₀.entries[j]? = some e₀ ∧ e₀.extend _ = e := by
      simpa [Section.extend] using he
    intro u hu d hd
    rcases mem_or_of_mem_modify hu with hu | ⟨u, hget, rfl⟩
    · exact h q j t₀ e₀ hcur ht₀ he₀ u hu d hd
    · have hmem := List.mem_of_getElem? hget
      rcases mem_or_of_mem_modify hd with hd | ⟨d, hgot, rfl⟩
      · exact h q j t₀ e₀ hcur ht₀ he₀ u hmem d hd
      · exact h q j t₀ e₀ hcur ht₀ he₀ u hmem d (List.mem_of_getElem? hgot)
  | reopened halone hread ht hname =>
    intro p i t e hcur
    cases hcur
  | opened halone hread hnew =>
    intro p i t e hcur
    cases hcur
  | repeated halone hread ht hkey =>
    intro p i t e hcur
    cases hcur
  | @assigned key value q t₀ halone hread ht₀ hkey =>
    intro p i t e hcur ht he
    obtain ⟨rfl, rfl⟩ := Cursor.value.inj hcur
    obtain rfl : t₀.push { key, value, line := number } = t := by simpa [ht₀] using ht
    obtain rfl : { key, value, line := number } = e := by simpa [Section.push] using he
    intro u hu d hd
    rcases mem_or_of_mem_modify hu with hu | ⟨u, hget, rfl⟩
    · exact Nat.le_of_lt (hlt u hu d hd)
    · rcases List.mem_append.mp hd with hd | hd
      · exact Nat.le_of_lt (hlt u (List.mem_of_getElem? hget) d hd)
      · rw [List.mem_singleton.mp hd]

/-- An indented line always belongs to the entry read last. -/
theorem State.continuesLast_of_run {numbered : List (List Char × Nat)}
    (hn : ∀ line ∈ numbered, '\n' ∉ line.1)
    (hnumbers : (numbered.map Prod.snd).Pairwise (· < ·)) {s : State}
    (hrun : (State.run {} numbered).result = .ok s) : s.ContinuesLast := by
  induction numbered using List.reverseRecOn generalizing s with
  | nil =>
    obtain rfl := Except.ok.inj hrun
    intro p i t e hcur
    cases hcur
  | append_singleton front line ih =>
    obtain ⟨t, ht, hstep⟩ := State.run_concat_eq_ok_iff.mp hrun
    rw [List.map_append, List.pairwise_append] at hnumbers
    have hnf : ∀ l ∈ front, '\n' ∉ l.1 := fun l hl => hn l (List.mem_append_left _ hl)
    have hfaithful := faithful_of_run hnf hnumbers.1 ht
    refine (ih hnf hnumbers.1 ht).move ?_ (State.move_of_step hstep)
    intro u hu d hd
    exact hnumbers.2.2 _ ((hfaithful.each u hu).entry d hd).mem_numbers _ List.mem_cons_self

/-- The text that consists of the first `k` lines, each with its end. -/
def firstLines (text : String) (k : Nat) : String :=
  String.ofList (joinEnded ((endedLines text.toList).take k))

/-- The first lines are read as the lines that they are. -/
theorem lines_firstLines (text : String) (k : Nat) :
    lines (firstLines text k).toList = (lines text.toList).take k := by
  rw [firstLines, String.toList_ofList, lines_joinEnded_of_sublist (List.take_sublist k _),
    List.map_take, map_fst_endedLines]

private theorem numberedLines_eq_take {text front : String} {k : Nat}
    (h : lines front.toList = (lines text.toList).take k) :
    numberedLines front = (numberedLines text).take k := by
  rw [take_numberedLines, ← h]
  rfl

/-- The sections of `early` in their places in `sections`, with the same entries in front; the lines
of `more` can have been added to the value of the entry read last. -/
def StandsIn (early : List Section) (more : List (List Char)) (sections : List Section) : Prop :=
  ∀ (p : Nat) t, early[p]? = some t → ∃ u, sections[p]? = some u ∧ u.name = t.name ∧
    u.line = t.line ∧ ∀ (i : Nat) e, t.entries[i]? = some e →
      u.entries[i]? = some e ∨ LastRead early e ∧ u.entries[i]? = some (e.continued more)

theorem State.Within.standsIn {s s' : State} {more : List (List Char)} (h : s.Within more s')
    (hlast : s.ContinuesLast) : StandsIn s.sections more s'.sections := by
  intro p t ht
  obtain ⟨u, hu, hname, hline, hentries⟩ := h.sections p t ht
  refine ⟨u, hu, hname, hline, fun i e he => ?_⟩
  have hget := hentries i e he
  by_cases hcur : s.cursor = .value p i
  · rw [if_pos hcur] at hget
    exact .inr ⟨hlast p i t e hcur ht he, hget⟩
  · rw [if_neg hcur] at hget
    exact .inl hget

/-- The error of a text is that of its first malformed line, whatever follows. -/
theorem line_of_read_error {text : String} {e : FormatError} (h : (read text).result = .error e) :
    ∃ n, e.line = some n ∧ 1 ≤ n ∧ n ≤ lineCount text ∧
      (∀ front : String, lines front.toList = (lines text.toList).take (n - 1) →
        ∃ sections, (read front).result = .ok sections) ∧
      ∀ other : String, (lines other.toList).take n = (lines text.toList).take n →
        (read other).result = .error e := by
  obtain ⟨front, ⟨raw, n⟩, back, s, hsplit, hs, hstep⟩ :=
    State.run_eq_error_iff.mp (read_eq_error_iff.mp h)
  have hn := number_of_numberedLines_eq hsplit
  have hmem : (raw, n) ∈ numberedLines text := by simp [hsplit]
  obtain ⟨hle, hge⟩ := bounds_of_mem_numberedLines hmem
  refine ⟨n, State.line_of_step hstep, hle, hge, ?_, ?_⟩
  · intro first hfirst
    have hnumbered : numberedLines first = front := by
      rw [numberedLines_eq_take hfirst, hsplit, hn, Nat.add_sub_cancel, List.take_left]
    exact ⟨s.sections, read_eq_ok_iff.mpr ⟨s, hnumbered ▸ hs, rfl⟩⟩
  · intro other hother
    have hfront : (numberedLines other).take n = front ++ [(raw, n)] := by
      have hcons : front ++ (raw, n) :: back = (front ++ [(raw, n)]) ++ back := by simp
      rw [take_numberedLines, hother, ← take_numberedLines, hsplit, hcons]
      exact List.take_left' (by simp [hn])
    have hnumbered : numberedLines other = front ++ (raw, n) :: (numberedLines other).drop n := by
      have hall := List.take_append_drop n (numberedLines other)
      rw [hfront, List.append_assoc] at hall
      exact hall.symm
    -- The same lines lead to the same state before line `n`, whatever follows it.
    rw [read_eq_error_iff, State.run_eq_error_iff]
    exact ⟨front, (raw, n), _, s, hnumbered, hs, hstep⟩

/-- The first lines of a text without malformed lines are read, to a part of what all lines say. -/
theorem read_front_of_read {text front : String} {sections : List Section} {k : Nat}
    (h : (read text).result = .ok sections)
    (hfront : lines front.toList = (lines text.toList).take k) :
    ∃ early more, (read front).result = .ok early ∧
      more.Sublist (((lines text.toList).drop k).map trim) ∧ (∀ line ∈ more, Continues line) ∧
      StandsIn early more sections := by
  obtain ⟨s', hs', rfl⟩ := read_eq_ok_iff.mp h
  rw [← List.take_append_drop k (numberedLines text), State.run_append_eq_ok_iff] at hs'
  obtain ⟨s, hs, hrest⟩ := hs'
  have hlast : s.ContinuesLast := by
    refine State.continuesLast_of_run ?_ ?_ hs
    · intro line hline
      exact newline_not_mem_of_mem_numberedLines (List.mem_of_mem_take hline)
    · rw [List.map_take]
      exact (pairwise_numberedLines text).sublist (List.take_sublist k _)
  obtain ⟨more, hsub, hcontinues, hwithin⟩ := (State.Within.refl s).run hrest
  have hdrop : ((numberedLines text).drop k).map (fun line => trim line.1) =
      ((lines text.toList).drop k).map trim := by
    rw [← map_fst_numberedLines, List.map_drop, ← List.map_drop, ← List.map_drop, List.map_map]
    rfl
  refine ⟨s.sections, more, ?_, hdrop ▸ hsub, hcontinues, hwithin.standsIn hlast⟩
  rw [read_eq_ok_iff]
  exact ⟨s, numberedLines_eq_take hfront ▸ hs, rfl⟩

/-- The reader stops at the first malformed line, and what it has read up to a line it keeps. -/
theorem read_stops_and_keeps (text : String) :
    (∀ e, (read text).result = .error e → ∃ n, e.line = some n ∧ 1 ≤ n ∧ n ≤ lineCount text ∧
      (∀ front : String, lines front.toList = (lines text.toList).take (n - 1) →
        ∃ sections, (read front).result = .ok sections) ∧
      ∀ other : String, (lines other.toList).take n = (lines text.toList).take n →
        (read other).result = .error e) ∧
    ∀ sections, (read text).result = .ok sections →
      ∀ (k : Nat) (front : String), lines front.toList = (lines text.toList).take k →
        ∃ early more, (read front).result = .ok early ∧
          more.Sublist (((lines text.toList).drop k).map trim) ∧
          (∀ line ∈ more, Continues line) ∧ StandsIn early more sections :=
  ⟨fun _ h => line_of_read_error h, fun _ h _ _ hfront => read_front_of_read h hfront⟩

/-- A text with a malformed fourth line, and an unclosed header after it. -/
def malformedText : String := "[a]\nk = 1\n  more\nj\n[b"

/-- A text whose third line continues a value, with a section that is taken up again. -/
def continuedText : String := "[a]\r\nk = 1\n  more\n[b]\n[a]\nj=2\n"

theorem read_malformedText_and_continuedText :
    (read (firstLines malformedText 3)).result = .ok [⟨"a", 1, [⟨"k", "1\nmore", 2⟩]⟩] ∧
      (read "[a]\r\nk = 1\n  more\nj\n\n; more").result =
        .error ⟨.missingValueSeparator, "j", some 4⟩ ∧
      (read (firstLines continuedText 2)).result = .ok [⟨"a", 1, [⟨"k", "1", 2⟩]⟩] ∧
      ∃ more, (∀ line ∈ more, Continues line) ∧
        StandsIn [⟨"a", 1, [⟨"k", "1", 2⟩]⟩] more
          [⟨"a", 1, [⟨"k", "1\nmore", 2⟩, ⟨"j", "2", 6⟩]⟩, ⟨"b", 4, []⟩] := by
  have herror : (read malformedText).result = .error ⟨.missingValueSeparator, "j", some 4⟩ := by rfl
  have hread : (read continuedText).result =
      .ok [⟨"a", 1, [⟨"k", "1\nmore", 2⟩, ⟨"j", "2", 6⟩]⟩, ⟨"b", 4, []⟩] := by rfl
  have hthree : (read (firstLines malformedText 3)).result =
      .ok [⟨"a", 1, [⟨"k", "1\nmore", 2⟩]⟩] := by rfl
  have htwo : (read (firstLines continuedText 2)).result = .ok [⟨"a", 1, [⟨"k", "1", 2⟩]⟩] := by rfl
  obtain ⟨n, hn, -, -, hfront, hother⟩ := (read_stops_and_keeps malformedText).1 _ herror
  obtain rfl : 4 = n := Option.some.inj hn
  obtain ⟨kept, hkept⟩ := hfront _ (lines_firstLines malformedText 3)
  obtain ⟨early, more, hearly, -, hmore, hstands⟩ :=
    (read_stops_and_keeps continuedText).2 _ hread 2 _ (lines_firstLines continuedText 2)
  obtain rfl := Except.ok.inj (hkept.symm.trans hthree)
  obtain rfl := Except.ok.inj (hearly.symm.trans htwo)
  exact ⟨hkept, hother _ (by decide), hearly, more, hmore, hstands⟩

end SwitchInventory.Config
