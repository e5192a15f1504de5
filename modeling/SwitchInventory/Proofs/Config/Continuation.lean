import SwitchInventory.Proofs.Config.Prefix
import SwitchInventory.Proofs.Config.Registers

namespace SwitchInventory.Config

open SwitchInventory.Text

/-- A line below which the value above it can still go on: a comment, or an indented line with a
text. -/
def LeavesOpen (raw : List Char) : Prop :=
  trim raw ≠ [] ∧ (isComment (trim raw) = true ∨ startsBlank raw = true)

/-- The texts of the lines that are no comments. -/
def valueLines (below : List (List Char × Nat)) : List (List Char) :=
  (below.map fun line => trim line.1).filter fun text => !isComment text

/-- The lines end with those of `e`: the one that it was read from and, below it, comments and the
further lines of its value, which holds all of these. -/
def EndsWith (numbered : List (List Char × Nat)) (e : Entry) : Prop :=
  ∃ above raw below s value, numbered = above ++ (raw, e.line) :: below ∧
    (State.run {} above).result = .ok s ∧ s.StandsAlone raw ∧
    Statement.read (trim raw) = .ok (.entry e.key value) ∧
    (∀ line ∈ below, LeavesOpen line.1) ∧
    Entry.continued ⟨e.key, value, e.line⟩ (valueLines below) = e

/-- Of all that the lines say, headers and dropped entries included, `e` was read last. -/
structure Latest (numbered : List (List Char × Nat)) (e : Entry) : Prop where
  last : ∀ n st, Says numbered n st → n ≤ e.line
  lines : EndsWith numbered e

private theorem valueLines_concat_comment {below : List (List Char × Nat)}
    {line : List Char × Nat} (h : isComment (trim line.1) = true) :
    valueLines (below ++ [line]) = valueLines below := by
  simp [valueLines, h]

private theorem valueLines_concat {below : List (List Char × Nat)} {line : List Char × Nat}
    (h : isComment (trim line.1) = false) :
    valueLines (below ++ [line]) = valueLines below ++ [trim line.1] := by
  simp [valueLines, h]

variable {numbered : List (List Char × Nat)} {s s' : State} {e : Entry} {raw : List Char}
  {number n p i : Nat} {key value : String} {st : Statement}

theorem EndsWith.comment (h : EndsWith numbered e) (hc : isComment (trim raw) = true) :
    EndsWith (numbered ++ [(raw, number)]) e := by
  obtain ⟨above, first, below, s, value, rfl, hrun, halone, hread, hopen, hvalue⟩ := h
  have hne : trim raw ≠ [] := by
    intro hnil
    simp [hnil, isComment] at hc
  refine ⟨above, first, below ++ [(raw, number)], s, value, by simp, hrun, halone, hread, ?_, ?_⟩
  · exact List.forall_mem_append.mpr ⟨hopen, List.forall_mem_singleton.mpr ⟨hne, .inl hc⟩⟩
  · rw [valueLines_concat_comment hc]
    exact hvalue

theorem EndsWith.extend (h : EndsWith numbered e) (hb : startsBlank raw = true)
    (hline : Continues (trim raw)) :
    EndsWith (numbered ++ [(raw, number)]) (e.extend (String.ofList (trim raw))) := by
  obtain ⟨hne, -, hc⟩ := hline
  obtain ⟨above, first, below, s, value, rfl, hrun, halone, hread, hopen, hvalue⟩ := h
  refine ⟨above, first, below ++ [(raw, number)], s, value, by simp [Entry.extend], hrun, halone,
    hread, ?_, ?_⟩
  · exact List.forall_mem_append.mpr ⟨hopen, List.forall_mem_singleton.mpr ⟨hne, .inr hb⟩⟩
  · rw [valueLines_concat hc, ← Entry.extend_continued]
    exact congrArg (·.extend (String.ofList (trim raw))) hvalue

/-- A line that is not read on its own says nothing new. -/
theorem says_of_not_standsAlone (hrun : (State.run {} numbered).result = .ok s)
    (hno : ¬ s.StandsAlone raw) (h : Says (numbered ++ [(raw, number)]) n st) : Says numbered n st := by
  rcases says_concat hrun h with h | ⟨-, halone, -⟩
  · exact h
  · exact absurd halone hno

theorem Latest.comment (h : Latest numbered e) (hrun : (State.run {} numbered).result = .ok s)
    (hc : isComment (trim raw) = true) : Latest (numbered ++ [(raw, number)]) e := by
  have hno : ¬ s.StandsAlone raw := fun halone => by simp [halone.no_comment] at hc
  exact ⟨fun n st hsaid => h.last n st (says_of_not_standsAlone hrun hno hsaid), h.lines.comment hc⟩

theorem Latest.extend (h : Latest numbered e) (hrun : (State.run {} numbered).result = .ok s)
    (hcur : s.cursor = .value p i) (hb : startsBlank raw = true) (hline : Continues (trim raw)) :
    Latest (numbered ++ [(raw, number)]) (e.extend (String.ofList (trim raw))) := by
  have hno : ¬ s.StandsAlone raw := by
    intro halone
    have hcont := (halone.fresh hb).2
    simp [hcur, Cursor.continued?] at hcont
  exact ⟨fun n st hsaid => h.last n st (says_of_not_standsAlone hrun hno hsaid),
    h.lines.extend hb hline⟩

/-- An entry that was read just now is the latest. -/
theorem latest_of_read (hrun : (State.run {} numbered).result = .ok s)
    (hlt : ∀ m ∈ numbered.map Prod.snd, m < number) (halone : s.StandsAlone raw)
    (hread : Statement.read (trim raw) = .ok (.entry key value)) :
    Latest (numbered ++ [(raw, number)]) ⟨key, value, number⟩ where
  last n st hsaid := by
    rcases says_concat hrun hsaid with hsaid | ⟨rfl, -, -⟩
    · exact Nat.le_of_lt (hlt n hsaid.mem_numbers)
    · exact Nat.le_refl _
  lines := ⟨numbered, raw, [], s, value, rfl, hrun, halone, hread, by simp, Entry.continued_nil _⟩

namespace State

/-- The entry that an indented line continues. -/
def open? (s : State) : Option Entry :=
  s.cursor.continued?.bind fun (p, i) => s.sections[p]?.bind (·.entries[i]?)

theorem open?_close (s : State) : State.open? { s with cursor := s.cursor.close } = none := by
  obtain ⟨sections, cursor⟩ := s
  cases cursor <;> rfl

theorem open?_of_isDropping (h : s.cursor.isDropping = true) : s.open? = none := by
  obtain ⟨sections, cursor⟩ := s
  cases cursor with
  | dropped p => rfl
  | _ => cases h

theorem open?_extend (hcur : s.cursor = .value p i) (text : String) :
    (s.extend p i text).open? = s.open?.map (·.extend text) := by
  obtain ⟨sections, cursor⟩ := s
  obtain rfl : cursor = .value p i := hcur
  cases ht : sections[p]? with
  | none => simp [open?, State.extend, Cursor.continued?, ht]
  | some t => simp [open?, State.extend, Section.extend, Cursor.continued?, ht]

theorem open?_assigned {t : Section} {sections : List Section} (ht : sections[p]? = some t)
    (e : Entry) :
    State.open? ⟨sections.modify p (·.push e), .value p t.entries.length⟩ = some e := by
  simp [open?, Cursor.continued?, Section.push, ht]

/-- What a line opens for continuation is what was read last. -/
theorem latest_of_move (h : ∀ e, s.open? = some e → Latest numbered e)
    (hrun : (State.run {} numbered).result = .ok s) (hlt : ∀ m ∈ numbered.map Prod.snd, m < number)
    (hmove : s.Move raw number s') (hopen : s'.open? = some e) :
    Latest (numbered ++ [(raw, number)]) e := by
  cases hmove with
  | blank hb =>
    rw [open?_close] at hopen
    cases hopen
  | comment hc => exact (h e hopen).comment hrun hc
  | dropped hb hd =>
    rw [open?_of_isDropping hd] at hopen
    cases hopen
  | continued hb hcur hline =>
    rw [open?_extend hcur] at hopen
    obtain ⟨d, hd, rfl⟩ := Option.map_eq_some_iff.mp hopen
    exact (h d hd).extend hrun hcur hb hline
  | reopened halone hread ht hname => cases hopen
  | opened halone hread hnew => cases hopen
  | repeated halone hread ht hkey => cases hopen
  | assigned halone hread ht hkey =>
    rw [open?_assigned ht] at hopen
    obtain rfl := Option.some.inj hopen
    exact latest_of_read hrun hlt halone hread

/-- The open entry is the one read last. The induction is on the line read last. -/
theorem latest_of_run (hnumbers : (numbered.map Prod.snd).Pairwise (· < ·))
    (hrun : (State.run {} numbered).result = .ok s) (hopen : s.open? = some e) :
    Latest numbered e := by
  induction numbered using List.reverseRecOn generalizing s e with
  | nil =>
    obtain rfl := Except.ok.inj hrun
    cases hopen
  | append_singleton front line ih =>
    obtain ⟨t, ht, hstep⟩ := run_concat_eq_ok_iff.mp hrun
    rw [List.map_append, List.pairwise_append] at hnumbers
    have hlt : ∀ m ∈ front.map Prod.snd, m < line.2 := fun m hm =>
      hnumbers.2.2 m hm line.2 List.mem_cons_self
    exact latest_of_move (fun _ => ih hnumbers.1 ht) ht hlt (move_of_step hstep) hopen

/-- A line that adds to the open entry does nothing else; any other line changes no entry. -/
theorem Move.within_or_extend (hmove : s.Move raw number s') :
    s.Within [] s' ∨ ∃ p i, startsBlank raw = true ∧ s.cursor = .value p i ∧
      s' = s.extend p i (String.ofList (trim raw)) := by
  have hself := Within.refl s
  cases hmove with
  | blank hb =>
    refine .inl (hself.moveTo fun p i => ?_)
    cases s.cursor <;> simp [Cursor.close]
  | comment hc => exact .inl hself
  | dropped hb hd => exact .inl hself
  | continued hb hcur hline => exact .inr ⟨_, _, hb, hcur, rfl⟩
  | reopened halone hread ht hname => exact .inl (hself.moveTo (by simp))
  | opened halone hread hnew => exact .inl (hself.concat _ (by simp))
  | repeated halone hread ht hkey => exact .inl (hself.moveTo (by simp))
  | assigned halone hread ht hkey => exact .inl (hself.push ht _)

end State

/-- What the line `raw`, below the lines `numbered`, makes of the registers `r`. Either it changes
no entry and at most adds some, or it is an indented line that continues the entry read last, and
does no more. -/
def Registers.Grows (r : Registers) (numbered : List (List Char × Nat)) (raw : List Char)
    (r' : Registers) : Prop :=
  (∀ (p : Nat) t, r.sections[p]? = some t → ∃ u, r'.sections[p]? = some u ∧ u.name = t.name ∧
      u.line = t.line ∧ t.entries <+: u.entries) ∨
    ∃ p i t e, startsBlank raw = true ∧ r.skipping = false ∧ r.current = some p ∧
      r.continuing = some i ∧ r.sections[p]? = some t ∧ t.entries[i]? = some e ∧ Latest numbered e ∧
      r' = { r with sections := r.sections.modify p (·.extend i (String.ofList (trim raw))) }

/-- A line adds at most entries, or one more line to the value of the entry read last. -/
theorem State.grows_of_move (h : s.registers.Sound)
    (hnumbers : (numbered.map Prod.snd).Pairwise (· < ·))
    (hrun : (State.run {} numbered).result = .ok s) (hmove : s.Move raw number s') :
    s.registers.Grows numbered raw s'.registers := by
  rcases hmove.within_or_extend with hwithin | ⟨p, i, hb, hcur, rfl⟩
  · refine .inl fun p t ht => ?_
    obtain ⟨u, hu, hname, hline, hentries⟩ := hwithin.sections p t ht
    refine ⟨u, hu, hname, hline, List.prefix_iff_getElem?.mpr fun i hi => ?_⟩
    have hget := hentries i _ (List.getElem?_eq_getElem hi)
    rwa [Entry.continued_nil, ite_self] at hget
  · obtain ⟨sections, cursor⟩ := s
    obtain rfl : cursor = .value p i := hcur
    obtain ⟨q, t, hq, ht, hlast⟩ := h.continuing i rfl
    obtain rfl : p = q := Option.some.inj hq
    have hi : i < t.entries.length := by omega
    have he : t.entries[i]? = some t.entries[i] := List.getElem?_eq_getElem hi
    have hopen : State.open? ⟨sections, .value p i⟩ = some t.entries[i] := by
      rw [State.sections_registers] at ht
      simp [State.open?, Cursor.continued?, ht, he]
    exact .inr ⟨p, i, t, t.entries[i], hb, rfl, rfl, rfl, ht, he,
      State.latest_of_run hnumbers hrun hopen, rfl⟩

/-- The registers after the first `k` lines of a text. -/
def Registers.after (text : String) (k : Nat) : Logged Registers.Stop Registers :=
  Registers.run {} ((numberedLines text).take k)

/-- Whatever the text, no access is out of bounds; after every line the registers are sound, and the
next line changes no entry but the one read last. -/
theorem sound_after (text : String) :
    Registers.read text = (read text).mapError .malformed ∧
    ∀ k, Registers.after text k = inRegisters (State.run {} ((numberedLines text).take k)) ∧
      (Registers.after text k).result ≠ .error .outOfBounds ∧
      ∀ r, (Registers.after text k).result = .ok r → r.Sound ∧
        ∀ raw r', (lines text.toList)[k]? = some raw →
          (Registers.after text (k + 1)).result = .ok r' →
          r.Grows ((numberedLines text).take k) raw r' := by
  have hafter (k : Nat) : Registers.after text k =
      inRegisters (State.run {} ((numberedLines text).take k)) :=
    State.registers_run (s := {}) Registers.sound_empty _
  refine ⟨registers_read text, fun k => ⟨hafter k, ?_⟩⟩
  have hsafe : Registers.Safe (Registers.after text k) := Registers.sound_empty.safe_run _
  refine ⟨hsafe.ne_outOfBounds, fun r hr => ?_⟩
  have hsound := hsafe.sound hr
  refine ⟨hsound, fun raw r' hraw hr' => ?_⟩
  rw [hafter, result_inRegisters_eq_ok_iff] at hr hr'
  obtain ⟨s, hs, rfl⟩ := hr
  obtain ⟨s', hs', rfl⟩ := hr'
  rw [take_succ_numberedLines hraw] at hs'
  obtain ⟨t, ht, hstep⟩ := State.run_concat_eq_ok_iff.mp hs'
  obtain rfl : s = t := Except.ok.inj (hs.symm.trans ht)
  have hnumbers : (((numberedLines text).take k).map Prod.snd).Pairwise (· < ·) := by
    rw [List.map_take]
    exact (pairwise_numberedLines text).sublist (List.take_sublist k _)
  exact State.grows_of_move hsound hnumbers hs (State.move_of_step hstep)

/-- A text that goes back to its first section, where it drops one entry and continues another. -/
def returningText : String := "[a]\nk = 1\n[b]\n[a]\nk = 2\n  gone\nj = 3\n# c\n  more\n"

/-- The registers while the value of the second entry is read. -/
def returningRegisters (value : String) : Registers where
  sections := [⟨"a", 1, [⟨"k", "1", 2⟩, ⟨"j", value, 7⟩]⟩, ⟨"b", 3, []⟩]
  current := some 0
  continuing := some 1

/-- The last line goes to the second entry of the section that was taken up again. -/
theorem sound_after_returningText :
    (Registers.after returningText 8).result = .ok (returningRegisters "3") ∧
      (Registers.after returningText 9).result = .ok (returningRegisters "3\nmore") ∧
      (returningRegisters "3").Sound ∧
      (returningRegisters "3").Grows ((numberedLines returningText).take 8) "  more".toList
        (returningRegisters "3\nmore") := by
  have hr : (Registers.after returningText 8).result = .ok (returningRegisters "3") := by rfl
  have hr' : (Registers.after returningText 9).result = .ok (returningRegisters "3\nmore") := by rfl
  obtain ⟨-, hafter⟩ := sound_after returningText
  obtain ⟨-, -, hsound⟩ := hafter 8
  obtain ⟨hsound, hgrows⟩ := hsound _ hr
  exact ⟨hr, hr', hsound, hgrows _ _ (by rfl) hr'⟩

end SwitchInventory.Config
