import Mathlib.Data.List.TakeWhile
import SwitchInventory.Json.Kind
import SwitchInventory.Proofs.Json.Spelling

namespace SwitchInventory.Json

variable {α β : Type} {gap gap' s t : List Char}

namespace Reader

theorem peek_gap (h : Gap gap) {c : Char} (hc : isGap c = false) (s : List Char) :
    peek (gap ++ c :: s) = .ok (c, c :: s) := by
  have hdrop : (gap ++ c :: s).dropWhile isGap = c :: s := by
    rw [List.dropWhile_append_of_pos h, List.dropWhile_cons_of_neg (by simp [hc])]
  have hpeek : peek? (gap ++ c :: s) = .ok (some c, c :: s) := by
    change Except.ok (((gap ++ c :: s).dropWhile isGap).head?, (gap ++ c :: s).dropWhile isGap) = _
    rw [hdrop]
    rfl
  rw [peek, bind_of_ok hpeek]
  rfl

theorem advance_cons (c : Char) (s : List Char) : advance (c :: s) = .ok ((), s) := rfl

theorem close_gap (h : Gap gap) {c : Char} (hc : isGap c = false) (s : List Char) :
    close c (gap ++ c :: s) = .ok ((), s) := by
  rw [close, bind_of_ok (peek_gap h hc s), if_pos rfl]
  rfl

theorem colon_gap (h : Gap gap) (s : List Char) : colon (gap ++ ':' :: s) = .ok ((), s) :=
  close_gap h rfl s

private theorem anotherItem_close (first : Bool) (h : Gap gap) (s : List Char) :
    anotherItem first (gap ++ ']' :: s) = .ok (false, ']' :: s) := by
  rw [anotherItem, bind_of_ok (peek_gap h rfl s)]
  rfl

theorem anotherMember_close (first : Bool) (h : Gap gap) (s : List Char) :
    anotherMember first (gap ++ '\x7d' :: s) = .ok (false, '\x7d' :: s) := by
  rw [anotherMember, bind_of_ok (peek_gap h rfl s)]
  rfl

private theorem anotherItem_separator {first : Bool} {sep : List Char} (h : Separator first sep)
    {c : Char} (hgap : isGap c = false) (hclose : c ≠ ']') (hcomma : c ≠ ',') (s : List Char) :
    anotherItem first (sep ++ c :: s) = .ok (true, c :: s) := by
  cases h with
  | first h =>
    rw [anotherItem, bind_of_ok (peek_gap h hgap s)]
    split
    · contradiction
    · contradiction
    · rfl
  | @comma gap gap' h h' =>
    rw [List.append_assoc, List.cons_append, anotherItem, bind_of_ok (peek_gap h rfl _)]
    change (advance >>= fun _ => peek >>= fun c => if c = ']' then throw .malformed else pure true)
      (',' :: (gap' ++ c :: s)) = _
    rw [bind_of_ok (advance_cons _ _), bind_of_ok (peek_gap h' hgap s), if_neg hclose]
    rfl

private theorem anotherMember_separator {first : Bool} {sep : List Char} (h : Separator first sep)
    (s : List Char) : anotherMember first (sep ++ '"' :: s) = .ok (true, '"' :: s) := by
  cases h with
  | first h =>
    rw [anotherMember, bind_of_ok (peek_gap h rfl s)]
    rfl
  | @comma gap gap' h h' =>
    rw [List.append_assoc, List.cons_append, anotherMember, bind_of_ok (peek_gap h rfl _)]
    change (advance >>= fun _ => peek >>= fun c => if c = '"' then pure true else throw .malformed)
      (',' :: (gap' ++ '"' :: s)) = _
    rw [bind_of_ok (advance_cons _ _), bind_of_ok (peek_gap h' rfl s), if_pos rfl]
    rfl

end Reader

/-- The reader takes every spelling of `v` off the front of a text, as `a`. -/
def Decodes (r : Reader α) (v : Value) (a : α) : Prop :=
  ∀ gap s rest, Gap gap → Spells v s → r (gap ++ (s ++ rest)) = .ok (a, rest)

theorem SpellsString.exists_head {name : String} (h : SpellsString name s) :
    ∃ t, s = '"' :: t := by
  cases h
  exact ⟨_, rfl⟩

/-- A spelled value starts with a token of its own. -/
theorem Spells.exists_head {v : Value} (h : Spells v s) :
    ∃ c t, s = c :: t ∧ isGap c = false ∧ c ≠ ']' ∧ c ≠ ',' := by
  cases h with
  | null => exact ⟨_, _, rfl, rfl, by decide, by decide⟩
  | boolean b => cases b <;> exact ⟨_, _, rfl, rfl, by decide, by decide⟩
  | text h =>
    obtain ⟨t, rfl⟩ := h.exists_head
    exact ⟨_, _, rfl, rfl, by decide, by decide⟩
  | list h => exact ⟨_, _, rfl, rfl, by decide, by decide⟩
  | object h => exact ⟨_, _, rfl, rfl, by decide, by decide⟩

theorem Decodes.bind_pure {r : Reader α} {v : Value} {a : α} (h : Decodes r v a) {f : α → Reader β}
    {b : β} (hf : f a = pure b) : Decodes (r >>= f) v b := by
  intro gap s rest hgap hs
  rw [Reader.bind_of_ok (h gap s rest hgap hs), hf]
  rfl

/-- The text is a spelling of `v`, with gaps around it. -/
def Denotes (text : String) (v : Value) : Prop :=
  ∃ gap s gap', text.toList = gap ++ (s ++ gap') ∧ Gap gap ∧ Spells v s ∧ Gap gap'

theorem Reader.finish_gap (h : Gap gap) : finish gap = .ok ((), []) := by
  have hdrop : gap.dropWhile isGap = [] := List.dropWhile_eq_nil_iff.mpr h
  have hpeek : peek? gap = .ok (none, []) := by
    change Except.ok ((gap.dropWhile isGap).head?, gap.dropWhile isGap) = _
    rw [hdrop]
    rfl
  rw [finish, bind_of_ok hpeek]
  rfl

/-- A reader that takes back a value reads each text that is a spelling of it. -/
theorem Decodes.run_of_denotes {r : Reader α} {v : Value} {a : α} (h : Decodes r v a)
    {text : String} (htext : Denotes text v) : r.run text = .ok a := by
  obtain ⟨gap, s, gap', htext, hgap, hs, hgap'⟩ := htext
  have hall : (do let a ← r; Reader.finish; return a) (gap ++ (s ++ gap')) = .ok (a, []) := by
    rw [Reader.bind_of_ok (h gap s gap' hgap hs), Reader.bind_of_ok (Reader.finish_gap hgap')]
    rfl
  rw [Reader.run, htext]
  change Prod.fst <$> _ = Except.ok a
  rw [hall]
  rfl

/-- A reader that decodes a value reads every text that spells it. -/
theorem Decodes.run_eq_ok {r : Reader α} {v : Value} {a : α} (h : Decodes r v a) (hs : Spells v s) :
    r.run (String.ofList s) = .ok a :=
  h.run_of_denotes ⟨[], s, [], by simp, gap_nil, hs, gap_nil⟩

theorem decodes_text (s : String) : Decodes Reader.text (.text s) s := by
  intro gap t rest hgap ht
  cases ht with
  | text ht =>
    have hquoted := Reader.quoted_of_spellsString ht rest
    obtain ⟨t, rfl⟩ := ht.exists_head
    rw [List.cons_append] at hquoted ⊢
    rw [Reader.text, Reader.bind_of_ok (Reader.peek_gap hgap rfl _), if_pos rfl, hquoted]

theorem decodes_optional (s? : Option String) :
    Decodes (Reader.orNull Reader.text) (.optional s?) s? := by
  intro gap t rest hgap ht
  cases s? with
  | none =>
    cases ht
    have hpeek : Reader.peek (gap ++ ("null".toList ++ rest)) = .ok ('n', "null".toList ++ rest) :=
      Reader.peek_gap hgap rfl _
    rw [Reader.orNull, Reader.bind_of_ok hpeek, if_pos rfl,
      Reader.bind_of_ok (Reader.word_append _ rest)]
    rfl
  | some s =>
    have htext := decodes_text s [] t rest gap_nil ht
    cases ht with
    | text ht =>
      obtain ⟨t, rfl⟩ := ht.exists_head
      have hpeek : Reader.peek (gap ++ ('"' :: t ++ rest)) = .ok ('"', '"' :: t ++ rest) :=
        Reader.peek_gap hgap rfl _
      rw [Reader.orNull, Reader.bind_of_ok hpeek, if_neg (by decide)]
      exact Reader.map_of_ok htext some

private theorem length_lt_of_spellsItems {first : Bool} {vs : List Value}
    (h : SpellsItems first vs s) : vs.length < s.length := by
  induction vs generalizing first s with
  | nil =>
    cases h
    simp
  | cons v vs ih =>
    cases h with
    | cons _ hs ht =>
      obtain ⟨c, u, rfl, -⟩ := hs.exists_head
      have hrest := ih ht
      simp only [List.length_cons, List.length_append]
      omega

private theorem exists_gap_of_spellsItems {first : Bool} (h : SpellsItems first [] s) :
    ∃ gap, Gap gap ∧ ∀ rest, s ++ rest = gap ++ ']' :: rest := by
  cases h with
  | nil hgap => exact ⟨_, hgap, fun rest => by rw [List.append_assoc]; rfl⟩

/-- The next element is taken off with what stands before it. -/
theorem item_of_spellsItems {item : Reader α} {first : Bool} {v : Value} {vs : List Value} {a : α}
    (h : SpellsItems first (v :: vs) s) (hv : Decodes item v a) (rest : List Char) :
    ∃ u t, Reader.anotherItem first (s ++ rest) = .ok (true, u) ∧ item u = .ok (a, t ++ rest) ∧
      SpellsItems false vs t := by
  cases h with
  | @cons _ _ _ sep s t hsep hs ht =>
    have hitem := hv [] s (t ++ rest) gap_nil hs
    obtain ⟨c, u, rfl, hgap, hclose, hcomma⟩ := hs.exists_head
    refine ⟨c :: u ++ (t ++ rest), t, ?_, hitem, ht⟩
    rw [List.append_assoc, List.append_assoc]
    exact Reader.anotherItem_separator hsep hgap hclose hcomma _

theorem listTail_of_spellsItems {item : Reader α} {vs : List Value} {as : List α}
    (h : List.Forall₂ (Decodes item) vs as) {first : Bool} (hs : SpellsItems first vs s) {fuel : Nat}
    (hfuel : vs.length < fuel) (rest : List Char) :
    Reader.listTail item fuel first (s ++ rest) = .ok (as, rest) := by
  induction h generalizing first s fuel with
  | nil =>
    obtain ⟨fuel, rfl⟩ := Nat.exists_eq_add_of_lt hfuel
    obtain ⟨gap, hgap, hsplit⟩ := exists_gap_of_spellsItems hs
    rw [hsplit, Reader.listTail, Reader.bind_of_ok (Reader.anotherItem_close first hgap rest)]
    rfl
  | @cons v a vs as hv _ ih =>
    obtain ⟨fuel, rfl⟩ : ∃ k, fuel = k + 1 := ⟨fuel - 1, by omega⟩
    rw [List.length_cons] at hfuel
    obtain ⟨u, t, hanother, hitem, ht⟩ := item_of_spellsItems hs hv rest
    have htail := ih ht (Nat.lt_of_succ_lt_succ hfuel)
    rw [Reader.listTail, Reader.bind_of_ok hanother, if_pos rfl, Reader.bind_of_ok hitem,
      Reader.bind_of_ok htail]
    rfl

/-- Lists are taken back when the reader of their elements takes back these. -/
theorem decodes_list {item : Reader α} {vs : List Value} {as : List α}
    (h : List.Forall₂ (Decodes item) vs as) : Decodes (Reader.list item) (.list vs) as := by
  intro gap s rest hgap hs
  cases hs with
  | @list _ s hs =>
    have hfuel : vs.length < (s ++ rest).length + 1 := by
      have hlength := length_lt_of_spellsItems hs
      rw [List.length_append]
      omega
    rw [Reader.list, List.cons_append, Reader.bind_of_ok (Reader.peek_gap hgap rfl _), if_pos rfl,
      Reader.bind_of_ok (Reader.advance_cons _ _), Reader.get_bind,
      listTail_of_spellsItems h hs hfuel]

theorem decodes_list_map {item : Reader α} {f : α → Value} (h : ∀ a, Decodes item (f a) a)
    (as : List α) : Decodes (Reader.list item) (.list (as.map f)) as := by
  apply decodes_list
  rw [List.forall₂_map_left_iff, List.forall₂_same]
  exact fun a _ => h a

theorem decodes_pair {first : Reader α} {second : Reader β} {v w : Value} {a : α} {b : β}
    (hv : Decodes first v a) (hw : Decodes second w b) :
    Decodes (Reader.pair first second) (.list [v, w]) (a, b) := by
  intro gap s rest hgap hs
  cases hs with
  | @list _ s hs =>
    obtain ⟨u, t, hanother, hfirst, ht⟩ := item_of_spellsItems hs hv rest
    obtain ⟨u', t', hanother', hsecond, ht'⟩ := item_of_spellsItems ht hw rest
    obtain ⟨gap', hgap', hsplit⟩ := exists_gap_of_spellsItems ht'
    rw [hsplit] at hsecond
    rw [Reader.pair, List.cons_append, Reader.bind_of_ok (Reader.peek_gap hgap rfl _), if_pos rfl,
      Reader.bind_of_ok (Reader.advance_cons _ _), Reader.bind_of_ok hanother, if_pos rfl,
      Reader.bind_of_ok hfirst, Reader.bind_of_ok hanother', if_pos rfl,
      Reader.bind_of_ok hsecond, Reader.bind_of_ok (Reader.close_gap hgap' rfl rest)]
    rfl

private theorem SpellsMember.exists_head {m : String × Value} (h : SpellsMember m s) :
    ∃ t, s = '"' :: t := by
  cases h with
  | mk hname _ _ _ =>
    obtain ⟨t, rfl⟩ := hname.exists_head
    exact ⟨_, List.cons_append⟩

theorem length_lt_of_spellsMembers {first : Bool} {ms : List (String × Value)}
    (h : SpellsMembers first ms s) : ms.length < s.length := by
  induction ms generalizing first s with
  | nil =>
    cases h
    simp
  | cons m ms ih =>
    cases h with
    | cons _ hs ht =>
      obtain ⟨u, rfl⟩ := hs.exists_head
      have hrest := ih ht
      simp only [List.length_cons, List.length_append]
      omega

theorem exists_gap_of_spellsMembers {first : Bool} (h : SpellsMembers first [] s) :
    ∃ gap, Gap gap ∧ ∀ rest, s ++ rest = gap ++ '\x7d' :: rest := by
  cases h with
  | nil hgap => exact ⟨_, hgap, fun rest => by rw [List.append_assoc]; rfl⟩

theorem exists_of_spellsMembers_singleton {name : String} {v : Value}
    (h : SpellsMembers true [(name, v)] s) (rest : List Char) :
    ∃ gap t gap' gap'' last w, s ++ rest =
        gap ++ (t ++ (gap' ++ ':' :: (gap'' ++ (w ++ (last ++ '\x7d' :: rest))))) ∧
      Gap gap ∧ SpellsString name t ∧ Gap gap' ∧ Gap gap'' ∧ Gap last ∧ Spells v w := by
  cases h with
  | @cons _ _ _ sep s t hsep hs ht =>
    obtain ⟨last, hlast, hsplit⟩ := exists_gap_of_spellsMembers ht
    cases hsep with
    | first hgap =>
      cases hs with
      | @mk _ _ t gap' gap'' w hname hgap' hgap'' hw =>
        refine ⟨sep, t, gap', gap'', last, w, ?_, hgap, hname, hgap', hgap'', hlast, hw⟩
        rw [← hsplit]
        simp only [List.append_assoc, List.cons_append]

/-- The name of the next member is taken off with what stands before it. -/
theorem name_of_spellsMembers {first : Bool} {name : String} {v : Value}
    {ms : List (String × Value)} (h : SpellsMembers first ((name, v) :: ms) s) (rest : List Char) :
    ∃ u gap gap' w t, Reader.anotherMember first (s ++ rest) = .ok (true, u) ∧
      Reader.quoted u = .ok (name, gap ++ ':' :: (gap' ++ (w ++ (t ++ rest)))) ∧
      Gap gap ∧ Gap gap' ∧ Spells v w ∧ SpellsMembers false ms t := by
  cases h with
  | @cons _ _ _ sep s t hsep hs ht =>
    cases hs with
    | @mk _ _ _ gap gap' w hname hgap hgap' hw =>
      have hquoted := Reader.quoted_of_spellsString hname (gap ++ ':' :: (gap' ++ (w ++ (t ++ rest))))
      obtain ⟨u, rfl⟩ := hname.exists_head
      refine ⟨_, gap, gap', w, t, ?_, hquoted, hgap, hgap', hw, ht⟩
      have hanother := Reader.anotherMember_separator hsep
        (u ++ (gap ++ ':' :: (gap' ++ (w ++ (t ++ rest)))))
      simpa only [List.append_assoc, List.cons_append] using hanother

theorem membersTail_of_spellsMembers {value : Reader α} {f : α → Value}
    (h : ∀ a, Decodes value (f a) a) {ms : List (String × α)} {first : Bool}
    (hs : SpellsMembers first (ms.map fun m => (m.1, f m.2)) s) {fuel : Nat}
    (hfuel : ms.length < fuel) (rest : List Char) :
    Reader.membersTail value fuel first (s ++ rest) = .ok (ms, rest) := by
  induction ms generalizing first s fuel with
  | nil =>
    obtain ⟨fuel, rfl⟩ := Nat.exists_eq_add_of_lt hfuel
    obtain ⟨gap, hgap, hsplit⟩ := exists_gap_of_spellsMembers hs
    rw [hsplit, Reader.membersTail, Reader.bind_of_ok (Reader.anotherMember_close first hgap rest)]
    rfl
  | cons m ms ih =>
    obtain ⟨fuel, rfl⟩ : ∃ k, fuel = k + 1 := ⟨fuel - 1, by omega⟩
    rw [List.length_cons] at hfuel
    obtain ⟨u, gap, gap', w, t, hanother, hname, hgap, hgap', hw, ht⟩ := name_of_spellsMembers hs rest
    have hvalue := h m.2 gap' w (t ++ rest) hgap' hw
    have htail := ih ht (Nat.lt_of_succ_lt_succ hfuel)
    rw [Reader.membersTail, Reader.bind_of_ok hanother, if_pos rfl, Reader.bind_of_ok hname,
      Reader.bind_of_ok (Reader.colon_gap hgap _), Reader.bind_of_ok hvalue, Reader.bind_of_ok htail]
    rfl

/-- Every member is taken back, also where its name has occurred before. -/
theorem decodes_members {value : Reader α} {f : α → Value} (h : ∀ a, Decodes value (f a) a)
    (expected : String) (ms : List (String × α)) :
    Decodes (Reader.members expected value) (.object (ms.map fun m => (m.1, f m.2))) ms := by
  intro gap s rest hgap hs
  cases hs with
  | @object _ s hs =>
    have hfuel : ms.length < (s ++ rest).length + 1 := by
      have hlength := length_lt_of_spellsMembers hs
      rw [List.length_map] at hlength
      rw [List.length_append]
      omega
    rw [Reader.members, List.cons_append, Reader.bind_of_ok (Reader.peek_gap hgap rfl _), if_pos rfl,
      Reader.bind_of_ok (Reader.advance_cons _ _), Reader.get_bind,
      membersTail_of_spellsMembers h hs hfuel]

end SwitchInventory.Json
