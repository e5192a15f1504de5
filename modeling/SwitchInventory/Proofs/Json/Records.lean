import SwitchInventory.Proofs.Json.Decoding

namespace SwitchInventory.Json

variable {α β : Type}

/-- The value of a field that is missing from an object, where it may be. -/
def Absence.value? : Absence α → Option α
  | required => none
  | optional a => some a
  | default a => some a

namespace Fields

/-- The members are the fields in order, without some of those that may be missing. -/
inductive Fits : {α : Type} → Fields α → List (String × Value) → α → Prop where
  | done : Fits .done [] ()
  | present {α β : Type} {name : String} {value : Reader α} {absence : Absence α} {rest : Fields β}
      {v : Value} {a : α} {ms : List (String × Value)} {as : β} :
      Decodes value v a → Fits rest ms as →
        Fits (.field name value absence rest) ((name, v) :: ms) (a, as)
  | absent {α β : Type} {name : String} {value : Reader α} {absence : Absence α} {rest : Fields β}
      {a : α} {ms : List (String × Value)} {as : β} :
      absence.value? = some a → Fits rest ms as →
        Fits (.field name value absence rest) ms (a, as)

def names : {α : Type} → Fields α → List String
  | _, done => []
  | _, field name _ _ rest => name :: rest.names

theorem Fits.name_mem {fields : Fields α} {ms : List (String × Value)} {a : α}
    (h : fields.Fits ms a) {name : String} (hname : name ∈ ms.map Prod.fst) : name ∈ fields.names := by
  induction h with
  | done => cases hname
  | present _ _ ih => exact List.mem_cons.mpr ((List.mem_cons.mp hname).imp_right ih)
  | absent _ _ ih => exact List.mem_cons_of_mem _ (ih hname)

/-- What is read after the name of a member takes the one draft to the other. -/
def Stores (fields : Fields α) (name : String) (v : Value) (d d' : fields.Draft) : Prop :=
  ∃ read, fields.store? name d = some read ∧
    ∀ gap gap' w rest, Gap gap → Gap gap' → Spells v w →
      read (gap ++ ':' :: (gap' ++ (w ++ rest))) = .ok (d', rest)

/-- Members that take the one draft to the other, one after the other. -/
inductive Fills (fields : Fields α) : List (String × Value) → fields.Draft → fields.Draft → Prop where
  | nil (d : fields.Draft) : Fills fields [] d d
  | cons {name : String} {v : Value} {ms : List (String × Value)} {d d' d'' : fields.Draft} :
      Stores fields name v d d' → Fills fields ms d' d'' → Fills fields ((name, v) :: ms) d d''

section

variable {own name : String} {value : Reader α} {absence : Absence α} {rest : Fields β} {v : Value}

private theorem stores_first {a : α} (h : Decodes value v a) (d : rest.Draft) :
    Stores (.field own value absence rest) own v ((none, d) : Option α × rest.Draft)
      ((some a, d) : Option α × rest.Draft) := by
  refine ⟨_, if_pos rfl, fun gap gap' w t hgap hgap' hw => ?_⟩
  change (Reader.colon >>= fun _ => value >>= fun a => pure ((some a, d) : Option α × rest.Draft)) _ =
    _
  rw [Reader.bind_of_ok (Reader.colon_gap hgap _), Reader.bind_of_ok (h gap' w t hgap' hw)]
  rfl

private theorem stores_rest {d d' : rest.Draft} (h : Stores rest name v d d') (hname : name ≠ own)
    (stored : Option α) :
    Stores (.field own value absence rest) name v ((stored, d) : Option α × rest.Draft)
      ((stored, d') : Option α × rest.Draft) := by
  obtain ⟨read, hstore, hread⟩ := h
  refine ⟨_, (if_neg hname).trans (congrArg (Option.map _) hstore), fun gap gap' w t hgap hgap' hw => ?_⟩
  change (read >>= fun others => pure ((stored, others) : Option α × rest.Draft)) _ = _
  rw [Reader.bind_of_ok (hread gap gap' w t hgap hgap' hw)]
  rfl

private theorem Fills.lift {ms : List (String × Value)} {d d' : rest.Draft}
    (h : Fills rest ms d d') (hname : own ∉ ms.map Prod.fst) (stored : Option α) :
    Fills (.field own value absence rest) ms ((stored, d) : Option α × rest.Draft)
      ((stored, d') : Option α × rest.Draft) := by
  induction h with
  | nil d => exact .nil _
  | cons hstores _ ih =>
    rw [List.map_cons, List.mem_cons, not_or] at hname
    exact .cons (stores_rest hstores (Ne.symm hname.1) stored) (ih hname.2)

end

private theorem complete_present {name : String} {value : Reader α} {absence : Absence α}
    {rest : Fields β} {d : rest.Draft} {as : β} (h : rest.complete d = .ok as) (a : α) :
    complete (.field name value absence rest) ((some a, d) : Option α × rest.Draft) = .ok (a, as) := by
  change (rest.complete d >>= fun as => pure (a, as)) = _
  rw [h]
  rfl

private theorem complete_absent {name : String} {value : Reader α} {absence : Absence α}
    {rest : Fields β} {d : rest.Draft} {as : β} (h : rest.complete d = .ok as) {a : α}
    (ha : absence.value? = some a) :
    complete (.field name value absence rest) ((none, d) : Option α × rest.Draft) = .ok (a, as) := by
  have hrest (b : α) : (rest.complete d >>= fun as => pure (b, as)) = .ok (b, as) := by
    rw [h]
    rfl
  cases absence with
  | required => cases ha
  | optional b =>
    obtain rfl := Option.some.inj ha
    exact hrest b
  | default b =>
    obtain rfl := Option.some.inj ha
    exact hrest b

theorem Fits.exists_draft {fields : Fields α} {ms : List (String × Value)} {a : α}
    (h : fields.Fits ms a) (hnames : fields.names.Nodup) :
    ∃ d, fields.Fills ms fields.blank d ∧ fields.complete d = .ok a := by
  induction h with
  | done => exact ⟨_, .nil _, rfl⟩
  | present hv hrest ih =>
    obtain ⟨hnew, hnames⟩ := List.nodup_cons.mp hnames
    obtain ⟨d, hfills, hcomplete⟩ := ih hnames
    exact ⟨_, .cons (stores_first hv _) (hfills.lift (fun hname => hnew (hrest.name_mem hname)) _),
      complete_present hcomplete _⟩
  | absent hvalue hrest ih =>
    obtain ⟨hnew, hnames⟩ := List.nodup_cons.mp hnames
    obtain ⟨d, hfills, hcomplete⟩ := ih hnames
    exact ⟨_, hfills.lift (fun hname => hnew (hrest.name_mem hname)) none,
      complete_absent hcomplete hvalue⟩

theorem Fills.readMembers {fields : Fields α} {ms : List (String × Value)} {d d' : fields.Draft}
    (h : fields.Fills ms d d') {first : Bool} {s : List Char} (hs : SpellsMembers first ms s)
    {fuel : Nat} (hfuel : ms.length < fuel) (rest : List Char) :
    fields.readMembers fuel first d (s ++ rest) = .ok (d', rest) := by
  induction h generalizing first s fuel with
  | nil d =>
    obtain ⟨fuel, rfl⟩ := Nat.exists_eq_add_of_lt hfuel
    obtain ⟨gap, hgap, hsplit⟩ := exists_gap_of_spellsMembers hs
    rw [hsplit, Fields.readMembers, Reader.bind_of_ok (Reader.anotherMember_close first hgap rest)]
    rfl
  | cons hstores _ ih =>
    obtain ⟨fuel, rfl⟩ : ∃ k, fuel = k + 1 := ⟨fuel - 1, by omega⟩
    rw [List.length_cons] at hfuel
    obtain ⟨read, hstore, hread⟩ := hstores
    obtain ⟨u, gap, gap', w, t, hanother, hname, hgap, hgap', hw, ht⟩ := name_of_spellsMembers hs rest
    have hvalue := hread gap gap' w (t ++ rest) hgap hgap' hw
    have htail := ih ht (Nat.lt_of_succ_lt_succ hfuel)
    rw [Fields.readMembers, Reader.bind_of_ok hanother, if_pos rfl, Reader.bind_of_ok hname, hstore]
    change (read >>= fun d => fields.readMembers fuel false d) _ = _
    rw [Reader.bind_of_ok hvalue, htail]

/-- A record is read back from an object that has its fields in order, where those that may be
missing can be. -/
theorem Fits.decodes {fields : Fields α} {ms : List (String × Value)} {a : α} (h : fields.Fits ms a)
    (hnames : fields.names.Nodup) (title : String) :
    Decodes (fields.read title) (.object ms) a := by
  obtain ⟨d, hfills, hcomplete⟩ := h.exists_draft hnames
  intro gap s rest hgap hs
  cases hs with
  | @object _ s hs =>
    have hfuel : ms.length < (s ++ rest).length + 1 := by
      have hlength := length_lt_of_spellsMembers hs
      rw [List.length_append]
      omega
    have hmembers := hfills.readMembers hs hfuel rest
    rw [Fields.read, List.cons_append, Reader.bind_of_ok (Reader.peek_gap hgap rfl _)]
    change (Reader.advance >>= fun _ => get >>= fun t =>
      fields.readMembers (t.length + 1) true fields.blank >>= fun d => liftM (fields.complete d)) _ = _
    rw [Reader.bind_of_ok (Reader.advance_cons _ _), Reader.get_bind, Reader.bind_of_ok hmembers,
      hcomplete]
    rfl

end Fields

namespace Variant

variable {variants : List (Variant α)} {name : String}

theorem choose_of_spellsString {v : Variant α} (h : variants.find? (·.name = name) = some v)
    {gap s : List Char} (hgap : Gap gap) (hs : SpellsString name s) (rest : List Char) :
    choose variants (gap ++ (s ++ rest)) = .ok (v, rest) := by
  have hquoted := Reader.quoted_of_spellsString hs rest
  obtain ⟨t, rfl⟩ := hs.exists_head
  have hpeek : Reader.peek (gap ++ ('"' :: t ++ rest)) = .ok ('"', '"' :: t ++ rest) :=
    Reader.peek_gap hgap rfl _
  rw [choose, Reader.bind_of_ok hpeek, if_neg (by simp)]
  beta_reduce
  rw [Reader.bind_of_ok hquoted, h]
  rfl

/-- A variant without content is taken back from its bare name. -/
theorem decodes_bare {a : α} (h : variants.find? (·.name = name) = some (.unit name a)) :
    Decodes (readOneOf variants) (.text name) a := by
  intro gap s rest hgap hs
  cases hs with
  | text hs =>
    have hchoose := choose_of_spellsString h gap_nil hs rest
    obtain ⟨t, rfl⟩ := hs.exists_head
    have hpeek : Reader.peek (gap ++ ('"' :: t ++ rest)) = .ok ('"', '"' :: t ++ rest) :=
      Reader.peek_gap hgap rfl _
    rw [readOneOf, Reader.bind_of_ok hpeek]
    change (choose variants >>= fun v => liftM v.bare) ([] ++ ('"' :: t ++ rest)) = _
    rw [Reader.bind_of_ok hchoose]
    rfl

/-- A variant with content is taken back from an object with that content under its name. -/
theorem decodes_content {v : Variant α} (h : variants.find? (·.name = name) = some v) {w : Value}
    {a : α} (hw : Decodes v.read w a) : Decodes (readOneOf variants) (.object [(name, w)]) a := by
  intro gap s rest hgap hs
  cases hs with
  | @object _ s hs =>
    obtain ⟨gap₁, u, gap₂, gap₃, gap₄, t, hsplit, h₁, hu, h₂, h₃, h₄, ht⟩ :=
      exists_of_spellsMembers_singleton hs rest
    have hcontent := hw gap₃ t (gap₄ ++ '\x7d' :: rest) h₃ ht
    rw [readOneOf, List.cons_append, Reader.bind_of_ok (Reader.peek_gap hgap rfl _), hsplit]
    change (Reader.advance >>= fun _ => choose variants >>= fun v => Reader.colon >>= fun _ =>
      v.read >>= fun value => Reader.close '\x7d' >>= fun _ => pure value) _ = _
    rw [Reader.bind_of_ok (Reader.advance_cons _ _),
      Reader.bind_of_ok (choose_of_spellsString h h₁ hu _),
      Reader.bind_of_ok (Reader.colon_gap h₂ _), Reader.bind_of_ok hcontent,
      Reader.bind_of_ok (Reader.close_gap h₄ rfl rest)]
    rfl

end Variant

end SwitchInventory.Json
