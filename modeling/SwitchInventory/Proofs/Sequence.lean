import Mathlib.Data.List.Forall2

namespace SwitchInventory.Sequence

variable {ε α β γ : Type}

theorem bind_eq_ok_iff {x : Except ε α} {f : α → Except ε β} {b : β} :
    (x >>= f) = .ok b ↔ ∃ a, x = .ok a ∧ f a = .ok b := by
  cases x with
  | error e =>
    constructor
    · intro h
      cases h
    · intro hh
      obtain ⟨a, h, -⟩ := hh
      cases h
  | ok a =>
    constructor
    · exact fun h => ⟨a, rfl, h⟩
    · intro hh
      obtain ⟨a', ha, h⟩ := hh
      cases ha
      exact h

theorem bind_eq_error_iff {x : Except ε α} {f : α → Except ε β} {e : ε} :
    (x >>= f) = .error e ↔ x = .error e ∨ ∃ a, x = .ok a ∧ f a = .error e := by
  cases x with
  | error d =>
    change (Except.error d : Except ε β) = .error e ↔ _
    simp
  | ok a =>
    change f a = .error e ↔ _
    simp

theorem map_eq_error_iff {x : Except ε α} {f : α → β} {e : ε} :
    x.map f = .error e ↔ x = .error e := by
  cases x <;> simp [Except.map]

theorem map_eq_ok_iff {x : Except ε α} {f : α → β} {b : β} :
    x.map f = .ok b ↔ ∃ a, x = .ok a ∧ f a = b := by
  cases x with
  | error e => simp [Except.map]
  | ok a => simp [Except.map]

theorem mapError_eq_ok_iff {δ : Type} {x : Except ε α} {f : ε → δ} {a : α} :
    x.mapError f = .ok a ↔ x = .ok a := by
  cases x <;> simp [Except.mapError]

/-- A list is worked through exactly when each of its elements is. -/
theorem mapM_eq_ok_iff {f : α → Except ε β} {l : List α} {bs : List β} :
    l.mapM f = .ok bs ↔ List.Forall₂ (fun a b => f a = .ok b) l bs := by
  induction l generalizing bs with
  | nil =>
    rw [List.mapM_nil, List.forall₂_nil_left_iff]
    exact ⟨fun h => (Except.ok.inj h).symm, fun h => h ▸ rfl⟩
  | cons a l ih =>
    rw [List.mapM_cons, List.forall₂_cons_left_iff]
    constructor
    · intro h
      obtain ⟨b, hb, h⟩ := bind_eq_ok_iff.mp h
      obtain ⟨cs, hcs, h⟩ := bind_eq_ok_iff.mp h
      exact ⟨b, cs, hb, ih.mp hcs, (Except.ok.inj h).symm⟩
    · intro hh
      obtain ⟨b, cs, hb, hcs, rfl⟩ := hh
      exact bind_eq_ok_iff.mpr ⟨b, hb, bind_eq_ok_iff.mpr ⟨cs, ih.mpr hcs, rfl⟩⟩

/-- The first failure is the failure of the whole. -/
theorem mapM_eq_error_iff {f : α → Except ε β} {l : List α} {e : ε} :
    l.mapM f = .error e ↔
      ∃ front a back, l = front ++ a :: back ∧ (∀ b ∈ front, ∃ c, f b = .ok c) ∧ f a = .error e := by
  constructor
  · intro h
    induction l with
    | nil => cases h
    | cons a l ih =>
      rw [List.mapM_cons, bind_eq_error_iff] at h
      rcases h with h | ⟨b, hb, h⟩
      · exact ⟨[], a, l, rfl, by simp, h⟩
      · rcases bind_eq_error_iff.mp h with h | ⟨bs, -, h⟩
        · obtain ⟨front, d, back, rfl, hfront, hd⟩ := ih h
          refine ⟨a :: front, d, back, rfl, ?_, hd⟩
          exact List.forall_mem_cons.mpr ⟨⟨b, hb⟩, hfront⟩
        · cases h
  · intro hh
    obtain ⟨front, a, back, rfl, hfront, ha⟩ := hh
    induction front with
    | nil =>
      rw [List.nil_append, List.mapM_cons, ha]
      rfl
    | cons b front ih =>
      obtain ⟨⟨c, hc⟩, hfront⟩ := List.forall_mem_cons.mp hfront
      rw [List.cons_append, List.mapM_cons, hc, bind_eq_error_iff]
      exact .inr ⟨c, rfl, bind_eq_error_iff.mpr (.inl (ih hfront))⟩

theorem exists_mem_of_mapM_eq_error {f : α → Except ε β} {l : List α} {e : ε}
    (h : l.mapM f = .error e) : ∃ a ∈ l, f a = .error e := by
  obtain ⟨front, a, back, rfl, -, ha⟩ := mapM_eq_error_iff.mp h
  exact ⟨a, by simp, ha⟩

theorem exists_forall₂_iff {R : α → β → Prop} {l : List α} :
    (∃ bs, List.Forall₂ R l bs) ↔ ∀ a ∈ l, ∃ b, R a b := by
  induction l with
  | nil => simp
  | cons a l ih =>
    rw [List.forall_mem_cons, ← ih]
    constructor
    · intro hh
      obtain ⟨bs, h⟩ := hh
      obtain ⟨b, bs, hb, hbs, rfl⟩ := List.forall₂_cons_left_iff.mp h
      exact ⟨⟨b, hb⟩, bs, hbs⟩
    · intro hh
      obtain ⟨⟨b, hb⟩, bs, hbs⟩ := hh
      exact ⟨b :: bs, .cons hb hbs⟩

theorem exists_mem_of_forall₂ {R : α → β → Prop} {l : List α} {bs : List β}
    (h : List.Forall₂ R l bs) {b : β} (hb : b ∈ bs) : ∃ a ∈ l, R a b := by
  induction h with
  | nil => cases hb
  | cons hR _ ih =>
    rcases List.mem_cons.mp hb with rfl | hb
    · exact ⟨_, List.mem_cons_self, hR⟩
    · obtain ⟨a, ha, hR⟩ := ih hb
      exact ⟨a, List.mem_cons_of_mem _ ha, hR⟩

theorem mapM_append_cons_of_error {f : α → Except ε β} {front : List α} {bs : List β} {a : α}
    {e : ε} (hfront : List.Forall₂ (fun a b => f a = .ok b) front bs) (ha : f a = .error e)
    (back : List α) : (front ++ a :: back).mapM f = .error e :=
  mapM_eq_error_iff.mpr ⟨front, a, back, rfl, exists_forall₂_iff.mp ⟨bs, hfront⟩, ha⟩

/-- What each operation preserves is preserved by the sequence. -/
theorem foldlM_induction {f : β → α → Except ε β} {P : β → Prop} {l : List α} {b b' : β}
    (hstep : ∀ a ∈ l, ∀ b b', P b → f b a = .ok b' → P b') (hb : P b)
    (h : l.foldlM f b = .ok b') : P b' := by
  induction l generalizing b with
  | nil =>
    rw [← Except.ok.inj h]
    exact hb
  | cons a l ih =>
    rw [List.foldlM_cons] at h
    obtain ⟨c, hc, h⟩ := bind_eq_ok_iff.mp h
    exact ih (fun d hd => hstep d (List.mem_cons_of_mem a hd)) (hstep a List.mem_cons_self b c hb hc) h

/-- A sequence fails at the first operation that fails. -/
theorem foldlM_eq_error_iff {f : β → α → Except ε β} {l : List α} {b : β} {e : ε} :
    l.foldlM f b = .error e ↔
      ∃ front a back c, l = front ++ a :: back ∧ front.foldlM f b = .ok c ∧ f c a = .error e := by
  constructor
  · intro h
    induction l generalizing b with
    | nil => cases h
    | cons a l ih =>
      rw [List.foldlM_cons] at h
      cases hb : f b a with
      | error d =>
        rw [hb] at h
        exact ⟨[], a, l, b, rfl, rfl, hb.trans h⟩
      | ok c =>
        rw [hb] at h
        obtain ⟨front, a', back, d, rfl, hfront, hd⟩ := ih h
        refine ⟨a :: front, a', back, d, rfl, ?_, hd⟩
        rw [List.foldlM_cons, hb]
        exact hfront
  · intro hh
    obtain ⟨front, a, back, c, rfl, hfront, hc⟩ := hh
    rw [List.foldlM_append, hfront]
    change (a :: back).foldlM f c = .error e
    rw [List.foldlM_cons, hc]
    rfl

/-- A change of the elements that no operation notices where it succeeds goes unnoticed. -/
theorem foldlM_map_eq_ok_iff {f : β → α → Except ε β} {g : α → α}
    (h : ∀ b a c, f b (g a) = .ok c ↔ f b a = .ok c) {l : List α} {b c : β} :
    (l.map g).foldlM f b = .ok c ↔ l.foldlM f b = .ok c := by
  induction l generalizing b with
  | nil => rfl
  | cons a l ih =>
    rw [List.map_cons, List.foldlM_cons, List.foldlM_cons, bind_eq_ok_iff, bind_eq_ok_iff]
    simp only [h, ih]

/-- Where failures do not depend on the state, all operations can be tried first. -/
theorem foldlM_map (f : α → Except ε γ) (g : β → γ → β) (l : List α) (b : β) :
    l.foldlM (fun b a => (f a).map (g b)) b = (l.mapM f).map fun cs => cs.foldl g b := by
  induction l generalizing b with
  | nil => rfl
  | cons a l ih =>
    rw [List.foldlM_cons, List.mapM_cons]
    cases f a with
    | error e => rfl
    | ok c =>
      change l.foldlM (fun b a => (f a).map (g b)) (g b c) = _
      rw [ih]
      cases h : l.mapM f with
      | error e => rfl
      | ok cs => rfl

end SwitchInventory.Sequence
