import SwitchInventory.Proofs.Text.Case

namespace SwitchInventory.Text

open SwitchInventory.Lists

theorem sameLetters_iff {s t : String} :
    sameLetters s t = true ↔ s.toList.map Char.toLower = t.toList.map Char.toLower := beq_iff_eq

theorem sameLetters_comm (s t : String) : sameLetters s t = sameLetters t s := by
  rw [Bool.eq_iff_iff, sameLetters_iff, sameLetters_iff, eq_comm]

theorem sameLetters_congr {s t : String} (h : sameLetters s t = true) (u : String) :
    sameLetters s u = sameLetters t u := by
  rw [Bool.eq_iff_iff, sameLetters_iff, sameLetters_iff, sameLetters_iff.mp h]

private theorem toLower_of_not_ascii {c : Char} (h : 128 ≤ c.toNat) : c.toLower = c := by
  have hupper : ¬ ('A'.val ≤ c.val ∧ c.val ≤ 'Z'.val) := by
    intro hh
    have hle : c.toNat ≤ 'Z'.toNat := UInt32.le_iff_toNat_le.mp hh.2
    have hz : 'Z'.toNat < 128 := by decide
    omega
  exact dif_neg hupper

private theorem lowerChar_ofNat :
    ∀ n : Fin 128, lowerChar (Char.ofNat n) = [(Char.ofNat n).toLower] := by
  decide +kernel

theorem lowerChar_of_ascii {c : Char} (h : c.toNat < 128) : lowerChar c = [c.toLower] := by
  have hc := lowerChar_ofNat ⟨c.toNat, h⟩
  rwa [Char.ofNat_toNat] at hc

private theorem lowerExpansions_leave :
    ∀ e ∈ lowerExpansions, ∃ m ∈ e.2, 128 ≤ (Char.ofNat m).toNat := by decide

private theorem lowerRuns_stay :
    ∀ r ∈ lowerRuns, (∀ n ∈ r.sources, n < 128) ∨ r.targets = ['k'.toNat] ∨
      ∀ m ∈ r.targets, 128 ≤ (Char.ofNat m).toNat := by
  decide +kernel

/-- The Kelvin sign apart, no character outside ASCII has a lower case form inside. -/
theorem lowerChar_of_not_ascii {c : Char} (h : 128 ≤ c.toNat) :
    lowerChar c = ['k'] ∨ ∃ d ∈ lowerChar c, 128 ≤ d.toNat := by
  unfold lowerChar mapCase
  cases hlookup : lowerExpansions.lookup c.toNat with
  | some image =>
    obtain ⟨m, hm, hge⟩ := lowerExpansions_leave _ (mem_of_lookup hlookup)
    exact .inr ⟨Char.ofNat m, List.mem_map_of_mem hm, hge⟩
  | none =>
    cases hfind : lowerRuns.findSome? (·.map? c.toNat) with
    | none => exact .inr ⟨c, List.mem_singleton_self c, h⟩
    | some m =>
      obtain ⟨r, hr, hmap⟩ := List.exists_of_findSome?_eq_some hfind
      obtain ⟨hsource, htarget⟩ := CaseRun.mem_of_map? hmap
      rcases lowerRuns_stay r hr with hascii | hkelvin | hge
      · have hlt := hascii _ hsource
        omega
      · rw [hkelvin, List.mem_singleton] at htarget
        left
        rw [htarget]
        rfl
      · exact .inr ⟨Char.ofNat m, List.mem_singleton_self _, hge m htarget⟩

/-- The lower case forms of a text. The capital sigma has two, of which the place in the word
decides. -/
inductive LowerForm : List Char → List Char → Prop
  | nil : LowerForm [] []
  | cons (c : Char) {s t : List Char} : LowerForm s t → LowerForm (c :: s) (lowerChar c ++ t)
  | sigma {s t : List Char} : LowerForm s t → LowerForm ('Σ' :: s) ('ς' :: t)

theorem lowerForm_lowerAfter (before l : List Char) : LowerForm l (lowerAfter before l) := by
  induction l generalizing before with
  | nil => exact .nil
  | cons c l ih =>
    rw [lowerAfter]
    split
    · rename_i hsigma
      rw [hsigma.1, List.singleton_append]
      exact .sigma (ih _)
    · exact .cons c (ih _)

/-- The place of a capital sigma decides between forms that both are lower case forms. -/
theorem lowerForm_lower (s : String) : LowerForm s.toList (lower s).toList := by
  rw [lower, String.toList_ofList]
  exact lowerForm_lowerAfter [] s.toList

theorem lowerAfter_of_not_mem {l : List Char} (h : 'Σ' ∉ l) (before : List Char) :
    lowerAfter before l = l.flatMap lowerChar := by
  induction l generalizing before with
  | nil => rfl
  | cons c l ih =>
    obtain ⟨hc, hl⟩ := not_or.mp (List.mem_cons.not.mp h)
    have hne : ¬ (c = 'Σ' ∧ leadsToCased before ∧ ¬ leadsToCased l) := fun hsigma => hc hsigma.1.symm
    rw [lowerAfter, if_neg hne, ih hl, List.flatMap_cons]

/-- Only the place of a capital sigma in its word makes a difference to its lower case form. -/
theorem lower_of_not_mem {s : String} (h : 'Σ' ∉ s.toList) :
    lower s = String.ofList (s.toList.flatMap lowerChar) := by
  rw [lower, lowerAfter_of_not_mem h]

example : lower "ΟΔΟΣ. ΣΑΣ' Α Σ" = "οδος. σας' α σ" := by decide +kernel

/-- A character of ASCII, neither `k` nor a capital letter. -/
def Plain (c : Char) : Prop := c.toNat < 128 ∧ c ≠ 'k' ∧ c.toLower = c

instance (c : Char) : Decidable (Plain c) := instDecidableAnd

private theorem lowerChar_append_ne {c : Char} (h : 128 ≤ c.toNat) {t w : List Char}
    (hw : ∀ d ∈ w, Plain d) : lowerChar c ++ t ≠ w := by
  intro heq
  have hplain : ∀ d ∈ lowerChar c, Plain d := fun d hd => hw d (heq ▸ List.mem_append_left t hd)
  rcases lowerChar_of_not_ascii h with hk | ⟨d, hd, hge⟩
  · exact (hplain 'k' (by rw [hk]; exact List.mem_singleton_self _)).2.1 rfl
  · have hlt := (hplain d hd).1
    omega

private theorem map_toLower_cons_ne {c : Char} (h : 128 ≤ c.toNat) {s w : List Char}
    (hw : ∀ d ∈ w, Plain d) : (c :: s).map Char.toLower ≠ w := by
  intro heq
  rw [List.map_cons, toLower_of_not_ascii h] at heq
  have hlt := (hw c (heq ▸ List.mem_cons_self)).1
  omega

/-- For plain words, lower case forms and the letters of ASCII alone come to the same. -/
theorem LowerForm.eq_iff {s t : List Char} (h : LowerForm s t) {w : List Char}
    (hw : ∀ c ∈ w, Plain c) : t = w ↔ s.map Char.toLower = w := by
  induction h generalizing w with
  | nil => rfl
  | @cons c s t _ ih =>
    by_cases hc : c.toNat < 128
    · rw [lowerChar_of_ascii hc, List.map_cons, List.singleton_append]
      cases w with
      | nil => simp
      | cons d w =>
        rw [List.cons.injEq, List.cons.injEq, ih fun e he => hw e (List.mem_cons_of_mem d he)]
    · rw [Nat.not_lt] at hc
      exact iff_of_false (lowerChar_append_ne hc hw) (map_toLower_cons_ne hc hw)
  | sigma _ _ =>
    refine iff_of_false ?_ (map_toLower_cons_ne (by decide) hw)
    intro heq
    exact absurd (hw 'ς' (heq ▸ List.mem_cons_self)).1 (by decide)

end SwitchInventory.Text
