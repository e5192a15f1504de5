import Mathlib.Data.List.Basic
import Mathlib.Data.List.Infix
import SwitchInventory.Text.Split

namespace SwitchInventory.Text

theorem cut?_cons_of_isPrefix {mark : List Char} {c : Char} {s rest : List Char}
    (h : mark ++ rest = c :: s) : cut? mark (c :: s) = some ([], rest) := by
  have hp : mark.isPrefixOf? (c :: s) = some rest := by
    rwa [List.isPrefixOf?_eq_some_iff_append_eq]
  rw [cut?, hp]

theorem cut?_cons_of_not_isPrefix {mark : List Char} {c : Char} {s : List Char}
    (h : ¬ mark <+: c :: s) :
    cut? mark (c :: s) = (cut? mark s).map fun (front, back) => (c :: front, back) := by
  have hp : mark.isPrefixOf? (c :: s) = none := by
    cases hr : mark.isPrefixOf? (c :: s) with
    | none => rfl
    | some rest =>
      rw [List.isPrefixOf?_eq_some_iff_append_eq] at hr
      exact absurd ⟨rest, hr⟩ h
  rw [cut?, hp]

private theorem isPrefix_of_append_dropLast {mark a b : List Char} (ha : a ≠ [])
    (h : mark <+: a ++ mark ++ b) : mark <+: a ++ mark.dropLast := by
  have hd : a ++ mark.dropLast <+: a ++ mark ++ b := by
    rw [List.append_assoc, List.prefix_append_right_inj]
    exact (List.dropLast_prefix mark).trans (List.prefix_append mark b)
  apply List.prefix_of_prefix_length_le h hd
  have hlen := List.length_pos_of_ne_nil ha
  simp only [List.length_append, List.length_dropLast]
  omega

/-- A text is cut in front of a mark exactly when no occurrence of the mark starts earlier, also
none that reaches into the mark itself. -/
theorem cut?_eq_some_iff {mark s a b : List Char} (hm : mark ≠ []) :
    cut? mark s = some (a, b) ↔ s = a ++ mark ++ b ∧ ¬ mark <:+: a ++ mark.dropLast := by
  have hlen := List.length_pos_of_ne_nil hm
  have hfront : ¬ mark <:+: mark.dropLast := by
    intro h
    have hle := h.length_le
    rw [List.length_dropLast] at hle
    omega
  induction s generalizing a with
  | nil =>
    have he : mark.isEmpty = false := by simpa using hm
    simp [cut?, he, hm]
  | cons c s ih =>
    by_cases hp : mark <+: c :: s
    · obtain ⟨rest, hrest⟩ := hp
      rw [cut?_cons_of_isPrefix hrest]
      constructor
      · intro h
        obtain ⟨rfl, rfl⟩ := Prod.mk.inj (Option.some.inj h)
        exact ⟨by rw [List.nil_append, hrest], by rwa [List.nil_append]⟩
      · intro hh
        obtain ⟨hs, hn⟩ := hh
        by_cases ha : a = []
        · subst ha
          rw [← hrest, List.nil_append] at hs
          rw [List.append_cancel_left hs]
        · refine absurd (isPrefix_of_append_dropLast ha (b := b) ?_).isInfix hn
          exact ⟨rest, by rw [hrest, hs]⟩
    · rw [cut?_cons_of_not_isPrefix hp]
      cases a with
      | nil =>
        have hnone : ¬ c :: s = [] ++ mark ++ b := fun h => hp ⟨b, by rw [h, List.nil_append]⟩
        simp only [hnone, false_and, iff_false]
        simp
      | cons d a =>
        rw [Option.map_eq_some_iff]
        constructor
        · intro hh
          obtain ⟨⟨front, back⟩, hcut, hpair⟩ := hh
          obtain ⟨hfront, rfl⟩ := Prod.mk.inj hpair
          obtain ⟨rfl, rfl⟩ := List.cons.inj hfront
          obtain ⟨rfl, hn⟩ := ih.mp hcut
          refine ⟨rfl, ?_⟩
          rw [List.cons_append, List.infix_cons_iff, not_or]
          refine ⟨fun h => hp (h.trans ?_), hn⟩
          rw [List.append_assoc, ← List.cons_append, ← List.cons_append, List.prefix_append_right_inj]
          exact (List.dropLast_prefix mark).trans (List.prefix_append mark back)
        · intro hh
          obtain ⟨hs, hn⟩ := hh
          obtain ⟨rfl, rfl⟩ := List.cons.inj hs
          rw [List.cons_append, List.infix_cons_iff, not_or] at hn
          exact ⟨(a, b), ih.mpr ⟨rfl, hn.2⟩, rfl⟩

theorem cut?_eq_none_iff {mark s : List Char} (hm : mark ≠ []) :
    cut? mark s = none ↔ ¬ mark <:+: s := by
  induction s with
  | nil =>
    have he : mark.isEmpty = false := by simpa using hm
    simp [cut?, he, hm]
  | cons c s ih =>
    by_cases hp : mark <+: c :: s
    · obtain ⟨rest, hrest⟩ := hp
      have hinside : mark <:+: c :: s := hrest ▸ (List.prefix_append mark rest).isInfix
      rw [cut?_cons_of_isPrefix hrest]
      simp [hinside]
    · rw [cut?_cons_of_not_isPrefix hp, Option.map_eq_none_iff, ih, List.infix_cons_iff, not_or]
      exact (and_iff_right hp).symm

/-- A mark of one character cuts at the first place where it stands. -/
theorem cut?_singleton_eq_some_iff {m : Char} {s a b : List Char} :
    cut? [m] s = some (a, b) ↔ s = a ++ m :: b ∧ m ∉ a := by
  rw [cut?_eq_some_iff (by simp)]
  simp [List.singleton_infix_iff]

theorem dropMark?_eq_some_iff {mark s rest : String} :
    dropMark? mark s = some rest ↔ s = mark ++ rest := by
  unfold dropMark?
  rw [Option.map_eq_some_iff]
  constructor
  · intro hh
    obtain ⟨r, hr, rfl⟩ := hh
    rw [List.isPrefixOf?_eq_some_iff_append_eq] at hr
    rw [← String.toList_inj, String.toList_append, String.toList_ofList, hr]
  · intro hh
    subst hh
    refine ⟨rest.toList, ?_, String.ofList_toList⟩
    rw [List.isPrefixOf?_eq_some_iff_append_eq, String.toList_append]

theorem dropMark?_eq_none_iff {mark s : String} :
    dropMark? mark s = none ↔ ∀ rest, s ≠ mark ++ rest := by
  rw [Option.eq_none_iff_forall_ne_some]
  simp only [ne_eq, dropMark?_eq_some_iff]

theorem inside?_eq_some_iff {first last : Char} {s m : List Char} :
    inside? first last s = some m ↔ s = first :: m ++ [last] := by
  cases s with
  | nil => simp [inside?]
  | cons c s =>
    simp only [inside?, Option.ite_none_right_eq_some, Option.some.injEq, List.cons_append,
      List.cons.injEq]
    constructor
    · intro hh
      obtain ⟨⟨rfl, hlast⟩, rfl⟩ := hh
      obtain ⟨t, rfl⟩ := List.getLast?_eq_some_iff.mp hlast
      exact ⟨rfl, by rw [List.dropLast_concat]⟩
    · intro hh
      obtain ⟨rfl, rfl⟩ := hh
      exact ⟨⟨rfl, List.getLast?_concat⟩, List.dropLast_concat⟩

end SwitchInventory.Text
