import Mathlib.Data.List.TakeWhile
import SwitchInventory.Text.Blank

namespace SwitchInventory.Text

/-- Trimming leaves the text as it is. -/
def Trimmed (s : List Char) : Prop := trim s = s

instance (s : List Char) : Decidable (Trimmed s) := inferInstanceAs (Decidable (trim s = s))

@[simp] theorem trimmed_nil : Trimmed [] := rfl

theorem isBlank_space : isBlank ' ' = true := rfl

theorem startsBlank_append {a : List Char} (ha : a ≠ []) (b : List Char) :
    startsBlank (a ++ b) = startsBlank a := by
  cases a with
  | nil => exact absurd rfl ha
  | cons c a => rfl

theorem startsBlank_reverse_append (a : List Char) {b : List Char} (hb : b ≠ []) :
    startsBlank (a ++ b).reverse = startsBlank b.reverse := by
  rw [List.reverse_append]
  exact startsBlank_append (by simpa using hb) a.reverse

private theorem startsBlank_of_isPrefix {a b : List Char} (h : a <+: b)
    (hb : startsBlank b = false) : startsBlank a = false := by
  obtain ⟨t, rfl⟩ := h
  cases a with
  | nil => rfl
  | cons c a => exact hb

theorem trimStart_eq_self {s : List Char} (h : startsBlank s = false) : trimStart s = s := by
  cases s with
  | nil => rfl
  | cons c s =>
    change isBlank c = false at h
    simp [trimStart, h]

theorem trimEnd_eq_self {s : List Char} (h : startsBlank s.reverse = false) : trimEnd s = s := by
  change (trimStart s.reverse).reverse = s
  rw [trimStart_eq_self h, List.reverse_reverse]

theorem trimEnd_isPrefix (s : List Char) : trimEnd s <+: s := by
  have h : trimEnd s <+: s.reverse.reverse :=
    List.reverse_prefix.mpr (List.dropWhile_suffix isBlank)
  rwa [List.reverse_reverse] at h

theorem startsBlank_trim (s : List Char) : startsBlank (trim s) = false :=
  startsBlank_of_isPrefix (trimEnd_isPrefix _) (startsBlank_trimStart s)

theorem startsBlank_reverse_trim (s : List Char) : startsBlank (trim s).reverse = false := by
  change startsBlank (trimStart (trimStart s).reverse).reverse.reverse = false
  rw [List.reverse_reverse]
  exact startsBlank_trimStart _

/-- A text is trimmed exactly when it neither starts nor ends with a blank. -/
theorem trimmed_iff {s : List Char} :
    Trimmed s ↔ startsBlank s = false ∧ startsBlank s.reverse = false := by
  constructor
  · intro h
    rw [← show trim s = s from h]
    exact ⟨startsBlank_trim s, startsBlank_reverse_trim s⟩
  · intro ⟨hs, he⟩
    change trimEnd (trimStart s) = s
    rw [trimStart_eq_self hs, trimEnd_eq_self he]

/-- What has been trimmed stays as it is. -/
theorem trimmed_trim (s : List Char) : Trimmed (trim s) :=
  trimmed_iff.mpr ⟨startsBlank_trim s, startsBlank_reverse_trim s⟩

/-- Two texts in a row are trimmed when the first starts well and the second ends well. -/
theorem trimmed_append {a b : List Char} (ha : a ≠ []) (hb : b ≠ []) (hs : startsBlank a = false)
    (he : startsBlank b.reverse = false) : Trimmed (a ++ b) := by
  rw [trimmed_iff, startsBlank_append ha, startsBlank_reverse_append a hb]
  exact ⟨hs, he⟩

theorem trimStart_blanks_append {p : List Char} (hp : ∀ c ∈ p, isBlank c = true) (s : List Char) :
    trimStart (p ++ s) = trimStart s := List.dropWhile_append_of_pos hp

theorem trimEnd_append_blanks (s : List Char) {q : List Char} (hq : ∀ c ∈ q, isBlank c = true) :
    trimEnd (s ++ q) = trimEnd s := by
  change (trimStart (s ++ q).reverse).reverse = _
  rw [List.reverse_append, trimStart_blanks_append (by simpa using hq)]
  rfl

private theorem trimStart_eq_nil_iff {s : List Char} :
    trimStart s = [] ↔ ∀ c ∈ s, isBlank c = true :=
  List.dropWhile_eq_nil_iff

/-- Blanks around a text are trimmed away with its own. -/
theorem trim_blanks_append_blanks {p q : List Char} (hp : ∀ c ∈ p, isBlank c = true)
    (s : List Char) (hq : ∀ c ∈ q, isBlank c = true) : trim (p ++ s ++ q) = trim s := by
  change trimEnd (trimStart (p ++ s ++ q)) = trimEnd (trimStart s)
  rw [List.append_assoc, trimStart_blanks_append hp]
  by_cases hs : trimStart s = []
  · have hall : ∀ c ∈ s ++ q, isBlank c = true := by
      intro c hc
      rcases List.mem_append.mp hc with hc | hc
      · exact trimStart_eq_nil_iff.mp hs c hc
      · exact hq c hc
    rw [hs, trimStart_eq_nil_iff.mpr hall]
  · have happ : trimStart (s ++ q) = trimStart s ++ q := by
      rw [trimStart, List.dropWhile_append, if_neg (by simpa [trimStart] using hs)]
      rfl
    rw [happ, trimEnd_append_blanks _ hq]

theorem trim_blanks_append {p : List Char} (hp : ∀ c ∈ p, isBlank c = true) (s : List Char) :
    trim (p ++ s) = trim s := by
  simpa using trim_blanks_append_blanks hp s (q := []) (by simp)

theorem trim_append_blanks (s : List Char) {q : List Char} (hq : ∀ c ∈ q, isBlank c = true) :
    trim (s ++ q) = trim s := by
  simpa using trim_blanks_append_blanks (p := []) (by simp) s hq

/-- Trimming takes blanks off the front and off the end. -/
theorem eq_blanks_append_trim (s : List Char) :
    ∃ p q, s = p ++ trim s ++ q ∧ (∀ c ∈ p, isBlank c = true) ∧ ∀ c ∈ q, isBlank c = true := by
  refine ⟨s.takeWhile isBlank, ((trimStart s).reverse.takeWhile isBlank).reverse, ?_, ?_, ?_⟩
  · have hend : trim s ++ ((trimStart s).reverse.takeWhile isBlank).reverse = trimStart s := by
      change ((trimStart s).reverse.dropWhile isBlank).reverse ++ _ = _
      rw [← List.reverse_append, List.takeWhile_append_dropWhile, List.reverse_reverse]
    rw [List.append_assoc, hend]
    exact List.takeWhile_append_dropWhile.symm
  · intro c hc
    exact List.mem_takeWhile_imp hc
  · intro c hc
    exact List.mem_takeWhile_imp (List.mem_reverse.mp hc)

/-- Trimming takes away at the ends only. -/
theorem trim_isInfix (s : List Char) : trim s <:+: s := by
  obtain ⟨p, q, h, -, -⟩ := eq_blanks_append_trim s
  exact ⟨p, q, h.symm⟩

theorem mem_of_mem_trim {c : Char} {s : List Char} (h : c ∈ trim s) : c ∈ s :=
  (trim_isInfix s).subset h

theorem trim_ne_nil {c : Char} {s : List Char} (h : isBlank c = false) : trim (c :: s) ≠ [] := by
  obtain ⟨p, q, hs, hp, hq⟩ := eq_blanks_append_trim (c :: s)
  intro hnil
  have hc : c ∈ p ++ q := by
    rw [hnil, List.append_nil] at hs
    simp [← hs]
  have hblank : isBlank c = true := (List.mem_append.mp hc).elim (hp c) (hq c)
  rw [h] at hblank
  exact Bool.noConfusion hblank

/-- A text that starts without a blank keeps its first character. -/
theorem head?_trim {s : List Char} (h : startsBlank s = false) : (trim s).head? = s.head? := by
  cases s with
  | nil => rfl
  | cons c s =>
    obtain ⟨t, ht⟩ : trim (c :: s) <+: c :: s := by
      change trimEnd (trimStart (c :: s)) <+: _
      rw [trimStart_eq_self h]
      exact trimEnd_isPrefix _
    cases htrim : trim (c :: s) with
    | nil => exact absurd htrim (trim_ne_nil h)
    | cons d s' =>
      rw [htrim, List.cons_append] at ht
      rw [List.head?_cons, List.head?_cons, (List.cons.inj ht).1]

end SwitchInventory.Text
