import Mathlib.Data.List.Basic
import SwitchInventory.Proofs.Text.Trim
import SwitchInventory.Text.Lines

namespace SwitchInventory.Text

/-- The text that consists of the given lines, each ended by a line feed. -/
def unlines (ls : List (List Char)) : List Char := ls.flatMap (· ++ ['\n'])

@[simp] theorem unlines_nil : unlines [] = [] := rfl

@[simp] theorem unlines_cons (l : List Char) (ls : List (List Char)) :
    unlines (l :: ls) = l ++ '\n' :: unlines ls := by
  simp [unlines]

@[simp] theorem unlines_append (ls ms : List (List Char)) :
    unlines (ls ++ ms) = unlines ls ++ unlines ms := List.flatMap_append

theorem lines_cons {c : Char} {s : List Char} (hc : c ≠ '\n')
    (hr : c = '\r' → s.head? ≠ some '\n') : lines (c :: s) = consLine c (lines s) := by
  rw [lines]
  · exact hc
  · intro t hcr hs
    exact hr hcr (by rw [hs]; rfl)

/-- A line feed ends the line before it, whatever follows. -/
theorem lines_append_newline {l : List Char} (h : '\n' ∉ l) (hr : l.getLast? ≠ some '\r')
    (s : List Char) : lines (l ++ '\n' :: s) = l :: lines s := by
  induction l with
  | nil => rw [List.nil_append, lines]
  | cons c l ih =>
    have hc : c ≠ '\n' := fun e => h (e ▸ List.mem_cons_self)
    have hl : '\n' ∉ l := fun m => h (List.mem_cons_of_mem _ m)
    cases l with
    | nil =>
      have hcr : c ≠ '\r' := fun e => hr (by rw [e]; rfl)
      rw [List.cons_append, lines_cons hc (fun e => absurd e hcr), List.nil_append, lines]
      rfl
    | cons d l =>
      have hd : d ≠ '\n' := fun e => hl (e ▸ List.mem_cons_self)
      have hhead : c = '\r' → (d :: l ++ '\n' :: s).head? ≠ some '\n' := by
        intro _ e
        exact hd (Option.some.inj e)
      have htail : (d :: l).getLast? ≠ some '\r' := by
        rwa [List.getLast?_cons_cons] at hr
      rw [List.cons_append, lines_cons hc hhead, ih hl htail]
      rfl

/-- Lines that were ended one by one are read back as they are. -/
theorem lines_unlines {ls : List (List Char)}
    (h : ∀ l ∈ ls, '\n' ∉ l ∧ l.getLast? ≠ some '\r') : lines (unlines ls) = ls := by
  induction ls with
  | nil => rfl
  | cons l ls ih =>
    obtain ⟨hn, hr⟩ := h l List.mem_cons_self
    rw [unlines_cons, lines_append_newline hn hr, ih fun m hm => h m (List.mem_cons_of_mem _ hm)]

/-- A line never holds a line feed. -/
theorem newline_not_mem_of_mem_lines {s l : List Char} (h : l ∈ lines s) : '\n' ∉ l := by
  induction s using lines.induct generalizing l with
  | case1 => simp [lines] at h
  | case2 s ih =>
    rw [lines, List.mem_cons] at h
    rcases h with rfl | h
    · simp
    · exact ih h
  | case3 s ih =>
    rw [lines, List.mem_cons] at h
    rcases h with rfl | h
    · simp
    · exact ih h
  | case4 c s hc hr ih =>
    have hhead : c = '\r' → s.head? ≠ some '\n' := by
      intro e he
      obtain ⟨t, rfl⟩ := List.head?_eq_some_iff.mp he
      exact hr t e rfl
    rw [lines_cons hc hhead] at h
    cases hs : lines s with
    | nil =>
      rw [hs, consLine, List.mem_singleton] at h
      simpa [h] using Ne.symm hc
    | cons m ms =>
      rw [hs, consLine, List.mem_cons] at h
      rcases h with rfl | h
      · have hm := ih (l := m) (by rw [hs]; exact List.mem_cons_self)
        simpa [hm] using Ne.symm hc
      · exact ih (by rw [hs]; exact List.mem_cons_of_mem _ h)

theorem lines_ne_nil {s : List Char} (h : s ≠ []) : lines s ≠ [] := by
  cases hs : lines s with
  | cons l ls => simp
  | nil =>
    unfold lines at hs
    split at hs
    · exact absurd rfl h
    · cases hs
    · cases hs
    · unfold consLine at hs
      split at hs <;> cases hs

/-- A line feed keeps the lines before it apart from those after it. -/
theorem lines_append_cons (s t : List Char) :
    lines (s ++ '\n' :: t) = lines (s ++ ['\n']) ++ lines t := by
  induction s using lines.induct with
  | case1 => simp [lines]
  | case2 s ih => simp [lines, ih]
  | case3 s ih => simp [lines, ih]
  | case4 c s hc hr ih =>
    cases s with
    | nil =>
      by_cases hcr : c = '\r'
      · subst hcr
        simp [lines]
      · simp only [List.cons_append, List.nil_append]
        rw [lines_cons hc fun e => absurd e hcr, lines_cons hc fun e => absurd e hcr]
        simp [lines, consLine]
    | cons d s =>
      have hhead : c = '\r' → (d :: s).head? ≠ some '\n' := by
        intro hcr hd
        obtain rfl : d = '\n' := Option.some.inj hd
        exact hr s hcr rfl
      have hfront (u : List Char) : lines (c :: d :: s ++ u) = consLine c (lines (d :: s ++ u)) :=
        lines_cons hc hhead
      rw [hfront, hfront, ih]
      exact consLine_append (lines_ne_nil (by simp)) (lines t)

private theorem length_consLine {c : Char} {ls : List (List Char)} (h : ls ≠ []) :
    (consLine c ls).length = ls.length := by
  cases ls with
  | nil => exact absurd rfl h
  | cons l ls => rfl

/-- A text that ends in a line feed has as many lines as line feeds. -/
theorem length_lines_concat (s : List Char) :
    (lines (s ++ ['\n'])).length = s.count '\n' + 1 := by
  induction s using lines.induct with
  | case1 => simp [lines]
  | case2 s ih => simp [lines, ih]
  | case3 s ih => simp [lines, ih]
  | case4 c s hc hr ih =>
    have hcount : (c :: s).count '\n' = s.count '\n' := List.count_cons_of_ne hc
    cases s with
    | nil =>
      by_cases hcr : c = '\r'
      · subst hcr
        simp [lines]
      · rw [List.cons_append, lines_cons hc fun e => absurd e hcr, hcount,
          length_consLine (lines_ne_nil (by simp)), ih]
    | cons d s =>
      have hhead : c = '\r' → (d :: s ++ ['\n']).head? ≠ some '\n' := by
        intro hcr hd
        obtain rfl : d = '\n' := Option.some.inj hd
        exact hr s hcr rfl
      rw [List.cons_append, lines_cons hc hhead, hcount,
        length_consLine (lines_ne_nil (by simp)), ih]

private theorem length_lines_unlines_cons (l : List Char) (ls : List (List Char)) :
    (lines (unlines (l :: ls))).length = l.count '\n' + 1 + (lines (unlines ls)).length := by
  rw [unlines_cons, lines_append_cons, List.length_append, length_lines_concat]

private theorem length_le_length_lines_unlines (ls : List (List Char)) :
    ls.length ≤ (lines (unlines ls)).length := by
  induction ls with
  | nil => exact Nat.le_refl 0
  | cons l ls ih =>
    rw [length_lines_unlines_cons, List.length_cons]
    omega

/-- Ended lines are read as no more lines than they are only when none of them is broken. -/
theorem newline_not_mem_of_length_lines {ls : List (List Char)}
    (h : (lines (unlines ls)).length = ls.length) : ∀ l ∈ ls, '\n' ∉ l := by
  induction ls with
  | nil => simp
  | cons l ls ih =>
    have hrest := length_le_length_lines_unlines ls
    rw [length_lines_unlines_cons, List.length_cons] at h
    intro m hm
    rcases List.mem_cons.mp hm with rfl | hm
    · rw [← List.count_eq_zero]
      omega
    · exact ih (by omega) m hm

end SwitchInventory.Text
