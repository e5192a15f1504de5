import SwitchInventory.Proofs.Text.Lines

namespace SwitchInventory.Text

theorem exists_eq_trimEnd_append (s : List Char) :
    ∃ q, s = trimEnd s ++ q ∧ ∀ c ∈ q, isBlank c = true := by
  refine ⟨(s.reverse.takeWhile isBlank).reverse, ?_, ?_⟩
  · rw [trimEnd, ← List.reverse_append, List.takeWhile_append_dropWhile, List.reverse_reverse]
  · intro c hc
    exact List.mem_takeWhile_imp (List.mem_reverse.mp hc)

private theorem trimEnd_cons_trimEnd (c : Char) (s : List Char) :
    trimEnd (c :: trimEnd s) = trimEnd (c :: s) := by
  obtain ⟨q, hs, hq⟩ := exists_eq_trimEnd_append s
  have hcons : c :: s = (c :: trimEnd s) ++ q := congrArg (c :: ·) hs
  rw [hcons, trimEnd_append_blanks _ hq]

private theorem trimEnd_eq_nil {s : List Char} (h : ∀ c ∈ s, isBlank c = true) : trimEnd s = [] :=
  trimEnd_append_blanks [] h

theorem trim_trimEnd (s : List Char) : trim (trimEnd s) = trim s := by
  obtain ⟨q, hs, hq⟩ := exists_eq_trimEnd_append s
  have htrim := trim_append_blanks (trimEnd s) hq
  rwa [← hs, eq_comm] at htrim

theorem startsBlank_trimEnd {s : List Char} (h : trim s ≠ []) :
    startsBlank (trimEnd s) = startsBlank s := by
  have hne : trimEnd s ≠ [] := by
    intro hnil
    rw [← trim_trimEnd, hnil] at h
    exact h trim_nil
  obtain ⟨q, hs, -⟩ := exists_eq_trimEnd_append s
  have hstart := startsBlank_append hne q
  rwa [← hs, eq_comm] at hstart

/-- What stands between the line feeds of a text, without blanks at the ends. -/
def rows (s : List Char) : List (List Char) := (s.splitOn '\n').map trimEnd

/-- The text with a carriage return before each line feed. -/
def withReturns : List Char → List Char
  | [] => []
  | '\n' :: s => '\r' :: '\n' :: withReturns s
  | c :: s => c :: withReturns s

variable {c : Char} {s : List Char}

theorem rows_nil : rows [] = [[]] := by
  rw [rows, List.splitOn_nil]
  rfl

theorem rows_append_newline (a b : List Char) : rows (a ++ '\n' :: b) = rows a ++ rows b := by
  rw [rows, List.splitOn_append_cons_self, List.map_append]
  rfl

theorem rows_newline (s : List Char) : rows ('\n' :: s) = [] :: rows s := by
  have happend := rows_append_newline [] s
  rwa [rows_nil] at happend

theorem rows_cons (h : c ≠ '\n') (s : List Char) :
    rows (c :: s) = (rows s).modifyHead fun l => trimEnd (c :: l) := by
  rw [rows, rows, List.splitOn_cons_eq_if_modifyHead, if_neg (by simpa using h)]
  cases s.splitOn '\n' with
  | nil => rfl
  | cons l ls => simp [trimEnd_cons_trimEnd]

theorem rows_return (s : List Char) : rows ('\r' :: '\n' :: s) = [] :: rows s := by
  have hblank : trimEnd ['\r'] = [] := by decide
  rw [rows_cons (by decide), rows_newline, List.modifyHead_cons, hblank]

/-- Blanks at the end of a line make no difference. -/
theorem rows_append_blanks (s : List Char) {q : List Char}
    (hq : ∀ c ∈ q, isBlank c = true ∧ c ≠ '\n') : rows (s ++ q) = rows s := by
  induction s with
  | nil =>
    have hno : '\n' ∉ q := fun hmem => (hq _ hmem).2 rfl
    rw [List.nil_append, rows, List.splitOn_eq_singleton hno, List.map_singleton,
      trimEnd_eq_nil fun c hc => (hq c hc).1, rows_nil]
  | cons c s ih =>
    by_cases hc : c = '\n'
    · rw [hc, List.cons_append, rows_newline, rows_newline, ih]
    · rw [List.cons_append, rows_cons hc, rows_cons hc, ih]

/-- Nor do carriage returns before line feeds. -/
theorem rows_withReturns (s : List Char) : rows (withReturns s) = rows s := by
  induction s with
  | nil => rfl
  | cons c s ih =>
    by_cases hc : c = '\n'
    · subst hc
      rw [withReturns, rows_return, rows_newline, ih]
    · rw [withReturns, rows_cons hc, rows_cons hc, ih]
      exact fun h => hc h

/-- The rows of a text are its lines, and one more without characters where the last line has an
end. -/
theorem rows_eq_or_eq_concat (s : List Char) :
    rows s = (lines s).map trimEnd ∨ rows s = (lines s).map trimEnd ++ [[]] := by
  induction s using lines.induct with
  | case1 => exact .inr rows_nil
  | case2 s ih =>
    rw [rows_newline, lines]
    exact ih.imp (congrArg ([] :: ·)) (congrArg ([] :: ·))
  | case3 s ih =>
    rw [rows_return, lines]
    exact ih.imp (congrArg ([] :: ·)) (congrArg ([] :: ·))
  | case4 c s hc hr ih =>
    have hhead : c = '\r' → s.head? ≠ some '\n' := by
      intro hcr hs
      obtain ⟨t, rfl⟩ := List.head?_eq_some_iff.mp hs
      exact hr t hcr rfl
    rw [rows_cons hc, lines_cons hc hhead]
    cases s with
    | nil =>
      rw [rows_nil]
      exact .inl rfl
    | cons d s =>
      obtain ⟨l, ls, hls⟩ := List.exists_cons_of_ne_nil (lines_ne_nil (List.cons_ne_nil d s))
      rw [hls] at ih ⊢
      rcases ih with ih | ih
      · rw [ih]
        exact .inl (by simp [consLine, trimEnd_cons_trimEnd])
      · rw [ih]
        exact .inr (by simp [consLine, trimEnd_cons_trimEnd])

end SwitchInventory.Text
