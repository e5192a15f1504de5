import SwitchInventory.Proofs.Text.Lines

namespace SwitchInventory.Text

def consEnded (c : Char) : List (List Char × List Char) → List (List Char × List Char)
  | [] => [([c], [])]
  | (line, ending) :: rest => (c :: line, ending) :: rest

/-- The lines of a text, each with the characters that end it. -/
def endedLines : List Char → List (List Char × List Char)
  | [] => []
  | '\n' :: s => ([], ['\n']) :: endedLines s
  | '\r' :: '\n' :: s => ([], ['\r', '\n']) :: endedLines s
  | c :: s => consEnded c (endedLines s)

/-- The text that consists of lines with their ends. -/
def joinEnded (ls : List (List Char × List Char)) : List Char := ls.flatMap fun l => l.1 ++ l.2

private theorem joinEnded_cons (l : List Char × List Char) (ls : List (List Char × List Char)) :
    joinEnded (l :: ls) = l.1 ++ l.2 ++ joinEnded ls := List.flatMap_cons

theorem map_fst_endedLines (s : List Char) : (endedLines s).map Prod.fst = lines s := by
  induction s using lines.induct with
  | case1 => rfl
  | case2 s ih => rw [endedLines, lines, List.map_cons, ih]
  | case3 s ih => rw [endedLines, lines, List.map_cons, ih]
  | case4 c s hc hr ih =>
    rw [endedLines, lines, ← ih]
    · cases endedLines s <;> rfl
    all_goals assumption

/-- A text consists of its lines with their ends. -/
theorem joinEnded_endedLines (s : List Char) : joinEnded (endedLines s) = s := by
  induction s using lines.induct with
  | case1 => rfl
  | case2 s ih => rw [endedLines, joinEnded_cons, ih]; rfl
  | case3 s ih => rw [endedLines, joinEnded_cons, ih]; rfl
  | case4 c s hc hr ih =>
    have hcons (ls : List (List Char × List Char)) :
        joinEnded (consEnded c ls) = c :: joinEnded ls := by
      cases ls <;> rfl
    rw [endedLines, hcons, ih]
    all_goals assumption

/-- Only the last line can be without an end. -/
theorem pairwise_endedLines (s : List Char) :
    (endedLines s).Pairwise fun l _ => ∃ front, l.2 = front ++ ['\n'] := by
  induction s using lines.induct with
  | case1 => exact .nil
  | case2 s ih =>
    rw [endedLines]
    exact ih.cons fun _ _ => ⟨[], rfl⟩
  | case3 s ih =>
    rw [endedLines]
    exact ih.cons fun _ _ => ⟨['\r'], rfl⟩
  | case4 c s hc hr ih =>
    rw [endedLines]
    · cases hs : endedLines s with
      | nil => exact List.pairwise_singleton _ _
      | cons l ls =>
        rw [hs, List.pairwise_cons] at ih
        exact ih.2.cons ih.1
    all_goals assumption

/-- A line with its end is one line on its own, too. -/
theorem lines_of_mem_endedLines {s : List Char} {l : List Char × List Char}
    (h : l ∈ endedLines s) : lines (l.1 ++ l.2) = [l.1] := by
  induction s using lines.induct generalizing l with
  | case1 => cases h
  | case2 s ih =>
    rw [endedLines] at h
    rcases List.mem_cons.mp h with rfl | h
    · simp [lines]
    · exact ih h
  | case3 s ih =>
    rw [endedLines] at h
    rcases List.mem_cons.mp h with rfl | h
    · simp [lines]
    · exact ih h
  | case4 c s hc hr ih =>
    rw [endedLines] at h
    · have hjoin := joinEnded_endedLines s
      cases hs : endedLines s with
      | nil =>
        rw [hs, consEnded, List.mem_singleton] at h
        rw [h, List.append_nil, lines_cons hc fun _ => by simp]
        rfl
      | cons m ms =>
        rw [hs, joinEnded_cons] at hjoin
        rw [hs, consEnded] at h
        rcases List.mem_cons.mp h with rfl | h
        · have hhead : c = '\r' → (m.1 ++ m.2).head? ≠ some '\n' := by
            intro hcr hm
            obtain ⟨t, ht⟩ := List.head?_eq_some_iff.mp hm
            rw [ht] at hjoin
            exact hr (t ++ joinEnded ms) hcr hjoin.symm
          have hm := ih (l := m) (by rw [hs]; exact List.mem_cons_self)
          rw [List.cons_append, lines_cons hc hhead, hm]
          rfl
        · exact ih (by rw [hs]; exact List.mem_cons_of_mem _ h)
    all_goals assumption

/-- Taking out lines leaves the others as they are. -/
theorem lines_joinEnded_of_sublist {s : List Char} {ls : List (List Char × List Char)}
    (h : ls.Sublist (endedLines s)) : lines (joinEnded ls) = ls.map Prod.fst := by
  have hone : ∀ l ∈ ls, lines (l.1 ++ l.2) = [l.1] := fun l hl =>
    lines_of_mem_endedLines (h.subset hl)
  have hended := (pairwise_endedLines s).sublist h
  clear h
  induction ls with
  | nil => rfl
  | cons l ls ih =>
    rw [List.pairwise_cons] at hended
    have hfirst := hone l List.mem_cons_self
    have hrest := ih (fun m hm => hone m (List.mem_cons_of_mem l hm)) hended.2
    cases ls with
    | nil =>
      rw [joinEnded_cons, joinEnded, List.flatMap_nil, List.append_nil, hfirst]
      rfl
    | cons m ms =>
      obtain ⟨front, hfront⟩ := hended.1 m List.mem_cons_self
      have hsplit : l.1 ++ l.2 ++ joinEnded (m :: ms) =
          (l.1 ++ front) ++ '\n' :: joinEnded (m :: ms) := by
        simp [hfront]
      have hends : l.1 ++ front ++ ['\n'] = l.1 ++ l.2 := by simp [hfront]
      rw [joinEnded_cons, hsplit, lines_append_cons, hends, hfirst, hrest]
      rfl

end SwitchInventory.Text
