namespace SwitchInventory.Keyed

variable {α κ : Type} [DecidableEq κ]

/-- Puts `x` in the place of the first element with its key, or at the end. -/
def put (key : α → κ) (x : α) : List α → List α
  | [] => [x]
  | y :: ys => if key y = key x then x :: ys else y :: put key x ys

/-- The first element with the given key. -/
def find? (key : α → κ) (k : κ) (xs : List α) : Option α := xs.find? (key · = k)

@[simp] theorem put_nil (key : α → κ) (x : α) : put key x [] = [x] := rfl

/-- The keys stay where they are, and a new one comes last. -/
theorem map_put (key : α → κ) (x : α) (xs : List α) :
    (put key x xs).map key =
      if key x ∈ xs.map key then xs.map key else xs.map key ++ [key x] := by
  induction xs with
  | nil => simp
  | cons y ys ih =>
    by_cases h : key y = key x
    · simp [put, h]
    · have h' : ¬ key x = key y := fun e => h e.symm
      simp only [put, if_neg h, List.map_cons, List.mem_cons, h', false_or, ih]
      split <;> simp

theorem nodup_map_put (key : α → κ) (x : α) {xs : List α} (h : (xs.map key).Nodup) :
    ((put key x xs).map key).Nodup := by
  rw [map_put]
  split
  · exact h
  · rename_i hx
    rw [List.nodup_append]
    refine ⟨h, by simp, ?_⟩
    intro a ha b hb e
    rw [List.mem_singleton] at hb
    exact hx (hb ▸ e ▸ ha)

end SwitchInventory.Keyed
