import Mathlib.Data.List.Induction
import Mathlib.Data.List.Nodup
import SwitchInventory.Proofs.Lists
import SwitchInventory.Keyed

namespace SwitchInventory.Keyed

open SwitchInventory.Lists

variable {α κ : Type} [DecidableEq κ] {key : α → κ}

/-- An element that is put is found under its key, and under all other keys nothing changes. -/
theorem find?_put (x : α) (xs : List α) (k : κ) :
    find? key k (put key x xs) = if key x = k then some x else find? key k xs := by
  unfold find?
  induction xs with
  | nil => by_cases hk : key x = k <;> simp [hk]
  | cons y ys ih =>
    by_cases hy : key y = key x
    · rw [put, if_pos hy, List.find?_cons, List.find?_cons, hy]
      by_cases hk : key x = k <;> simp [hk]
    · rw [put, if_neg hy, List.find?_cons, List.find?_cons, ih]
      by_cases hk : key x = k
      · have hyk : key y ≠ k := fun h => hy (h.trans hk.symm)
        simp [hk, hyk]
      · simp [hk]

/-- An element with a new key comes last. -/
theorem put_of_not_mem {x : α} {xs : List α} (h : key x ∉ xs.map key) :
    put key x xs = xs ++ [x] := by
  induction xs with
  | nil => rfl
  | cons y ys ih =>
    rw [List.map_cons, List.mem_cons, not_or] at h
    rw [put, if_neg (fun hy => h.1 hy.symm), ih h.2, List.cons_append]

private theorem put_eq_map {x : α} {xs : List α} (hnodup : (xs.map key).Nodup)
    (h : key x ∈ xs.map key) : put key x xs = xs.map fun y => if key y = key x then x else y := by
  induction xs with
  | nil => cases h
  | cons y ys ih =>
    rw [List.map_cons, List.nodup_cons] at hnodup
    rw [put, List.map_cons]
    by_cases hy : key y = key x
    · have hkeep : ys.map (fun y => if key y = key x then x else y) = ys.map id := by
        apply List.map_congr_left
        intro z hz
        have hzx : key z ≠ key x := fun e => hnodup.1 (hy ▸ e ▸ List.mem_map_of_mem hz)
        rw [if_neg hzx, id]
      rw [if_pos hy, if_pos hy, hkeep, List.map_id]
    · rw [List.map_cons, List.mem_cons] at h
      have hmem : key x ∈ ys.map key := h.resolve_left fun e => hy e.symm
      rw [if_neg hy, if_neg hy, ih hnodup.2 hmem]

theorem put_append_of_mem {x : α} {xs : List α} (h : key x ∈ xs.map key) (ys : List α) :
    put key x (xs ++ ys) = put key x xs ++ ys := by
  induction xs with
  | nil => cases h
  | cons y xs ih =>
    rw [List.cons_append, put, put]
    by_cases hy : key y = key x
    · rw [if_pos hy, if_pos hy, List.cons_append]
    · rw [List.map_cons, List.mem_cons] at h
      have hmem : key x ∈ xs.map key := h.resolve_left fun e => hy e.symm
      rw [if_neg hy, if_neg hy, ih hmem, List.cons_append]

theorem put_append_of_not_mem {x : α} {xs : List α} (h : key x ∉ xs.map key) (ys : List α) :
    put key x (xs ++ ys) = xs ++ put key x ys := by
  induction xs with
  | nil => rfl
  | cons y xs ih =>
    rw [List.map_cons, List.mem_cons, not_or] at h
    rw [List.cons_append, put, if_neg (fun hy => h.1 hy.symm), ih h.2, List.cons_append]

theorem filter_put (key : α → κ) (p : κ → Bool) (x : α) (xs : List α) :
    (put key x xs).filter (fun y => p (key y)) =
      if p (key x) then put key x (xs.filter fun y => p (key y))
      else xs.filter fun y => p (key y) := by
  induction xs with
  | nil =>
    cases hp : p (key x) <;> simp [hp]
  | cons y ys ih =>
    by_cases hy : key y = key x
    · cases hp : p (key x) <;> simp [put, hy, hp]
    · rw [put, if_neg hy, List.filter_cons, List.filter_cons, ih]
      cases hp : p (key x) <;> cases hq : p (key y) <;> simp [put, hy]

theorem not_mem_of_nodup_append {α κ : Type} {key : α → κ} {xs ys : List α} {y : α}
    (h : ((xs ++ y :: ys).map key).Nodup) : key y ∉ xs.map key := by
  intro hmem
  rw [List.map_append, List.nodup_append] at h
  exact h.2.2 _ hmem _ List.mem_cons_self rfl

/-- No key comes to occur twice. -/
theorem nodup_map_foldl_put (ys : List α) {xs : List α} (h : (xs.map key).Nodup) :
    ((ys.foldl (fun xs y => put key y xs) xs).map key).Nodup := by
  induction ys generalizing xs with
  | nil => exact h
  | cons y ys ih => exact ih (nodup_map_put key y h)

theorem foldl_put_of_nodup {xs ys : List α} (h : ((xs ++ ys).map key).Nodup) :
    ys.foldl (fun xs y => put key y xs) xs = xs ++ ys := by
  induction ys generalizing xs with
  | nil => rw [List.foldl_nil, List.append_nil]
  | cons y ys ih =>
    have hnew : key y ∉ xs.map key := not_mem_of_nodup_append h
    have hcons : xs ++ y :: ys = xs ++ [y] ++ ys := by simp
    rw [List.foldl_cons, put_of_not_mem hnew, ih (hcons ▸ h), hcons]

theorem mem_put {x z : α} {xs : List α} (h : z ∈ put key x xs) : z = x ∨ z ∈ xs := by
  induction xs with
  | nil => exact .inl (List.mem_singleton.mp h)
  | cons y ys ih =>
    rw [put] at h
    split at h
    · rcases List.mem_cons.mp h with hz | hz
      · exact .inl hz
      · exact .inr (List.mem_cons_of_mem y hz)
    · rcases List.mem_cons.mp h with hz | hz
      · exact .inr (hz ▸ List.mem_cons_self)
      · exact (ih hz).imp_right (List.mem_cons_of_mem y)

theorem mem_foldl_put {z : α} {xs ys : List α}
    (h : z ∈ ys.foldl (fun xs y => put key y xs) xs) : z ∈ xs ∨ z ∈ ys := by
  induction ys generalizing xs with
  | nil => exact .inl h
  | cons y ys ih =>
    rcases ih h with hz | hz
    · rcases mem_put hz with hz | hz
      · exact .inr (hz ▸ List.mem_cons_self)
      · exact .inl hz
    · exact .inr (List.mem_cons_of_mem y hz)

theorem find?_eq_none_iff {xs : List α} {k : κ} : find? key k xs = none ↔ k ∉ xs.map key := by
  simp [find?, List.find?_eq_none]

theorem mem_of_find?_eq_some {xs : List α} {k : κ} {x : α} (h : find? key k xs = some x) :
    x ∈ xs ∧ key x = k :=
  ⟨List.mem_of_find?_eq_some h, by simpa using List.find?_some h⟩

theorem find?_concat (xs : List α) (x : α) (k : κ) :
    find? key k (xs ++ [x]) = (find? key k xs).or (if key x = k then some x else none) := by
  rw [find?, List.find?_append, List.find?_singleton]
  simp [find?]

/-- Where no key occurs twice, each element is found under its own. -/
theorem find?_eq_some_of_mem {x : α} {xs : List α} (h : (xs.map key).Nodup) (hx : x ∈ xs) :
    find? key (key x) xs = some x := by
  induction xs with
  | nil => cases hx
  | cons y ys ih =>
    rw [List.map_cons, List.nodup_cons] at h
    rw [find?, List.find?_cons]
    rcases List.mem_cons.mp hx with rfl | hx
    · simp
    · have hy : key y ≠ key x := fun e => h.1 (e ▸ List.mem_map_of_mem hx)
      simpa [hy, find?] using ih h.2 hx

/-- Where no key occurs twice, at most one element has a given key. -/
theorem filter_eq_toList_find? {xs : List α} (h : (xs.map key).Nodup) (k : κ) :
    xs.filter (key · = k) = (find? key k xs).toList := by
  induction xs with
  | nil => rfl
  | cons x xs ih =>
    rw [List.map_cons, List.nodup_cons] at h
    by_cases hx : key x = k
    · have hrest : xs.filter (key · = k) = [] := by
        rw [List.filter_eq_nil_iff]
        intro y hy
        rw [decide_eq_true_eq, ← hx]
        exact fun e => h.1 (e ▸ List.mem_map_of_mem hy)
      simp [find?, hx, hrest]
    · rw [List.filter_cons_of_neg (by simpa using hx), ih h.2]
      simp [find?, hx]

/-- Each key stands where it was put first. -/
theorem map_foldl_put (ys : List α) :
    (ys.foldl (fun xs y => put key y xs) []).map key = (ys.map key).eraseDups := by
  induction ys using List.reverseRecOn with
  | nil => rfl
  | append_singleton ys y ih =>
    rw [List.foldl_append, List.foldl_cons, List.foldl_nil, map_put, ih, List.map_append,
      List.map_singleton, eraseDups_concat]
    simp only [List.mem_eraseDups]

/-- Under each key stands what was put last. -/
theorem find?_foldl_put (ys xs : List α) (k : κ) :
    find? key k (ys.foldl (fun xs y => put key y xs) xs) =
      (ys.findRev? (key · = k)).or (find? key k xs) := by
  induction ys generalizing xs with
  | nil => rfl
  | cons y ys ih =>
    rw [List.foldl_cons, ih, find?_put, List.findRev?_eq_find?_reverse,
      List.findRev?_eq_find?_reverse, List.reverse_cons, List.find?_append, Option.or_assoc]
    by_cases hy : key y = k <;> simp [hy]

/-- What a list that elements are put into comes to: its keys stand in the order in which they were
put first, and under each of them the value that was put last is found. -/
structure LastWins {β : Type} (key : α → κ) (value : α → β) (puts : List α) (keys : List κ)
    (found : κ → Option β) : Prop where
  nodup : keys.Nodup
  order : keys = (puts.map key).eraseDups
  last : ∀ k, found k = (puts.findRev? (key · = k)).map value

/-- Of elements that are put one after the other, the first with a key decides on its place and the
last on what stands there. -/
theorem lastWins_foldl_put {β : Type} (key : α → κ) (value : α → β) (puts : List α) :
    LastWins key value puts ((puts.foldl (fun xs x => put key x xs) []).map key)
      (fun k => (find? key k (puts.foldl (fun xs x => put key x xs) [])).map value) where
  nodup := nodup_map_foldl_put puts List.nodup_nil
  order := map_foldl_put puts
  last k := by
    rw [find?_foldl_put]
    simp [find?]

/-- Leaving out elements with known keys makes no difference to which keys there are besides. -/
theorem or_mem_map_filter {ks : List κ} {ys : List α} {k : κ} :
    k ∈ ks ∨ k ∈ (ys.filter (key · ∉ ks)).map key ↔ k ∈ ks ∨ k ∈ ys.map key := by
  by_cases hk : k ∈ ks
  · exact iff_of_true (.inl hk) (.inl hk)
  · apply or_congr_right
    constructor
    · intro h
      obtain ⟨y, hy, rfl⟩ := List.mem_map.mp h
      exact List.mem_map_of_mem (List.mem_of_mem_filter hy)
    · intro h
      obtain ⟨y, hy, rfl⟩ := List.mem_map.mp h
      exact List.mem_map_of_mem (List.mem_filter.mpr ⟨hy, by simpa using hk⟩)

/-- The list with `f` applied to the elements with the given key. -/
def change (key : α → κ) (k : κ) (f : α → α) (xs : List α) : List α :=
  xs.map fun x => if key x = k then f x else x

private theorem key_change_element {f : α → α} (hf : ∀ x, key (f x) = key x) (k : κ) (x : α) :
    key (if key x = k then f x else x) = key x := by
  split
  · exact hf x
  · rfl

theorem change_of_not_mem {k : κ} {xs : List α} (h : k ∉ xs.map key) (f : α → α) :
    change key k f xs = xs := by
  have hkeep : ∀ x ∈ xs, (if key x = k then f x else x) = id x := by
    intro x hx
    have hxk : key x ≠ k := fun e => h (e ▸ List.mem_map_of_mem hx)
    rw [if_neg hxk, id]
  rw [change, List.map_congr_left hkeep, List.map_id]

theorem map_change {f f' g : α → α} (hg : ∀ x, key (g x) = key x) (h : ∀ x, g (f x) = f' (g x))
    (k : κ) (xs : List α) : (change key k f xs).map g = change key k f' (xs.map g) := by
  rw [change, change, List.map_map, List.map_map]
  apply List.map_congr_left
  intro x _
  rw [Function.comp_apply, Function.comp_apply, hg]
  split
  · exact h x
  · rfl

theorem find?_change {f : α → α} (hf : ∀ x, key (f x) = key x) (k j : κ) (xs : List α) :
    find? key j (change key k f xs) =
      (find? key j xs).map fun x => if key x = k then f x else x := by
  rw [find?, change, List.find?_map]
  simp only [Function.comp_def, key_change_element hf, find?]

theorem filter_change {f : α → α} (hf : ∀ x, key (f x) = key x) (p : κ → Bool) (k : κ)
    (xs : List α) :
    (change key k f xs).filter (fun x => p (key x)) =
      change key k f (xs.filter fun x => p (key x)) := by
  rw [change, List.filter_map]
  simp only [Function.comp_def, key_change_element hf, change]

/-- Where no key occurs twice, an element is changed by its place as well as by its key. -/
theorem modify_eq_change {xs : List α} (h : (xs.map key).Nodup) {p : Nat} {x : α}
    (hp : xs[p]? = some x) {f g : α → α} (hfg : f x = g x) :
    xs.modify p f = change key (key x) g xs := by
  induction xs generalizing p with
  | nil => cases hp
  | cons y ys ih =>
    rw [List.map_cons, List.nodup_cons] at h
    cases p with
    | zero =>
      obtain rfl : y = x := by simpa using hp
      have hkeep : change key (key y) g ys = ys := change_of_not_mem h.1 g
      rw [change] at hkeep
      simp [change, hkeep, hfg]
    | succ p =>
      have hx : x ∈ ys := List.mem_of_getElem? (by simpa using hp)
      have hy : key y ≠ key x := fun e => h.1 (e ▸ List.mem_map_of_mem hx)
      have htail := ih h.2 (by simpa using hp)
      simp [change, hy, htail]

/-- The elements of `xs`, each in the place of which `ys` has one with the same key replaced by that
one, and after them the elements of `ys` with other keys. -/
def overlay (key : α → κ) (xs ys : List α) : List α :=
  xs.map (fun x => (find? key (key x) ys).getD x) ++ ys.filter (key · ∉ xs.map key)

private theorem key_getD_find? (key : α → κ) (x : α) (ys : List α) :
    key ((find? key (key x) ys).getD x) = key x := by
  cases h : find? key (key x) ys with
  | none => rfl
  | some y => exact (mem_of_find?_eq_some h).2

theorem overlay_nil (xs : List α) : overlay key xs [] = xs := by
  simp [overlay, find?]

theorem map_key_overlay_front (key : α → κ) (xs ys : List α) :
    (xs.map fun x => (find? key (key x) ys).getD x).map key = xs.map key := by
  rw [List.map_map]
  exact List.map_congr_left fun x _ => key_getD_find? key x ys

theorem overlay_put {xs : List α} (h : (xs.map key).Nodup) (y : α) (ys : List α) :
    overlay key xs (put key y ys) = put key y (overlay key xs ys) := by
  have hfront := map_key_overlay_front key xs ys
  have hback := filter_put key (fun k => decide (k ∉ xs.map key)) y ys
  unfold overlay
  by_cases hy : key y ∈ xs.map key
  · -- The element replaces the one in front, and none of those behind has its key.
    rw [← hfront] at h hy
    rw [put_append_of_mem hy, put_eq_map h hy, List.map_map]
    rw [hfront] at hy
    rw [hback, if_neg (by simpa using hy)]
    congr 1
    apply List.map_congr_left
    intro x _
    rw [find?_put, Function.comp_apply, key_getD_find? key]
    by_cases hx : key x = key y
    · rw [if_pos hx.symm, if_pos hx, Option.getD_some]
    · rw [if_neg (Ne.symm hx), if_neg hx]
  · have hfront' : xs.map (fun x => (find? key (key x) (put key y ys)).getD x) =
        xs.map fun x => (find? key (key x) ys).getD x := by
      apply List.map_congr_left
      intro x hx
      have hne : key y ≠ key x := fun e => hy (e ▸ List.mem_map_of_mem hx)
      rw [find?_put, if_neg hne]
    rw [hfront', hback, if_pos (by simpa using hy)]
    rw [← hfront] at hy
    rw [put_append_of_not_mem hy]

/-- Putting elements into a list that was laid over another one is the same as putting them in
before. -/
theorem overlay_foldl_put {xs : List α} (h : (xs.map key).Nodup) (zs ys : List α) :
    overlay key xs (zs.foldl (fun ys z => put key z ys) ys) =
      zs.foldl (fun ys z => put key z ys) (overlay key xs ys) := by
  induction zs generalizing ys with
  | nil => rfl
  | cons z zs ih => rw [List.foldl_cons, List.foldl_cons, ih, overlay_put h]

end SwitchInventory.Keyed
