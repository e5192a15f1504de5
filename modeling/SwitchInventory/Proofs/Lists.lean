import Mathlib.Data.List.Basic
import Mathlib.Data.List.Infix
import Mathlib.Data.List.Perm.Basic

namespace SwitchInventory.Lists

variable {α β : Type}

theorem map_modify_eq {f : α → α} {g : α → β} (h : ∀ a, g (f a) = g a) (l : List α)
    (p : Nat) : (l.modify p f).map g = l.map g := by
  apply List.ext_getElem?
  intro j
  rw [List.getElem?_map, List.getElem?_map, List.getElem?_modify]
  cases l[j]? with
  | none => rfl
  | some a =>
    by_cases hp : p = j <;> simp [hp, h]

theorem mem_modify {f : α → α} {l : List α} {p : Nat} {a b : α} (ha : l[p]? = some a)
    (hb : b ∈ l.modify p f) : b = f a ∨ b ∈ l := by
  obtain ⟨j, hj⟩ := List.getElem?_of_mem hb
  rw [List.getElem?_modify] at hj
  by_cases hp : p = j
  · subst hp
    rw [ha] at hj
    simp only [if_true, Option.map_eq_map, Option.map_some, Option.some.injEq] at hj
    exact .inl hj.symm
  · simp only [hp, if_false, Option.map_eq_map, Option.map_id'] at hj
    exact .inr (List.mem_of_getElem? hj)

theorem mem_or_of_mem_modify {f : α → α} {l : List α} {p : Nat} {b : α}
    (hb : b ∈ l.modify p f) : b ∈ l ∨ ∃ a, l[p]? = some a ∧ b = f a := by
  cases ha : l[p]? with
  | none =>
    rw [List.modify_eq_self (List.getElem?_eq_none_iff.mp ha)] at hb
    exact .inl hb
  | some a => exact (mem_modify ha hb).symm.imp_right fun h => ⟨a, rfl, h⟩

theorem modify_concat (f : α → α) (l : List α) (a : α) :
    (l ++ [a]).modify l.length f = l ++ [f a] := by
  rw [List.modify_eq_take_cons_drop (by simp)]
  simp

theorem takeWhile_append_cons {p : α → Bool} {c : α} (h : p c = false) (a b : List α) :
    (a ++ c :: b).takeWhile p = a.takeWhile p := by
  induction a with
  | nil => simp [h]
  | cons d a ih => simp [List.takeWhile_cons, ih]

theorem mem_of_lookup [BEq α] [LawfulBEq α] {l : List (α × β)} {a : α} {b : β}
    (h : l.lookup a = some b) : (a, b) ∈ l := by
  obtain ⟨front, back, rfl, -⟩ := List.lookup_eq_some_iff.mp h
  simp

theorem eraseDups_concat [DecidableEq α] (l : List α) (a : α) :
    (l ++ [a]).eraseDups = if a ∈ l then l.eraseDups else l.eraseDups ++ [a] := by
  by_cases hk : a ∈ l <;> simp [List.eraseDups_append, List.removeAll, List.eraseDups_cons, hk]

/-- A rearrangement of equal elements changes nothing. -/
theorem eq_of_perm_of_forall_eq {as bs : List α} (hperm : as.Perm bs)
    (h : ∀ a ∈ as, ∀ b ∈ as, a = b) : as = bs := by
  cases as with
  | nil => exact hperm.nil_eq
  | cons a as =>
    have hall : a :: as = List.replicate (as.length + 1) a :=
      List.eq_replicate_iff.mpr ⟨rfl, fun b hb => h b hb a List.mem_cons_self⟩
    rw [hall] at hperm ⊢
    exact (List.perm_replicate.mp hperm.symm).symm

theorem isInfix_append_singleton_iff {c d : α} {a : List α} :
    [c, d] <:+: a ++ [d] ↔ [c, d] <:+: a ∨ a.getLast? = some c := by
  rw [List.infix_concat_iff, or_comm]
  apply or_congr_right
  constructor
  · intro hh
    obtain ⟨t, ht⟩ := hh
    have hd : t ++ [c] ++ [d] = a ++ [d] := by rw [← ht]; simp
    rw [← List.append_cancel_right hd, List.getLast?_append]
    rfl
  · intro h
    obtain ⟨t, rfl⟩ := List.getLast?_eq_some_iff.mp h
    exact ⟨t, by simp⟩

theorem not_mem_of_mem_splitOn [DecidableEq α] {a : α} {s l : List α}
    (h : l ∈ s.splitOn a) : a ∉ l := by
  induction s generalizing l with
  | nil =>
    rw [List.splitOn_nil, List.mem_singleton] at h
    simp [h]
  | cons x s ih =>
    rw [List.splitOn_cons_eq_if_modifyHead] at h
    by_cases hx : x = a
    · rw [if_pos (by simpa using hx), List.mem_cons] at h
      rcases h with rfl | h
      · simp
      · exact ih h
    · rw [if_neg (by simpa using hx)] at h
      cases hs : s.splitOn a with
      | nil => exact absurd hs (List.splitOn_ne_nil a s)
      | cons m ms =>
        rw [hs, List.modifyHead_cons, List.mem_cons] at h
        rcases h with rfl | h
        · have hm := ih (l := m) (by rw [hs]; exact List.mem_cons_self)
          simpa [hm] using Ne.symm hx
        · exact ih (by rw [hs]; exact List.mem_cons_of_mem _ h)

theorem length_splitOn [DecidableEq α] (a : α) (s : List α) :
    (s.splitOn a).length = s.count a + 1 := by
  induction s with
  | nil => rfl
  | cons x s ih =>
    rw [List.splitOn_cons_eq_if_modifyHead, List.count_cons]
    by_cases hx : x = a
    · rw [if_pos (by simpa using hx), if_pos (by simpa using hx), List.length_cons, ih]
    · rw [if_neg (by simpa using hx), if_neg (by simpa using hx), List.length_modifyHead, ih]

theorem intercalate_cons (mark x : List α) (xs : List (List α)) :
    mark.intercalate (x :: xs) = x ++ xs.flatMap (mark ++ ·) := by
  induction xs generalizing x with
  | nil => rw [List.intercalate_singleton, List.flatMap_nil, List.append_nil]
  | cons y ys ih =>
    rw [List.intercalate_cons_cons, ih, List.flatMap_cons, List.append_assoc, List.append_assoc]

theorem mem_of_mem_intercalate {x : α} {mark : List α} {pieces : List (List α)}
    (h : x ∈ mark.intercalate pieces) : x ∈ mark ∨ ∃ piece ∈ pieces, x ∈ piece := by
  induction pieces with
  | nil => cases h
  | cons p ps ih =>
    cases ps with
    | nil =>
      rw [List.intercalate_singleton] at h
      exact .inr ⟨p, List.mem_cons_self, h⟩
    | cons q qs =>
      rw [List.intercalate_cons_cons, List.mem_append, List.mem_append] at h
      rcases h with (h | h) | h
      · exact .inr ⟨p, List.mem_cons_self, h⟩
      · exact .inl h
      · rcases ih h with h | ⟨piece, hpiece, h⟩
        · exact .inl h
        · exact .inr ⟨piece, List.mem_cons_of_mem p hpiece, h⟩

theorem isInfix_intercalate {mark piece : List α} {pieces : List (List α)}
    (h : piece ∈ pieces) : piece <:+: mark.intercalate pieces := by
  induction pieces with
  | nil => cases h
  | cons p ps ih =>
    cases ps with
    | nil =>
      refine ⟨[], [], ?_⟩
      rw [List.mem_singleton.mp h, List.intercalate_singleton, List.nil_append, List.append_nil]
    | cons q qs =>
      rw [List.intercalate_cons_cons]
      rcases List.mem_cons.mp h with rfl | h
      · exact ((List.prefix_append piece mark).trans (List.prefix_append _ _)).isInfix
      · exact (ih h).trans (List.suffix_append _ _).isInfix

end SwitchInventory.Lists
