import Mathlib.Data.List.Nodup
import Mathlib.Data.List.Perm.Basic
import Mathlib.Data.String.Basic
import SwitchInventory.Json.Value

namespace SwitchInventory.Json

/-- The members in the order of their names, of which none occurs twice. -/
def Ascending (members : List (String × Value)) : Prop := members.Pairwise (·.1 < ·.1)

def sortedMembers (members : List (String × Value)) : List (String × Value) :=
  members.foldl (fun sorted m => insertSorted m.1 m.2 sorted) []

theorem Value.sorted_eq (members : List (String × Value)) :
    Value.sorted members = .object (sortedMembers members) := rfl

variable {name : String} {v : Value} {members : List (String × Value)}

theorem insertSorted_perm (h : name ∉ members.map Prod.fst) :
    (insertSorted name v members).Perm ((name, v) :: members) := by
  induction members with
  | nil => exact .refl _
  | cons m members ih =>
    obtain ⟨other, w⟩ := m
    rw [List.map_cons, List.mem_cons, not_or] at h
    rw [insertSorted, if_neg h.1]
    split
    · exact .refl _
    · exact ((ih h.2).cons (other, w)).trans (.swap (name, v) (other, w) members)

private theorem mem_insertSorted {m : String × Value} (h : m ∈ insertSorted name v members) :
    m = (name, v) ∨ m ∈ members := by
  induction members with
  | nil => exact .inl (List.mem_singleton.mp h)
  | cons n members ih =>
    obtain ⟨other, w⟩ := n
    rw [insertSorted] at h
    split at h
    · exact (List.mem_cons.mp h).imp_right (List.mem_cons_of_mem _)
    · split at h
      · exact List.mem_cons.mp h
      · rcases List.mem_cons.mp h with rfl | h
        · exact .inr List.mem_cons_self
        · exact (ih h).imp_right (List.mem_cons_of_mem _)

theorem Ascending.insertSorted (h : Ascending members) (name : String) (v : Value) :
    Ascending (insertSorted name v members) := by
  induction members with
  | nil => exact List.pairwise_singleton _ _
  | cons m members ih =>
    obtain ⟨other, w⟩ := m
    obtain ⟨hfirst, hrest⟩ := List.pairwise_cons.mp h
    rw [Json.insertSorted]
    split
    · rename_i hsame
      exact List.pairwise_cons.mpr ⟨fun n hn => hsame ▸ hfirst n hn, hrest⟩
    · rename_i hne
      split
      · rename_i hlt
        refine List.pairwise_cons.mpr ⟨fun n hn => ?_, h⟩
        rcases List.mem_cons.mp hn with rfl | hn
        · exact hlt
        · exact lt_trans hlt (hfirst n hn)
      · rename_i hnlt
        have hlt : other < name := (lt_trichotomy name other).resolve_left hnlt |>.resolve_left hne
        refine List.pairwise_cons.mpr ⟨fun n hn => ?_, ih hrest⟩
        rcases mem_insertSorted hn with rfl | hn
        · exact hlt
        · exact hfirst n hn

/-- Sorting leaves one member of each name, in the order of the names. -/
theorem ascending_sortedMembers (members : List (String × Value)) :
    Ascending (sortedMembers members) := by
  have hrun (sorted : List (String × Value)) (h : Ascending sorted) :
      Ascending (members.foldl (fun sorted m => insertSorted m.1 m.2 sorted) sorted) := by
    induction members generalizing sorted with
    | nil => exact h
    | cons m members ih => exact ih _ (h.insertSorted m.1 m.2)
  exact hrun [] .nil

private theorem foldl_insertSorted_perm {sorted : List (String × Value)}
    (h : ((members ++ sorted).map Prod.fst).Nodup) :
    (members.foldl (fun sorted m => insertSorted m.1 m.2 sorted) sorted).Perm
      (members ++ sorted) := by
  induction members generalizing sorted with
  | nil => exact .refl _
  | cons m members ih =>
    rw [List.cons_append, List.map_cons, List.nodup_cons, List.map_append, List.mem_append,
      not_or] at h
    have hput := insertSorted_perm (v := m.2) h.1.2
    have hmove : (members ++ insertSorted m.1 m.2 sorted).Perm (m :: members ++ sorted) :=
      (hput.append_left members).trans List.perm_middle
    have hnames : ((members ++ insertSorted m.1 m.2 sorted).map Prod.fst).Nodup := by
      rw [(hmove.map Prod.fst).nodup_iff, List.cons_append, List.map_cons, List.nodup_cons,
        List.map_append, List.mem_append, not_or]
      exact h
    exact (ih hnames).trans hmove

/-- Where no name occurs twice, sorting loses nothing and adds nothing. -/
theorem sortedMembers_perm (h : (members.map Prod.fst).Nodup) :
    (sortedMembers members).Perm members := by
  have hnames : ((members ++ []).map Prod.fst).Nodup := by rwa [List.append_nil]
  have hall := foldl_insertSorted_perm hnames
  rwa [List.append_nil] at hall

/-- The order of the members makes no difference to the sorted object. -/
theorem sorted_eq_of_mem_iff {ms ns : List (String × Value)} (hms : (ms.map Prod.fst).Nodup)
    (hns : (ns.map Prod.fst).Nodup) (h : ∀ m, m ∈ ms ↔ m ∈ ns) :
    Value.sorted ms = Value.sorted ns := by
  have hperm : ms.Perm ns :=
    (List.perm_ext_iff_of_nodup (List.Nodup.of_map _ hms) (List.Nodup.of_map _ hns)).mpr h
  have hsorted : (sortedMembers ms).Perm (sortedMembers ns) :=
    (sortedMembers_perm hms).trans (hperm.trans (sortedMembers_perm hns).symm)
  have heq : sortedMembers ms = sortedMembers ns :=
    hsorted.eq_of_pairwise (fun m n _ _ hmn hnm => absurd hnm (lt_asymm hmn))
      (ascending_sortedMembers ms) (ascending_sortedMembers ns)
  rw [Value.sorted_eq, Value.sorted_eq, heq]

end SwitchInventory.Json
