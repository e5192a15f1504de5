import SwitchInventory.Proofs.Config.Concat

namespace SwitchInventory.Config

open SwitchInventory.Text

variable {text : String} {raw : List Char} {number : Nat}

theorem map_fst_numberedLines (text : String) :
    (numberedLines text).map Prod.fst = lines text.toList := List.zipIdx_map_fst 1 _

theorem pairwise_numberedLines (text : String) :
    ((numberedLines text).map Prod.snd).Pairwise (· < ·) := by
  rw [numberedLines, List.zipIdx_map_snd]
  exact List.pairwise_lt_range'

/-- Lines are counted from 1. -/
theorem bounds_of_mem_numberedLines (h : (raw, number) ∈ numberedLines text) :
    1 ≤ number ∧ number ≤ lineCount text := by
  obtain ⟨hle, hlt, -⟩ := List.mem_zipIdx h
  unfold lineCount
  omega

/-- The number of a line counts the lines before it. -/
theorem number_of_numberedLines_eq {front back : List (List Char × Nat)}
    (h : numberedLines text = front ++ (raw, number) :: back) : number = front.length + 1 := by
  obtain ⟨xs, zs, -, rfl, hback⟩ := List.zipIdx_eq_append_iff.mp h
  obtain ⟨line, ys, -, hline, -⟩ := List.zipIdx_eq_cons_iff.mp hback.symm
  rw [(Prod.mk.inj hline).2, List.length_zipIdx, Nat.add_comm]

/-- Where two texts start with the same lines, so do their numbered ones. -/
theorem take_numberedLines (text : String) (k : Nat) :
    (numberedLines text).take k = ((lines text.toList).take k).zipIdx 1 := by
  apply List.ext_getElem?
  intro i
  rw [numberedLines, List.getElem?_take, List.getElem?_zipIdx, List.getElem?_zipIdx,
    List.getElem?_take]
  split <;> rfl

theorem take_succ_numberedLines {k : Nat} (h : (lines text.toList)[k]? = some raw) :
    (numberedLines text).take (k + 1) = (numberedLines text).take k ++ [(raw, k + 1)] := by
  have hget : (numberedLines text)[k]? = some (raw, k + 1) := by
    simp [numberedLines, List.getElem?_zipIdx, h, Nat.add_comm]
  simp [List.take_add_one, hget]

end SwitchInventory.Config
