import Mathlib.Data.List.Basic
import Mathlib.Data.Nat.Bitwise
import SwitchInventory.Proofs.Lists
import SwitchInventory.Text.Case

namespace SwitchInventory.Text

open SwitchInventory.Lists

/-- The number in which the binary digits at the members of a list are set. -/
def digitsAt : List Nat → Nat
  | [] => 0
  | n :: l => 1 <<< n ||| digitsAt l

private theorem testBit_digitsAt {l : List Nat} {n : Nat} :
    (digitsAt l).testBit n = true ↔ n ∈ l := by
  induction l with
  | nil => simp [digitsAt]
  | cons m l ih =>
    have hone : (1 <<< m).testBit n = true ↔ n = m := by
      rw [Nat.one_shiftLeft, Nat.testBit_two_pow]
      simp [eq_comm]
    rw [digitsAt, Nat.testBit_or, Bool.or_eq_true, hone, ih, List.mem_cons]

private theorem disjoint_of_digitsAt {l m : List Nat} (h : digitsAt l &&& digitsAt m = 0) :
    l.Disjoint m := by
  intro n hl hm
  have hbit : (digitsAt l &&& digitsAt m).testBit n = true := by
    rw [Nat.testBit_and, Bool.and_eq_true, testBit_digitsAt, testBit_digitsAt]
    exact ⟨hl, hm⟩
  rw [h, Nat.zero_testBit] at hbit
  cases hbit

namespace CaseRun

/-- The distances of the characters of a run from its first. -/
def offsets (r : CaseRun) : List Nat :=
  (List.range (r.last - r.first + 1)).filter fun i => i % r.step == 0

def sources (r : CaseRun) : List Nat := r.offsets.map (r.first + ·)

def targets (r : CaseRun) : List Nat := r.offsets.map (r.target + ·)

theorem mem_of_map? {r : CaseRun} {n m : Nat} (h : r.map? n = some m) :
    n ∈ r.sources ∧ m ∈ r.targets := by
  unfold map? at h
  split at h
  · rename_i hn
    obtain ⟨hlo, hhi, hstep⟩ := hn
    have hoffset : n - r.first ∈ r.offsets := by
      rw [offsets, List.mem_filter, List.mem_range, beq_iff_eq]
      exact ⟨by omega, hstep⟩
    refine ⟨List.mem_map.mpr ⟨_, hoffset, by omega⟩, List.mem_map.mpr ⟨_, hoffset, ?_⟩⟩
    exact Option.some.inj h
  · cases h

end CaseRun

/-- The characters of the expansions, each as a run of its own. -/
def singles (expansions : List (Nat × List Nat)) : List CaseRun :=
  expansions.flatMap fun e => e.2.map fun m => ⟨e.1, e.1, 1, m⟩

/-- Whether no character that the runs lead to is moved by one of them. -/
def Settled (runs : List CaseRun) : Prop :=
  digitsAt (runs.flatMap CaseRun.targets) &&& digitsAt (runs.flatMap CaseRun.sources) = 0 ∧
    ∀ m ∈ runs.flatMap CaseRun.targets, m.isValidChar

instance (runs : List CaseRun) : Decidable (Settled runs) := instDecidableAnd

theorem Settled.map?_eq_none {runs : List CaseRun} (h : Settled runs) {r q : CaseRun}
    (hr : r ∈ runs) (hq : q ∈ runs) {n m : Nat} (hm : r.map? n = some m) : q.map? m = none := by
  cases hq' : q.map? m with
  | none => rfl
  | some k =>
    have htarget : m ∈ runs.flatMap CaseRun.targets :=
      List.mem_flatMap.mpr ⟨r, hr, (CaseRun.mem_of_map? hm).2⟩
    have hsource : m ∈ runs.flatMap CaseRun.sources :=
      List.mem_flatMap.mpr ⟨q, hq, (CaseRun.mem_of_map? hq').1⟩
    exact absurd hsource (disjoint_of_digitsAt h.1 htarget)

private theorem Settled.toNat_ofNat {runs : List CaseRun} (h : Settled runs) {r : CaseRun}
    (hr : r ∈ runs) {n m : Nat} (hm : r.map? n = some m) : (Char.ofNat m).toNat = m := by
  have hvalid : m.isValidChar :=
    h.2 m (List.mem_flatMap.mpr ⟨r, hr, (CaseRun.mem_of_map? hm).2⟩)
  rw [Char.ofNat, dif_pos hvalid]
  rfl

section Mapping

variable {expansions : List (Nat × List Nat)} {runs : List CaseRun}

/-- A character that does not stay is moved by one of the runs. -/
theorem mem_mapCase {c d : Char} (h : d ∈ mapCase expansions runs c) :
    mapCase expansions runs c = [d] ∧ d = c ∨
      ∃ r ∈ runs ++ singles expansions, ∃ m, r.map? c.toNat = some m ∧ d = Char.ofNat m := by
  unfold mapCase at h ⊢
  cases hlookup : expansions.lookup c.toNat with
  | some image =>
    simp only [hlookup, List.mem_map] at h
    obtain ⟨m, hm, rfl⟩ := h
    have hrun : ⟨c.toNat, c.toNat, 1, m⟩ ∈ singles expansions :=
      List.mem_flatMap.mpr ⟨_, mem_of_lookup hlookup, List.mem_map.mpr ⟨m, hm, rfl⟩⟩
    exact .inr ⟨_, List.mem_append_right _ hrun, m, by simp [CaseRun.map?], rfl⟩
  | none =>
    cases hfind : runs.findSome? (·.map? c.toNat) with
    | some m =>
      simp only [hlookup, hfind, List.mem_singleton] at h
      obtain ⟨r, hr, hmap⟩ := List.exists_of_findSome?_eq_some hfind
      exact .inr ⟨r, List.mem_append_left _ hr, m, hmap, h⟩
    | none =>
      simp only [hlookup, hfind, List.mem_singleton] at h
      exact .inl ⟨by rw [h], h⟩

theorem mapCase_ne_nil (hne : ∀ e ∈ expansions, e.2 ≠ []) (c : Char) :
    mapCase expansions runs c ≠ [] := by
  unfold mapCase
  cases hlookup : expansions.lookup c.toNat with
  | some image => simpa using hne _ (mem_of_lookup hlookup)
  | none => cases runs.findSome? (·.map? c.toNat) <;> simp

/-- Nothing that a settled mapping leads to is moved again. -/
theorem mapCase_of_mem_mapCase (hne : ∀ e ∈ expansions, e.2 ≠ [])
    (h : Settled (runs ++ singles expansions)) {c d : Char} (hd : d ∈ mapCase expansions runs c) :
    mapCase expansions runs d = [d] := by
  rcases mem_mapCase hd with ⟨hself, rfl⟩ | ⟨r, hr, m, hmap, rfl⟩
  · exact hself
  · -- Were the target moved in its turn, its image would come from a run that moves it.
    have himage : mapCase expansions runs (Char.ofNat m) ≠ [] := mapCase_ne_nil hne _
    obtain ⟨e, he⟩ := List.exists_mem_of_ne_nil _ himage
    rcases mem_mapCase he with ⟨hself, rfl⟩ | ⟨q, hq, k, hmap', -⟩
    · exact hself
    · rw [h.toNat_ofNat hr hmap, h.map?_eq_none hr hq hmap] at hmap'
      cases hmap'

end Mapping

theorem settled_upper : Settled (upperRuns ++ singles upperExpansions) := by decide +kernel

private theorem upperExpansions_ne_nil : ∀ e ∈ upperExpansions, e.2 ≠ [] := by decide

/-- A text in upper case stays as it is when it is put into upper case again. -/
theorem upper_upper (s : String) : upper (upper s) = upper s := by
  have hchar (c : Char) : (upperChar c).flatMap upperChar = upperChar c := by
    have hsame : (upperChar c).flatMap upperChar = (upperChar c).flatMap fun d => [d] :=
      List.flatMap_congr fun d hd => mapCase_of_mem_mapCase upperExpansions_ne_nil settled_upper hd
    rw [hsame, List.flatMap_singleton']
  unfold upper
  rw [String.toList_ofList, List.flatMap_assoc]
  simp only [hchar]

/-- Only the empty text has nothing as its upper case form. -/
theorem upper_eq_empty_iff {s : String} : upper s = "" ↔ s = "" := by
  have hne (c : Char) : upperChar c ≠ [] := mapCase_ne_nil upperExpansions_ne_nil c
  rw [← String.toList_eq_nil_iff, ← String.toList_eq_nil_iff, upper, String.toList_ofList]
  cases s.toList with
  | nil => simp
  | cons c l => simp [hne]

end SwitchInventory.Text
