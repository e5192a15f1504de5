import Mathlib.Data.List.Basic
import SwitchInventory.Files

namespace SwitchInventory.FileTree

variable {t : FileTree} {names way : List String} {name path : String}

theorem extend_of_ne (hempty : name ≠ "") (hdot : name ≠ ".") (hup : name ≠ "..") :
    extend names name = names ++ [name] := by
  rw [extend, if_neg (not_or.mpr ⟨hempty, hdot⟩), if_neg hup]

private theorem prefix_extend (hup : name ≠ "..") : way <+: extend way name := by
  unfold extend
  rw [if_neg hup]
  split
  · exact List.prefix_rfl
  · exact List.prefix_append way [name]

/-- Without `..` no path leads above its start. -/
theorem prefix_foldl_extend (hup : ".." ∉ names) : way <+: names.foldl extend way := by
  induction names generalizing way with
  | nil => exact List.prefix_rfl
  | cons name names ih =>
    obtain ⟨hname, hnames⟩ := not_or.mp (List.mem_cons.not.mp hup)
    exact (prefix_extend (Ne.symm hname)).trans (ih hnames)

/-- Names lead from directory to directory as long as no file stands in the way. -/
theorem foldlM_enter (hup : ".." ∉ names)
    (h : ∀ d, d <+: names.foldl extend way → t.place? d = some (.directory d)) :
    names.foldlM t.enter (.directory way) = .ok (.directory (names.foldl extend way)) := by
  induction names generalizing way with
  | nil => rfl
  | cons name names ih =>
    have hnames := (not_or.mp (List.mem_cons.not.mp hup)).2
    have hplace := h (extend way name) (prefix_foldl_extend hnames)
    have hstep : t.enter (.directory way) name = .ok (.directory (extend way name)) := by
      rw [enter, hplace]
    rw [List.foldlM_cons, hstep]
    exact ih hnames h

/-- What lies on the way to something that is put into the tree is a directory then. -/
private theorem place?_of_prefix {w d : List String} {content : Option ByteArray}
    (hfree : ∀ bytes, t.place? d ≠ some (.file bytes)) (hd : d <+: w) :
    place? { t with entries := (w ++ [name], content) :: t.entries } d = some (.directory d) := by
  have hne : (d == w ++ [name]) = false := by
    rw [beq_eq_false_iff_ne]
    rintro rfl
    have hlength := hd.length_le
    rw [List.length_append, List.length_singleton] at hlength
    omega
  have hin : d.isPrefixOf (w ++ [name]) = true :=
    List.isPrefixOf_iff_prefix.mpr (hd.trans (List.prefix_append w [name]))
  unfold place? at hfree ⊢
  rw [List.lookup_cons, hne]
  cases hlookup : t.entries.lookup d with
  | none => simp [hin]
  | some entry =>
    cases entry with
    | none => rfl
    | some bytes => exact absurd (by simp [hlookup]) (hfree bytes)

private theorem fromUTF8?_toUTF8 (text : String) : String.fromUTF8? text.toUTF8 = some text :=
  dif_pos text.isValidUTF8

/-- A text is read back from the path that it was put at. -/
theorem read_put {front : List String} {text : String} (hnames : pathNames path = front ++ [name])
    (hup : ".." ∉ front) (hname : name ≠ "" ∧ name ≠ "." ∧ name ≠ "..")
    (hnull : '\x00' ∉ path.toList) (hlong : path.utf8ByteSize ≤ longestPath)
    (hfree : ∀ d, d <+: front.foldl extend (t.start path) →
      ∀ bytes, t.place? d ≠ some (.file bytes)) :
    (t.put path (some text.toUTF8)).read path = .ok text := by
  let w := front.foldl extend (t.start path)
  have hlast : extend w name = w ++ [name] := extend_of_ne hname.1 hname.2.1 hname.2.2
  have hput : t.put path (some text.toUTF8) =
      { t with entries := (w ++ [name], some text.toUTF8) :: t.entries } := by
    rw [put, hnames, List.foldl_append, ← hlast]
    rfl
  have hfront : front.foldlM (t.put path (some text.toUTF8)).enter (.directory (t.start path)) =
      .ok (.directory w) := by
    refine foldlM_enter hup fun d hd => ?_
    rw [hput]
    exact place?_of_prefix (hfree d hd) hd
  have hfile : (t.put path (some text.toUTF8)).enter (.directory w) name =
      .ok (.file text.toUTF8) := by
    rw [enter, hlast, hput, place?, List.lookup_cons_self]
  have hpath : path.isEmpty = false := by
    rw [Bool.eq_false_iff, Ne, String.isEmpty_iff]
    rintro rfl
    have hlast := congrArg List.getLast? hnames
    rw [List.getLast?_concat] at hlast
    exact hname.1 (Option.some.inj hlast).symm
  have hway : (pathNames path).foldlM (t.put path (some text.toUTF8)).enter
      (.directory (t.start path)) = .ok (.file text.toUTF8) := by
    rw [hnames, List.foldlM_append, hfront]
    change [name].foldlM (t.put path (some text.toUTF8)).enter (.directory w) = _
    rw [List.foldlM_cons, hfile]
    rfl
  have hstart : (t.put path (some text.toUTF8)).start path = t.start path := rfl
  unfold read
  rw [if_neg hnull, hpath, if_neg Bool.false_ne_true, if_neg (Nat.not_lt.mpr hlong), hstart, hway]
  simp only [bind, Except.bind, fromUTF8?_toUTF8]

example : (system.put "etc/inventory.ini" (some "[x]".toUTF8)).read "etc/inventory.ini" = .ok "[x]"
    := by
  decide +kernel

end SwitchInventory.FileTree
