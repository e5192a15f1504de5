import SwitchInventory.Proofs.PortMapping.RoundTrip

namespace SwitchInventory

open SwitchInventory.Lists SwitchInventory.Sequence SwitchInventory.Text

namespace SwitchPort

/-- The first double colon of a piece stands between `front` and `back`. Of three colons in a row it
is made of the first two. -/
structure Parted (piece front back : List Char) : Prop where
  eq : piece = front ++ [':', ':'] ++ back
  first : ¬ [':', ':'] <:+: front ++ [':']

/-- The port that a piece names: the switch before its first double colon, the port behind it. -/
inductive Names (piece : List Char) : SwitchPort → Prop
  | intro {front back : List Char} : Parted piece front back → trim front ≠ [] → trim back ≠ [] →
    Names piece ⟨String.ofList (trim front), String.ofList (trim back)⟩

theorem parted_iff {piece front back : List Char} :
    Parted piece front back ↔ cut? [':', ':'] piece = some (front, back) := by
  rw [cut?_eq_some_iff (by simp)]
  exact ⟨fun h => ⟨h.eq, h.first⟩, fun h => ⟨h.1, h.2⟩⟩

/-- A piece is read as the port that it names. -/
theorem read_eq_ok_iff_names {piece : List Char} {p : SwitchPort} :
    read piece = .ok p ↔ Names piece p := by
  rw [read_eq_ok_iff]
  constructor
  · intro hh
    obtain ⟨front, back, hcut, hfront, hback, rfl⟩ := hh
    exact .intro (parted_iff.mpr hcut) hfront hback
  · intro hh
    obtain ⟨hparted, hfront, hback⟩ := hh
    exact ⟨_, _, parted_iff.mp hparted, hfront, hback, rfl⟩

theorem read_of_not_infix {piece : List Char} (h : ¬ [':', ':'] <:+: piece) :
    read piece = .error .missingPortSeparator := by
  unfold read
  rw [(cut?_eq_none_iff (by simp)).mpr h]

theorem read_of_parted {piece front back : List Char} (h : Parted piece front back)
    (hempty : trim front = [] ∨ trim back = []) : read piece = .error .emptyName := by
  unfold read
  rw [parted_iff.mp h]
  simp [hempty]

end SwitchPort

namespace HostPorts

open SwitchPort (Names Parted parted_iff)

variable {hostId value : String} {line : Option Nat} {piece : List Char} {e : FormatError}

/-- What is wrong with a piece that names no port, and what is reported of it. -/
inductive Complaint (hostId : String) (line : Option Nat) (piece : List Char) : FormatError → Prop
  | unparted : ¬ [':', ':'] <:+: piece →
    Complaint hostId line piece
      ⟨.missingPortSeparator, hostId ++ " = " ++ String.ofList piece, line⟩
  | unnamed {front back : List Char} : Parted piece front back → trim front = [] ∨ trim back = [] →
    Complaint hostId line piece ⟨.emptyName, String.ofList piece, line⟩

/-- A piece is read as a port exactly when it names it. -/
theorem readPiece_eq_ok_iff {p : SwitchPort} :
    readPiece hostId line piece = .ok p ↔ Names piece p := by
  rw [← SwitchPort.read_eq_ok_iff_names]
  unfold readPiece
  cases SwitchPort.read piece <;> simp

private theorem readPiece_of_complaint (h : Complaint hostId line piece e) :
    readPiece hostId line piece = .error e := by
  unfold readPiece
  cases h with
  | unparted hno =>
    rw [SwitchPort.read_of_not_infix hno]
    rfl
  | unnamed hparted hempty =>
    rw [SwitchPort.read_of_parted hparted hempty]
    rfl

private theorem names_or_complaint (hostId : String) (line : Option Nat) (piece : List Char) :
    (∃ p, Names piece p) ∨ ∃ e, Complaint hostId line piece e := by
  cases hcut : cut? [':', ':'] piece with
  | none => exact .inr ⟨_, .unparted ((cut?_eq_none_iff (by simp)).mp hcut)⟩
  | some pair =>
    obtain ⟨front, back⟩ := pair
    have hparted : Parted piece front back := parted_iff.mpr hcut
    by_cases hempty : trim front = [] ∨ trim back = []
    · exact .inr ⟨_, .unnamed hparted hempty⟩
    · rw [not_or] at hempty
      exact .inl ⟨_, .intro hparted hempty.1 hempty.2⟩

theorem readPiece_eq_error_iff :
    readPiece hostId line piece = .error e ↔ Complaint hostId line piece e := by
  constructor
  · intro h
    rcases names_or_complaint hostId line piece with ⟨p, hp⟩ | ⟨d, hd⟩
    · rw [readPiece_eq_ok_iff.mpr hp] at h
      cases h
    · rw [readPiece_of_complaint hd] at h
      cases h
      exact hd
  · exact readPiece_of_complaint

/-- The texts between the commas of a value. -/
def specs (value : String) : List (List Char) := value.toList.splitOn ','

private theorem length_specs (value : String) : (specs value).length = value.toList.count ',' + 1 :=
  length_splitOn ',' value.toList

theorem read_eq_ok_iff_names {h : HostPorts} :
    read hostId value line = .ok h ↔ ':' ∉ hostId.toList ∧ h.hostId = hostId ∧
      List.Forall₂ (fun spec p => Names (trim spec) p) (specs value) h.ports := by
  rw [read_eq_ok_iff, pieces, List.forall₂_map_left_iff]
  simp only [SwitchPort.read_eq_ok_iff_names, specs]

/-- A value is read exactly when the host id is free of colons and every piece names a port. -/
theorem exists_read_eq_ok_iff :
    (∃ h, read hostId value line = .ok h) ↔
      ':' ∉ hostId.toList ∧ ∀ spec ∈ specs value, ∃ p, Names (trim spec) p := by
  rw [← exists_forall₂_iff]
  constructor
  · intro hh
    obtain ⟨h, hread⟩ := hh
    obtain ⟨hcolon, -, hports⟩ := read_eq_ok_iff_names.mp hread
    exact ⟨hcolon, h.ports, hports⟩
  · intro hh
    obtain ⟨hcolon, ports, hports⟩ := hh
    exact ⟨⟨hostId, ports⟩, read_eq_ok_iff_names.mpr ⟨hcolon, rfl, hports⟩⟩

/-- A host id with a colon is reported before any of the pieces, and else the first piece that names
no port. -/
theorem read_eq_error_iff :
    read hostId value line = .error e ↔
      ':' ∈ hostId.toList ∧ e = ⟨.reservedSeparator, hostId, line⟩ ∨
      ':' ∉ hostId.toList ∧ ∃ front spec back, specs value = front ++ spec :: back ∧
        (∀ s ∈ front, ∃ p, Names (trim s) p) ∧ Complaint hostId line (trim spec) e := by
  unfold read
  by_cases hcolon : ':' ∈ hostId.toList
  · simp [hcolon, eq_comm]
  · have hports : ((pieces value).mapM (readPiece hostId line) >>= fun ports =>
        (.ok ⟨hostId, ports⟩ : Except FormatError HostPorts)) = .error e ↔
        (specs value).mapM (fun spec => readPiece hostId line (trim spec)) = .error e := by
      rw [bind_eq_error_iff, pieces, List.mapM_map]
      simp [specs, Function.comp_def]
    rw [if_neg hcolon]
    refine hports.trans (mapM_eq_error_iff.trans ?_)
    simp only [readPiece_eq_ok_iff, readPiece_eq_error_iff, hcolon, false_and, not_false_eq_true,
      true_and, false_or]

/-- The ports of a host are read from the texts between the commas, one from each, and the first
text that names no port is reported. -/
theorem read_specs (hostId value : String) (line : Option Nat) :
    ([','].intercalate (specs value) = value.toList ∧ ∀ spec ∈ specs value, ',' ∉ spec) ∧
    ((∃ h, read hostId value line = .ok h) ↔
      ':' ∉ hostId.toList ∧ ∀ spec ∈ specs value, ∃ p, Names (trim spec) p) ∧
    (∀ h, read hostId value line = .ok h → h.hostId = hostId ∧
      h.ports.length = value.toList.count ',' + 1 ∧
      List.Forall₂ (fun spec p => Names (trim spec) p) (specs value) h.ports) ∧
    ∀ e, read hostId value line = .error e ↔
      ':' ∈ hostId.toList ∧ e = ⟨.reservedSeparator, hostId, line⟩ ∨
      ':' ∉ hostId.toList ∧ ∃ front spec back, specs value = front ++ spec :: back ∧
        (∀ s ∈ front, ∃ p, Names (trim s) p) ∧ Complaint hostId line (trim spec) e := by
  refine ⟨⟨List.intercalate_splitOn ',', fun spec => not_mem_of_mem_splitOn⟩, exists_read_eq_ok_iff,
    ?_, fun e => read_eq_error_iff⟩
  intro h hread
  obtain ⟨-, hid, hports⟩ := read_eq_ok_iff_names.mp hread
  exact ⟨hid, hports.length_eq ▸ length_specs value, hports⟩

/-- Three colons in a row, a colon in the port, and a value with two faults. -/
theorem read_specs_colons :
    (∃ h, read "h" " s :::p ,t::q:1" none = .ok h ∧ h.ports.length = 2 ∧
      h.ports = [⟨"s", ":p"⟩, ⟨"t", "q:1"⟩]) ∧
    read "h" "s::p, :: q,t" (some 3) = .error ⟨.emptyName, ":: q", some 3⟩ ∧
    read "h:" "s::p, :: q,t" (some 3) = .error ⟨.reservedSeparator, "h:", some 3⟩ := by
  have hread : read "h" " s :::p ,t::q:1" none = .ok ⟨"h", [⟨"s", ":p"⟩, ⟨"t", "q:1"⟩]⟩ := by rfl
  obtain ⟨-, -, hports, -⟩ := read_specs "h" " s :::p ,t::q:1" none
  obtain ⟨-, -, -, herror⟩ := read_specs "h" "s::p, :: q,t" (some 3)
  obtain ⟨-, -, -, hcolon⟩ := read_specs "h:" "s::p, :: q,t" (some 3)
  have hparted : Parted (trim "s::p".toList) ['s'] ['p'] := ⟨by decide, by decide⟩
  have hfirst : Names (trim "s::p".toList) ⟨"s", "p"⟩ := .intro hparted (by decide) (by decide)
  have hbare : Parted (trim " :: q".toList) [] [' ', 'q'] := ⟨by decide, by decide⟩
  have hsecond : Complaint "h" (some 3) (trim " :: q".toList) ⟨.emptyName, ":: q", some 3⟩ :=
    .unnamed hbare (.inl (by decide))
  refine ⟨⟨_, hread, (hports _ hread).2.1, rfl⟩, (herror _).mpr (.inr ⟨by decide, ?_⟩),
    (hcolon _).mpr (.inl ⟨by decide, rfl⟩)⟩
  exact ⟨["s::p".toList], " :: q".toList, ["t".toList], by rfl, by simpa using ⟨_, hfirst⟩, hsecond⟩

end HostPorts

end SwitchInventory
