import SwitchInventory.Inventory.Render
import SwitchInventory.PortMapping.Reader
import SwitchInventory.Proofs.Config.Breaks
import SwitchInventory.Proofs.Lists
import SwitchInventory.Proofs.Sequence
import SwitchInventory.Proofs.Text.Cut
import SwitchInventory.Proofs.Text.Lines

namespace SwitchInventory

open SwitchInventory.Config SwitchInventory.Lists SwitchInventory.Sequence SwitchInventory.Text

/-- A name that is read back from between the marks of a port mapping. -/
structure SafePortName (name : String) : Prop where
  ne_nil : name.toList ≠ []
  trimmed : Trimmed name.toList
  no_comma : ',' ∉ name.toList

instance (name : String) : Decidable (SafePortName name) :=
  decidable_of_iff (name.toList ≠ [] ∧ Trimmed name.toList ∧ ',' ∉ name.toList)
    ⟨fun ⟨h1, h2, h3⟩ => ⟨h1, h2, h3⟩, fun ⟨h1, h2, h3⟩ => ⟨h1, h2, h3⟩⟩

namespace SwitchPort

structure WellFormed (p : SwitchPort) : Prop where
  switch : SafePortName p.switch
  port : SafePortName p.port
  no_mark : ¬ [':', ':'] <:+: p.switch.toList

instance (p : SwitchPort) : Decidable p.WellFormed :=
  decidable_of_iff
    (SafePortName p.switch ∧ SafePortName p.port ∧ ¬ [':', ':'] <:+: p.switch.toList)
    ⟨fun ⟨h1, h2, h3⟩ => ⟨h1, h2, h3⟩, fun ⟨h1, h2, h3⟩ => ⟨h1, h2, h3⟩⟩

/-- The switch is told apart from the mark that follows it. -/
def EndsClear (p : SwitchPort) : Prop := p.switch.toList.getLast? ≠ some ':'

instance (p : SwitchPort) : Decidable p.EndsClear :=
  inferInstanceAs (Decidable (p.switch.toList.getLast? ≠ some ':'))

theorem toList_text (p : SwitchPort) :
    p.text.toList = p.switch.toList ++ [':', ':'] ++ p.port.toList := by
  simp [text]

theorem read_eq_ok_iff {spec : List Char} {p : SwitchPort} :
    read spec = .ok p ↔ ∃ front back, cut? [':', ':'] spec = some (front, back) ∧
      trim front ≠ [] ∧ trim back ≠ [] ∧ p = ⟨String.ofList (trim front), String.ofList (trim back)⟩ := by
  unfold read
  cases cut? [':', ':'] spec with
  | none => simp
  | some pair =>
    obtain ⟨front, back⟩ := pair
    by_cases hempty : (trim front).isEmpty || (trim back).isEmpty
    · have hno : ¬ (trim front ≠ [] ∧ trim back ≠ []) := by simpa [or_iff_not_imp_left] using hempty
      simp only [hempty, if_true]
      constructor
      · intro h
        cases h
      · intro ⟨f, b, hfb, hf, hb, _⟩
        obtain ⟨rfl, rfl⟩ := Prod.mk.inj (Option.some.inj hfb)
        exact absurd ⟨hf, hb⟩ hno
    · have hboth : trim front ≠ [] ∧ trim back ≠ [] := by simpa using hempty
      simp only [hempty]
      constructor
      · intro h
        exact ⟨front, back, rfl, hboth.1, hboth.2, (Except.ok.inj h).symm⟩
      · intro ⟨f, b, hfb, _, _, hp⟩
        obtain ⟨rfl, rfl⟩ := Prod.mk.inj (Option.some.inj hfb)
        rw [hp]
        rfl

/-- A port that is read is well-formed. -/
theorem wellFormed_of_read {spec : List Char} {p : SwitchPort} (hcomma : ',' ∉ spec)
    (h : read spec = .ok p) : p.WellFormed := by
  obtain ⟨front, back, hcut, hfront, hback, rfl⟩ := read_eq_ok_iff.mp h
  obtain ⟨rfl, hfirst⟩ := (cut?_eq_some_iff (by simp)).mp hcut
  refine ⟨⟨?_, ?_, ?_⟩, ⟨?_, ?_, ?_⟩, ?_⟩
  · rwa [String.toList_ofList]
  · rw [String.toList_ofList]
    exact trimmed_trim front
  · rw [String.toList_ofList]
    intro hmem
    exact hcomma (by simp [mem_of_mem_trim hmem])
  · rwa [String.toList_ofList]
  · rw [String.toList_ofList]
    exact trimmed_trim back
  · rw [String.toList_ofList]
    intro hmem
    exact hcomma (by simp [mem_of_mem_trim hmem])
  · rw [String.toList_ofList]
    intro hmark
    exact hfirst ((hmark.trans (trim_isInfix front)).trans (List.prefix_append front _).isInfix)

theorem tight_text_of_read {value : String} (hv : SafeValue value) {spec : List Char}
    (hspec : spec <:+: value.toList) {p : SwitchPort} (h : read spec = .ok p) :
    Tight p.text.toList := by
  obtain ⟨front, back, hcut, -, -, rfl⟩ := read_eq_ok_iff.mp h
  obtain ⟨rfl, -⟩ := (cut?_eq_some_iff (by simp)).mp hcut
  have hfront : front <:+: front ++ [':', ':'] ++ back := ⟨[], [':', ':'] ++ back, by simp⟩
  have hback : back <:+: front ++ [':', ':'] ++ back := ⟨front ++ [':', ':'], [], by simp⟩
  have hswitch : Tight (trim front) :=
    hv.tight_of_isInfix (((trim_isInfix front).trans hfront).trans hspec) (trimmed_trim front)
  have hport : Tight (trim back) :=
    hv.tight_of_isInfix (((trim_isInfix back).trans hback).trans hspec) (trimmed_trim back)
  have hmark : Tight [':', ':'] := tight_of_no_newline (by simp) rfl
  rw [toList_text, String.toList_ofList, String.toList_ofList]
  exact (hswitch.append hmark).append hport

theorem WellFormed.trimmed_text {p : SwitchPort} (h : p.WellFormed) : Trimmed p.text.toList := by
  rw [toList_text, List.append_assoc]
  apply trimmed_append h.switch.ne_nil (by simp) (trimmed_iff.mp h.switch.trimmed).1
  rw [startsBlank_reverse_append _ h.port.ne_nil]
  exact (trimmed_iff.mp h.port.trimmed).2

theorem WellFormed.no_comma_text {p : SwitchPort} (h : p.WellFormed) : ',' ∉ p.text.toList := by
  rw [toList_text]
  simp [h.switch.no_comma, h.port.no_comma]

/-- A colon at the end of the switch would be taken for a part of the mark behind it. -/
theorem WellFormed.read_text_iff {p : SwitchPort} (h : p.WellFormed) :
    read p.text.toList = .ok p ↔ p.EndsClear := by
  constructor
  · -- A colon at the end would be the first of the mark, and what is cut in front of it is shorter.
    intro hread hcolon
    obtain ⟨front, back, hcut, -, -, hp⟩ := read_eq_ok_iff.mp hread
    obtain ⟨s, hs⟩ := List.getLast?_eq_some_iff.mp hcolon
    have hmark := h.no_mark
    have hearly : cut? [':', ':'] p.text.toList = some (s, ':' :: p.port.toList) := by
      rw [cut?_eq_some_iff (by simp), toList_text, hs]
      rw [hs] at hmark
      exact ⟨by simp, hmark⟩
    rw [hearly] at hcut
    obtain ⟨rfl, rfl⟩ := Prod.mk.inj (Option.some.inj hcut)
    have hswitch : p.switch.toList = trim s := by
      rw [congrArg SwitchPort.switch hp, String.toList_ofList]
    have hlen := (trim_isInfix s).length_le
    rw [← hswitch, hs, List.length_append, List.length_singleton] at hlen
    omega
  · intro hclear
    have hmark : ¬ [':', ':'] <:+: p.switch.toList ++ [':'] := by
      rw [isInfix_append_singleton_iff, not_or]
      exact ⟨h.no_mark, hclear⟩
    have hs : trim p.switch.toList = p.switch.toList := h.switch.trimmed
    have hp : trim p.port.toList = p.port.toList := h.port.trimmed
    rw [read_eq_ok_iff]
    refine ⟨p.switch.toList, p.port.toList, ?_, ?_, ?_, ?_⟩
    · rw [cut?_eq_some_iff (by simp)]
      exact ⟨toList_text p, hmark⟩
    · rw [hs]
      exact h.switch.ne_nil
    · rw [hp]
      exact h.port.ne_nil
    · rw [hs, hp, String.ofList_toList, String.ofList_toList]

end SwitchPort

namespace HostPorts

structure WellFormed (h : HostPorts) : Prop where
  key : SafeKey h.hostId
  no_colon : ':' ∉ h.hostId.toList
  ports_ne_nil : h.ports ≠ []
  ports : ∀ p ∈ h.ports, p.WellFormed
  value : SafeValue h.value

instance (h : HostPorts) : Decidable h.WellFormed :=
  decidable_of_iff
    (SafeKey h.hostId ∧ ':' ∉ h.hostId.toList ∧ h.ports ≠ [] ∧ (∀ p ∈ h.ports, p.WellFormed) ∧
      SafeValue h.value)
    ⟨fun ⟨h1, h2, h3, h4, h5⟩ => ⟨h1, h2, h3, h4, h5⟩,
      fun ⟨h1, h2, h3, h4, h5⟩ => ⟨h1, h2, h3, h4, h5⟩⟩

theorem read_eq_ok_iff {hostId value : String} {line : Option Nat} {h : HostPorts} :
    read hostId value line = .ok h ↔ ':' ∉ hostId.toList ∧ h.hostId = hostId ∧
      List.Forall₂ (fun piece p => SwitchPort.read piece = .ok p) (pieces value) h.ports := by
  have hpiece (piece : List Char) (p : SwitchPort) :
      readPiece hostId line piece = .ok p ↔ SwitchPort.read piece = .ok p := by
    unfold readPiece
    cases SwitchPort.read piece <;> simp
  have hpieces (ports : List SwitchPort) : (pieces value).mapM (readPiece hostId line) = .ok ports ↔
      List.Forall₂ (fun piece p => SwitchPort.read piece = .ok p) (pieces value) ports := by
    rw [mapM_eq_ok_iff]
    simp only [hpiece]
  unfold read
  by_cases hcolon : ':' ∈ hostId.toList
  · simp [hcolon]
  · rw [if_neg hcolon, bind_eq_ok_iff]
    constructor
    · intro ⟨ports, hports, heq⟩
      have hh : (⟨hostId, ports⟩ : HostPorts) = h := Except.ok.inj heq
      rw [← hh]
      exact ⟨hcolon, rfl, (hpieces ports).mp hports⟩
    · intro ⟨_, hid, hports⟩
      refine ⟨h.ports, (hpieces h.ports).mpr hports, ?_⟩
      rw [← hid]
      rfl

private theorem mem_pieces {value : String} {piece : List Char} (h : piece ∈ pieces value) :
    ',' ∉ piece ∧ piece <:+: value.toList := by
  obtain ⟨s, hs, rfl⟩ := List.mem_map.mp h
  have hcomma := not_mem_of_mem_splitOn hs
  have hinfix : s <:+: [','].intercalate (value.toList.splitOn ',') := isInfix_intercalate hs
  rw [List.intercalate_splitOn] at hinfix
  exact ⟨fun hmem => hcomma (mem_of_mem_trim hmem), (trim_isInfix s).trans hinfix⟩

theorem toList_value (h : HostPorts) :
    h.value.toList = [','].intercalate (h.ports.map fun p => p.text.toList) := by
  rw [value, String.toList_intercalate, List.map_map]
  rfl

/-- The ports of a host that are read from a safe value are well-formed. -/
theorem wellFormed_of_read {hostId value : String} (hk : SafeKey hostId) (hv : SafeValue value)
    {line : Option Nat} {h : HostPorts} (hread : read hostId value line = .ok h) : h.WellFormed := by
  obtain ⟨hcolon, rfl, hports⟩ := read_eq_ok_iff.mp hread
  have hmem : ∀ p ∈ h.ports, ∃ piece ∈ pieces value, SwitchPort.read piece = .ok p :=
    fun p hp => exists_mem_of_forall₂ hports hp
  refine ⟨hk, hcolon, ?_, ?_, ?_⟩
  · intro hnil
    rw [hnil, List.forall₂_nil_right_iff] at hports
    exact List.splitOn_ne_nil ',' value.toList (List.map_eq_nil_iff.mp hports)
  · intro p hp
    obtain ⟨piece, hpiece, hread⟩ := hmem p hp
    exact SwitchPort.wellFormed_of_read (mem_pieces hpiece).1 hread
  · have htight : Tight h.value.toList := by
      have hmark : Tight [','] := tight_of_no_newline (by simp) rfl
      rw [toList_value]
      apply tight_intercalate hmark
      intro s hs
      obtain ⟨p, hp, rfl⟩ := List.mem_map.mp hs
      obtain ⟨piece, hpiece, hread⟩ := hmem p hp
      exact SwitchPort.tight_text_of_read hv (mem_pieces hpiece).2 hread
    have hsafe := htight.safeValue
    rwa [String.ofList_toList] at hsafe

theorem WellFormed.pieces_value {h : HostPorts} (hwf : h.WellFormed) :
    pieces h.value = h.ports.map fun p => p.text.toList := by
  have hsplit : h.value.toList.splitOn ',' = h.ports.map fun p => p.text.toList := by
    rw [toList_value]
    apply List.splitOn_intercalate
    · intro s hs
      obtain ⟨p, hp, rfl⟩ := List.mem_map.mp hs
      exact (hwf.ports p hp).no_comma_text
    · exact fun hnil => hwf.ports_ne_nil (List.map_eq_nil_iff.mp hnil)
  rw [pieces, hsplit, List.map_map]
  apply List.map_congr_left
  intro p hp
  exact (hwf.ports p hp).trimmed_text

/-- The ports of a host are read back exactly when none of their switches ends in a colon. -/
theorem WellFormed.read_value_iff {h : HostPorts} (hwf : h.WellFormed) (line : Option Nat) :
    read h.hostId h.value line = .ok h ↔ ∀ p ∈ h.ports, p.EndsClear := by
  rw [read_eq_ok_iff, hwf.pieces_value, List.forall₂_map_left_iff, List.forall₂_same]
  constructor
  · intro ⟨_, _, hall⟩ p hp
    exact (hwf.ports p hp).read_text_iff.mp (hall p hp)
  · intro hall
    exact ⟨hwf.no_colon, rfl, fun p hp => (hwf.ports p hp).read_text_iff.mpr (hall p hp)⟩

end HostPorts

end SwitchInventory
