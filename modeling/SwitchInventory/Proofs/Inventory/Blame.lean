import SwitchInventory.Proofs.Config.LineNumbers
import SwitchInventory.Proofs.Inventory.WellFormed
import SwitchInventory.Proofs.PortMapping.Grammar

namespace SwitchInventory

open SwitchInventory.Config SwitchInventory.Sequence SwitchInventory.Text

/-- A section is refused for its name alone, and the error names the header's line. -/
theorem Purpose.fault_of_ofSection {s : Config.Section} {e : FormatError}
    (h : ofSection s = .error e) : ∃ name, s.name = sectionMark ++ name ∧
      (name = "" ∧ e = ⟨.emptyName, s.name, some s.line⟩ ∨
        ':' ∈ name.toList ∧ e = ⟨.reservedSeparator, s.name, some s.line⟩) := by
  by_cases hmark : ∃ name, s.name = sectionMark ++ name
  · obtain ⟨name, hname⟩ := hmark
    refine ⟨name, hname, ?_⟩
    rw [ofSection_marked hname] at h
    split at h
    · cases h
    split at h
    · exact .inl ⟨‹_›, (Except.error.inj h).symm⟩
    split at h
    · exact .inr ⟨‹_›, (Except.error.inj h).symm⟩
    · cases h
  · have hno : ∀ name, s.name ≠ sectionMark ++ name := fun name hname => hmark ⟨name, hname⟩
    rw [ofSection_unmarked hno] at h
    cases h

private theorem HostPorts.Complaint.exists_fault {hostId : String} {line : Option Nat}
    {piece : List Char} {e : FormatError} (h : Complaint hostId line piece e) :
    ∃ fault, SwitchPort.read piece = .error fault ∧ e = ⟨fault, faultSubject hostId piece fault, line⟩ := by
  cases h with
  | unparted hno => exact ⟨_, SwitchPort.read_of_not_infix hno, rfl⟩
  | unnamed hparted hempty => exact ⟨_, SwitchPort.read_of_parted hparted hempty, rfl⟩

/-- Port mappings are refused for one of their entries, and the error names its line. -/
theorem PortMappings.fault_of_ofSection {s : Config.Section} {e : FormatError}
    (h : (ofSection s).result = .error e) :
    ∃ entry ∈ s.entries, HostPorts.read entry.key entry.value (some entry.line) = .error e := by
  rw [result_ofSection, map_eq_error_iff] at h
  exact exists_mem_of_mapM_eq_error h

namespace Inventory

variable {text : String} {n : Nat} {e : FormatError} {sections : List Config.Section}

/-- Line `n` carries the key of an entry in the section of that name. -/
structure Carries (text : String) (n : Nat) (name : String) (entry : Config.Entry) : Prop where
  mem : ∃ sections, (Config.read text).result = .ok sections ∧
    ∃ s ∈ sections, s.name = name ∧ entry ∈ s.entries
  line : entry.line = n
  said : Says (numberedLines text) n (.entry entry.key entry.firstValueLine)

/-- What is wrong with line `n`, and what is reported of it. -/
inductive Blamed (text : String) (n : Nat) : FormatError → Prop where
  /-- The line is neither a header nor an entry. -/
  | unreadable {line : List Char} {fault : Fault} : ReadAlone (numberedLines text) n line →
    Statement.read line = .error fault → Blamed text n ⟨fault, String.ofList line, some n⟩
  /-- The line is an entry before the first header. -/
  | outside {key value : String} : Says (numberedLines text) n (.entry key value) →
    Blamed text n ⟨.entryOutsideSection, key, some n⟩
  | hostId {entry : Config.Entry} : Carries text n (sectionMark ++ mappingsName) entry →
    ':' ∈ entry.key.toList → Blamed text n ⟨.reservedSeparator, entry.key, some n⟩
  | port {entry : Config.Entry} {piece : List Char} {fault : Fault} :
    Carries text n (sectionMark ++ mappingsName) entry → piece ∈ HostPorts.pieces entry.value →
    SwitchPort.read piece = .error fault →
    Blamed text n ⟨fault, HostPorts.faultSubject entry.key piece fault, some n⟩
  | parameter {name : String} {entry : Config.Entry} : Carries text n (sectionMark ++ name) entry →
    entry.key = customMark → Blamed text n ⟨.emptyName, entry.key, some n⟩
  | flag {name : String} {entry : Config.Entry} : Carries text n (sectionMark ++ name) entry →
    entry.key ∈ Switch.flagNames → Flag.read? entry.value = none →
    Blamed text n ⟨.invalidBoolean, entry.key ++ " = " ++ entry.value, some n⟩
  | emptySwitch : FirstHeader text n sectionMark → Blamed text n ⟨.emptyName, sectionMark, some n⟩
  | switchColon {name : String} : FirstHeader text n (sectionMark ++ name) → ':' ∈ name.toList →
    Blamed text n ⟨.reservedSeparator, sectionMark ++ name, some n⟩

theorem Blamed.line_eq (h : Blamed text n e) : e.line = some n := by
  cases h <;> rfl

theorem Blamed.mem_numbers (h : Blamed text n e) : n ∈ (numberedLines text).map Prod.snd := by
  cases h with
  | unreadable halone hread =>
    obtain ⟨raw, hmem, -⟩ := halone.exists_mem
    exact List.mem_map_of_mem hmem
  | outside hsaid => exact hsaid.mem_numbers
  | hostId hcarries hkey => exact hcarries.said.mem_numbers
  | port hcarries hpiece hread => exact hcarries.said.mem_numbers
  | parameter hcarries hkey => exact hcarries.said.mem_numbers
  | flag hcarries hkey hvalue => exact hcarries.said.mem_numbers
  | emptySwitch hheader => exact hheader.1.mem_numbers
  | switchColon hheader hcolon => exact hheader.1.mem_numbers

private theorem blamed_of_read_error (h : (Config.read text).result = .error e) :
    ∃ n, Blamed text n e := by
  obtain ⟨front, ⟨raw, n⟩, back, s, hsplit, hs, hstep⟩ :=
    State.run_eq_error_iff.mp (read_eq_error_iff.mp h)
  obtain ⟨halone, hfault⟩ := State.fault_of_step hstep
  have hline : ReadAlone (numberedLines text) n (trim raw) :=
    ⟨front, raw, back, s, hsplit, hs, halone, rfl⟩
  refine ⟨n, ?_⟩
  rcases hfault with ⟨fault, hread, rfl⟩ | ⟨key, value, hread, rfl⟩
  · exact .unreadable hline hread
  · exact .outside ⟨trim raw, hline, hread⟩

private theorem blamed_of_declaration_error (hread : (Config.read text).result = .ok sections)
    {s : Config.Section} (hs : s ∈ sections) (h : Declaration.ofSection s = .error e) :
    ∃ n, Blamed text n e := by
  have hheader := firstHeader_of_read hread hs
  have hcarries {name : String} (hname : s.name = name) {entry : Config.Entry}
      (hentry : entry ∈ s.entries) : Carries text entry.line name entry :=
    ⟨⟨sections, hread, s, hs, hname, hentry⟩, rfl, ((faithful_of_read hread).each s hs).entry entry hentry⟩
  rcases bind_eq_error_iff.mp h with h | ⟨purpose, hpurpose, h⟩
  · obtain ⟨name, hname, hfault⟩ := Purpose.fault_of_ofSection h
    refine ⟨s.line, ?_⟩
    rw [hname] at hheader hfault
    rcases hfault with ⟨rfl, rfl⟩ | ⟨hcolon, rfl⟩
    · rw [String.append_empty] at hheader ⊢
      exact .emptySwitch hheader
    · exact .switchColon hheader hcolon
  cases purpose with
  | settings => cases h
  | other => cases h
  | portMappings =>
    rcases bind_eq_error_iff.mp h with h | ⟨m, -, h⟩
    · obtain ⟨entry, hentry, hfault⟩ := PortMappings.fault_of_ofSection h
      have hline := hcarries (Purpose.isFor_of_ofSection hpurpose) hentry
      refine ⟨entry.line, ?_⟩
      rcases HostPorts.read_eq_error_iff.mp hfault with
        ⟨hcolon, rfl⟩ | ⟨-, front, spec, back, hspecs, -, hcomplaint⟩
      · exact .hostId hline hcolon
      · obtain ⟨fault, hport, rfl⟩ := hcomplaint.exists_fault
        have hpiece : trim spec ∈ HostPorts.pieces entry.value :=
          List.mem_map_of_mem (show spec ∈ HostPorts.specs entry.value by simp [hspecs])
        exact .port hline hpiece hport
    · cases h
  | switch name =>
    rcases bind_eq_error_iff.mp h with h | ⟨t, -, h⟩
    · obtain ⟨front, entry, back, hentries, -, hrefused⟩ := Switch.ofSection_eq_error_iff.mp h
      have hentry : entry ∈ s.entries := by simp [hentries]
      have hline := hcarries (Purpose.isFor_of_ofSection hpurpose).1 hentry
      refine ⟨entry.line, ?_⟩
      cases hrefused with
      | unnamed hkey => exact .parameter hline hkey
      | unreadable hflag hvalue => exact .flag hline hflag hvalue
    · cases h

/-- Every error is about a line: one that is malformed, one with a malformed key or value, or the
first header with a malformed name. -/
theorem blamed_of_parse_error (h : (parse text).result = .error e) : ∃ n, Blamed text n e := by
  rw [result_parse, map_eq_error_iff] at h
  rcases bind_eq_error_iff.mp h with h | ⟨sections, hread, h⟩
  · exact blamed_of_read_error h
  · obtain ⟨s, hs, h⟩ := exists_mem_of_mapM_eq_error h
    exact blamed_of_declaration_error hread hs h

/-- Line numbers point at the lines that sections, entries and errors come from. -/
theorem lines_of_read_and_parse (text : String) :
    (∀ sections, (Config.read text).result = .ok sections →
      (∀ s ∈ sections, FirstHeader text s.line s.name ∧
        (s.line :: s.entries.map Config.Entry.line).Pairwise (· < ·) ∧
        ∀ e ∈ s.entries,
          (∃ raw front back, (raw, e.line) ∈ numberedLines text ∧ trim raw = front ++ '=' :: back ∧
            '=' ∉ front ∧ String.ofList (trim front) = e.key ∧
            String.ofList (trim back) = e.firstValueLine) ∧
          (Keyed.find? Assignment.slot (s.name, e.key) (assignments text)).map Assignment.line =
            some e.line) ∧
      (sections.map Config.Section.line).Pairwise (· < ·)) ∧
    ∀ e, (parse text).result = .error e →
      ∃ n, e.line = some n ∧ 1 ≤ n ∧ n ≤ lineCount text ∧ Blamed text n e := by
  constructor
  · intro sections hread
    have hfaithful := faithful_of_read hread
    refine ⟨fun s hs => ⟨firstHeader_of_read hread hs, (hfaithful.each s hs).ascending,
      fun e he => ⟨((hfaithful.each s hs).entry e he).exists_split, ?_⟩⟩, hfaithful.ascending⟩
    exact line_find?_assignments hread hs he
  · intro e herror
    obtain ⟨n, hblamed⟩ := blamed_of_parse_error herror
    obtain ⟨⟨raw, m⟩, hmem, rfl⟩ := List.mem_map.mp hblamed.mem_numbers
    obtain ⟨hle, hge⟩ := bounds_of_mem_numberedLines hmem
    exact ⟨m, hblamed.line_eq, hle, hge, hblamed⟩

/-- A section that is taken up again, a key that is repeated in it, and a value of two lines. -/
def resumedText : String := "[ansible:a]\nk = 1\n  2\n[b]\n[ansible:a]\nk = 3\ncp_ = x\n"

theorem lines_resumedText :
    (Config.read resumedText).result =
        .ok [⟨"ansible:a", 1, [⟨"k", "1\n2", 2⟩, ⟨"cp_", "x", 7⟩]⟩, ⟨"b", 4, []⟩] ∧
      FirstHeader resumedText 1 "ansible:a" ∧ FirstHeader resumedText 4 "b" ∧
      (parse resumedText).result = .error ⟨.emptyName, "cp_", some 7⟩ ∧
      Blamed resumedText 7 ⟨.emptyName, "cp_", some 7⟩ := by
  have hread : (Config.read resumedText).result =
      .ok [⟨"ansible:a", 1, [⟨"k", "1\n2", 2⟩, ⟨"cp_", "x", 7⟩]⟩, ⟨"b", 4, []⟩] := by rfl
  have herror : (parse resumedText).result = .error ⟨.emptyName, "cp_", some 7⟩ := by rfl
  obtain ⟨hsections, -⟩ := (lines_of_read_and_parse resumedText).1 _ hread
  obtain ⟨n, hn, -, -, hblamed⟩ := (lines_of_read_and_parse resumedText).2 _ herror
  obtain rfl : 7 = n := Option.some.inj hn
  exact ⟨hread, (hsections _ List.mem_cons_self).1,
    (hsections _ (List.mem_cons_of_mem _ List.mem_cons_self)).1, herror, hblamed⟩

end Inventory

end SwitchInventory
