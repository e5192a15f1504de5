import SwitchInventory.Proofs.CommandLine.Console
import SwitchInventory.Proofs.Inventory.RoundTrip

namespace SwitchInventory

open SwitchInventory.Lists SwitchInventory.Sequence SwitchInventory.Text

namespace SwitchPort

/-- A port that is told from its line. -/
structure Printable (p : SwitchPort) : Prop where
  switch_unbroken : '\n' ∉ p.switch.toList
  port_unbroken : '\n' ∉ p.port.toList
  endsClear : p.EndsClear

instance (p : SwitchPort) : Decidable p.Printable :=
  decidable_of_iff ('\n' ∉ p.switch.toList ∧ '\n' ∉ p.port.toList ∧ p.EndsClear)
    ⟨fun ⟨h1, h2, h3⟩ => ⟨h1, h2, h3⟩, fun ⟨h1, h2, h3⟩ => ⟨h1, h2, h3⟩⟩

/-- The first double colon of the line stands between the switch and the port. -/
def ToldBy (line : List Char) (p : SwitchPort) : Prop :=
  cut? [':', ':'] line = some (p.switch.toList, p.port.toList)

instance (line : List Char) (p : SwitchPort) : Decidable (ToldBy line p) :=
  inferInstanceAs (Decidable (_ = _))

theorem newline_not_mem_text_iff {p : SwitchPort} :
    '\n' ∉ p.text.toList ↔ '\n' ∉ p.switch.toList ∧ '\n' ∉ p.port.toList := by
  rw [toList_text]
  simp

/-- The first double colon of a port is the mark exactly when its switch does not end in a colon. -/
theorem WellFormed.toldBy_text_iff {p : SwitchPort} (h : p.WellFormed) :
    ToldBy p.text.toList p ↔ p.EndsClear := by
  rw [ToldBy, cut?_eq_some_iff (by simp), and_iff_right (toList_text p)]
  change ¬ [':', ':'] <:+: p.switch.toList ++ [':'] ↔ _
  rw [isInfix_append_singleton_iff, not_or, and_iff_right h.no_mark]
  rfl

/-- No carriage return is taken for a part of the line's end. -/
theorem WellFormed.getLast?_text_ne {p : SwitchPort} (h : p.WellFormed) :
    p.text.toList.getLast? ≠ some '\r' := by
  intro hlast
  obtain ⟨front, hfront⟩ := List.getLast?_eq_some_iff.mp hlast
  have hend := (trimmed_iff.mp h.trimmed_text).2
  rw [hfront, List.reverse_append] at hend
  cases hend

end SwitchPort

namespace CommandLine

/-- There is one line for each port, in their order, and each tells its port. -/
def Tells (output : String) (ports : List SwitchPort) : Prop :=
  List.Forall₂ SwitchPort.ToldBy (lines output.toList) ports

instance (output : String) (ports : List SwitchPort) : Decidable (Tells output ports) :=
  inferInstanceAs (Decidable (List.Forall₂ _ _ _))

theorem toList_portLines (ports : List SwitchPort) :
    (portLines ports).toList = unlines (ports.map fun p => p.text.toList) := by
  induction ports with
  | nil => rfl
  | cons p ports ih =>
    have hcons : portLines (p :: ports) = p.text ++ "\n" ++ portLines ports := by
      simp [portLines, String.join_cons]
    rw [hcons, String.toList_append, String.toList_append, ih]
    simp

private theorem tells_portLines_of_unbroken {ports : List SwitchPort}
    (h : ∀ p ∈ ports, p.WellFormed) (hunbroken : ∀ p ∈ ports, '\n' ∉ p.text.toList) :
    Tells (portLines ports) ports ↔ ∀ p ∈ ports, p.EndsClear := by
  have hlines : lines (portLines ports).toList = ports.map fun p => p.text.toList := by
    rw [toList_portLines]
    apply lines_unlines
    intro l hl
    obtain ⟨p, hp, rfl⟩ := List.mem_map.mp hl
    exact ⟨hunbroken p hp, (h p hp).getLast?_text_ne⟩
  rw [Tells, hlines, List.forall₂_map_left_iff, List.forall₂_same]
  exact forall₂_congr fun p hp => (h p hp).toldBy_text_iff

/-- The ports are told from the lines exactly when no name is broken over two lines and no switch
ends in a colon. -/
theorem tells_portLines_iff {ports : List SwitchPort} (h : ∀ p ∈ ports, p.WellFormed) :
    Tells (portLines ports) ports ↔ ∀ p ∈ ports, p.Printable := by
  constructor
  · intro htells
    -- A broken name would make more lines than there are ports.
    have hlength := htells.length_eq
    rw [toList_portLines, ← List.length_map fun p : SwitchPort => p.text.toList] at hlength
    have hunbroken : ∀ p ∈ ports, '\n' ∉ p.text.toList := fun p hp =>
      newline_not_mem_of_length_lines hlength _ (List.mem_map_of_mem hp)
    intro p hp
    obtain ⟨hswitch, hport⟩ := SwitchPort.newline_not_mem_text_iff.mp (hunbroken p hp)
    exact ⟨hswitch, hport, (tells_portLines_of_unbroken h hunbroken).mp htells p hp⟩
  · intro hall
    have hunbroken : ∀ p ∈ ports, '\n' ∉ p.text.toList := fun p hp =>
      SwitchPort.newline_not_mem_text_iff.mpr ⟨(hall p hp).switch_unbroken, (hall p hp).port_unbroken⟩
    exact (tells_portLines_of_unbroken h hunbroken).mpr fun p hp => (hall p hp).endsClear

private theorem result_switchPorts_normal (inv : Inventory) (hostId : String)
    (pciSlot? : Option String) :
    (inv.switchPorts (.normal hostId pciSlot?)).result =
      .ok ((inv.portsForHost? (pciSlot?.elim hostId (virtualHostId hostId))).getD []) := by
  have hreport (host : String) : (inv.switchPorts (.normal host none)).result =
      .ok ((inv.portsForHost? host).getD []) := by
    rw [Inventory.switchPorts, Logged.result_bind, Logged.result_log]
    cases inv.portsForHost? host <;> rfl
  cases pciSlot? with
  | none => exact hreport hostId
  | some slot => exact hreport (virtualHostId hostId slot)

private theorem mem_ports_of_mem_portsForHost? {inv : Inventory} {host : String} {p : SwitchPort}
    (hp : p ∈ (inv.portsForHost? host).getD []) : ∃ h ∈ inv.portMappings.hosts, p ∈ h.ports := by
  cases hfind : inv.portsForHost? host with
  | none =>
    rw [hfind] at hp
    cases hp
  | some ports =>
    obtain ⟨h, hh, rfl⟩ := Option.map_eq_some_iff.mp hfind
    rw [hfind] at hp
    exact ⟨h, (Keyed.mem_of_find?_eq_some hh).1, hp⟩

theorem result_execute_lookup {inv : Inventory} {options : LookupOptions} {ports : List SwitchPort}
    (h : (inv.switchPorts options.binding).result = .ok ports) :
    (Command.execute inv (.lookup options)).result = .ok (portLines ports) := by
  rw [Command.execute, Logged.result_bind, Logged.result_mapError, h]
  change Logged.result (if ports.isEmpty then _ else _) = _
  cases ports <;> rfl

private theorem result_load_singleton {files : Files} {path text : String} {inv : Inventory}
    (hfile : files path = .ok text) (h : (Inventory.parse text).result = .ok inv) :
    (Inventory.load files [path]).result = .ok inv := by
  obtain ⟨ds, hds, rfl⟩ := Inventory.exists_fileDeclarations hfile h
  have hall : [path].mapM (Inventory.fileDeclarations files) = .ok [ds] :=
    mapM_eq_ok_iff.mpr (.cons hds .nil)
  rw [Inventory.result_load, hall, Except.map, List.flatten_singleton]

/-- A command that needs an inventory is carried out on the one that the files declare. -/
theorem run_of_result {files : Files} {o : Options} {inv : Inventory} {output : String}
    (hload : (Inventory.load files o.input).result = .ok inv) (hcommand : o.command ≠ .platforms)
    (h : (o.command.execute inv).result = .ok output) :
    (o.run files).exitCode = 0 ∧ (o.run files).output = output := by
  have hperform : (o.command.perform files o.input).result = .ok output := by
    rw [Command.perform_of_ne_platforms files o.input hcommand, Logged.result_bind,
      Logged.result_mapError, hload]
    exact h
  rw [Options.run_of_ok hperform]
  exact ⟨rfl, rfl⟩

/-- A lookup for a host prints a line for each of its ports, in their order, unless a line feed in a
name or a colon at the end of a switch comes through from the text that maps the host. -/
theorem run_lookup_host_tells_iff {files : Files} {path text : String} {inv : Inventory}
    (hfile : files path = .ok text) (h : (Inventory.parse text).result = .ok inv)
    (verbosity? : Option String) (hostId : String) (pciSlot? : Option String) :
    ∃ ports, (inv.switchPorts (.normal hostId pciSlot?)).result = .ok ports ∧
      let done := Options.run files
        { input := [path], verbosity?, command := .lookup ⟨.host hostId pciSlot?⟩ }
      done.exitCode = 0 ∧ done.output = portLines ports ∧
        (Tells done.output ports ↔ ∀ p ∈ ports, p.Printable) := by
  have hports := result_switchPorts_normal inv hostId pciSlot?
  obtain ⟨hexit, houtput⟩ := run_of_result
    (o := { input := [path], verbosity?, command := .lookup ⟨.host hostId pciSlot?⟩ })
    (result_load_singleton hfile h) (by simp) (result_execute_lookup hports)
  refine ⟨_, hports, hexit, houtput, ?_⟩
  rw [houtput]
  apply tells_portLines_iff
  intro p hp
  obtain ⟨host, hhost, hp⟩ := mem_ports_of_mem_portsForHost? hp
  exact ((Inventory.wellFormed_of_parse h).hosts host hhost).ports p hp

/-- A file that maps a host and one of its virtual functions. -/
def cabled : Files := fun path =>
  if path = "f" then
    .ok "[ansible:port_mappings]\nh = s::p:1,\n  t::q\nh-370b = s::r\n"
  else .error .notFound

/-- The ports of the host come one on a line, and those of its virtual function are left out. -/
theorem run_lookup_host_cabled :
    (Options.run cabled { input := ["f"], verbosity? := none, command := .lookup ⟨.host "h" none⟩
      }).output = "s::p:1\nt::q\n" ∧
      Tells "s::p:1\nt::q\n" [⟨"s", "p:1"⟩, ⟨"t", "q"⟩] := by
  have hfile : cabled "f" =
      .ok "[ansible:port_mappings]\nh = s::p:1,\n  t::q\nh-370b = s::r\n" := rfl
  have hparse : (Inventory.parse
      "[ansible:port_mappings]\nh = s::p:1,\n  t::q\nh-370b = s::r\n").result =
        .ok { portMappings := ⟨[⟨"h", [⟨"s", "p:1"⟩, ⟨"t", "q"⟩]⟩, ⟨"h-370b", [⟨"s", "r"⟩]⟩]⟩ } := by
    rfl
  obtain ⟨ports, hports, -, houtput, htells⟩ :=
    run_lookup_host_tells_iff hfile hparse none "h" none
  obtain rfl : [⟨"s", "p:1"⟩, ⟨"t", "q"⟩] = ports := Except.ok.inj hports
  have hlines : portLines [⟨"s", "p:1"⟩, ⟨"t", "q"⟩] = "s::p:1\nt::q\n" := by decide
  rw [houtput, hlines] at htells
  exact ⟨houtput.trans hlines, htells.mpr (by decide)⟩

/-- A file with a line feed inside a name, and one with a colon at the end of a switch. -/
def brokenAndColon : Files := fun path =>
  if path = "broken" then .ok "[ansible:port_mappings]\nh = a::b\n  c\n"
  else if path = "colon" then .ok "[ansible:port_mappings]\nh = a: ::b\n"
  else .error .notFound

/-- The line feed makes two lines of one port, and the colon goes over to the port. -/
theorem not_tells_brokenAndColon :
    (Inventory.load brokenAndColon ["broken"]).result =
        .ok { portMappings := ⟨[⟨"h", [⟨"a", "b\nc"⟩]⟩]⟩ } ∧
      (run brokenAndColon ["--input", "broken", "lookup", "host", "h"]).output = "a::b\nc\n" ∧
      ¬ Tells "a::b\nc\n" [⟨"a", "b\nc"⟩] ∧
      (Inventory.load brokenAndColon ["colon"]).result =
        .ok { portMappings := ⟨[⟨"h", [⟨"a:", "b"⟩]⟩]⟩ } ∧
      (run brokenAndColon ["--input", "colon", "lookup", "host", "h"]).output = "a:::b\n" ∧
      ¬ Tells "a:::b\n" [⟨"a:", "b"⟩] :=
  ⟨by rfl, by rfl, by decide, by rfl, by rfl, by decide⟩

end CommandLine

end SwitchInventory
