import SwitchInventory.CommandLine.Encoding
import SwitchInventory.Proofs.Json.Records
import SwitchInventory.Proofs.Switch.RoundTrip

namespace SwitchInventory

open Json CommandLine

/-- A port is taken back from its record. -/
theorem SwitchPort.decodes (p : SwitchPort) : Decodes reader p.toJson p := by
  have hfits : fields.Fits [("switch", .text p.switch), ("port", .text p.port)]
      (p.switch, p.port, ()) :=
    .present (decodes_text _) (.present (decodes_text _) .done)
  exact (hfits.decodes (by decide) _).bind_pure rfl

theorem HostPorts.decodes (h : HostPorts) : Decodes reader h.toJson h := by
  have hfits : fields.Fits
      [("host_id", .text h.hostId), ("ports", .list (h.ports.map SwitchPort.toJson))]
      (h.hostId, h.ports, ()) :=
    .present (decodes_text _) (.present (decodes_list_map SwitchPort.decodes _) .done)
  exact (hfits.decodes (by decide) _).bind_pure rfl

theorem PortMappings.decodes (m : PortMappings) : Decodes reader m.toJson m :=
  (decodes_list_map HostPorts.decodes m.hosts).bind_pure rfl

/-- An object whose members are all texts sets them one after the other, repeated names included. -/
theorem Parameters.decodes_pairs (pairs : List (String × String)) :
    Decodes reader (.object (pairs.map fun pair => (pair.1, .text pair.2))) (ofPairs pairs) :=
  (decodes_members decodes_text "a map of string parameters" pairs).bind_pure rfl

theorem Parameters.decodes (p : Parameters) : Decodes reader p.toJson p := by
  have hpairs := decodes_pairs p.pairs
  rwa [ofPairs_pairs] at hpairs

theorem Switch.decodes (s : Switch) : Decodes reader s.toJson s := by
  have hfits : fields.Fits
      [("name", .text s.name), ("standard", s.standard.toJson), ("custom", s.custom.toJson)]
      (s.name, s.standard, s.custom, ()) :=
    .present (decodes_text _) (.present s.standard.decodes (.present s.custom.decodes .done))
  exact (hfits.decodes (by decide) _).bind_pure rfl

/-- A setting that is missing from the text is read as not set. -/
theorem Settings.decodes (s : Settings) : Decodes reader s.toJson s := by
  obtain ⟨uri?⟩ := s
  cases uri? with
  | none =>
    have hfits : fields.Fits [] (none, ()) := .absent rfl .done
    exact (hfits.decodes (by decide) _).bind_pure rfl
  | some uri =>
    have hfits : fields.Fits [("coordination_uri", .text uri)] (some uri, ()) :=
      .present (decodes_optional (some uri)) .done
    exact (hfits.decodes (by decide) _).bind_pure rfl

/-- The index is taken from the text like everything else, and not made anew. -/
theorem Inventory.decodes (inv : Inventory) : Decodes reader inv.toJson inv := by
  have hmac (e : String × String) :
      Decodes (Reader.pair Reader.text Reader.text) (macEntryJson e) e :=
    decodes_pair (decodes_text _) (decodes_text _)
  have hfits : fields.Fits
      [("settings", inv.settings.toJson), ("port_mappings", inv.portMappings.toJson),
        ("switches", .list (inv.switches.map Switch.toJson)),
        ("mac_map", .list (inv.macIndex.map macEntryJson))]
      (inv.settings, inv.portMappings, inv.switches, inv.macIndex, ()) :=
    .present inv.settings.decodes (.present inv.portMappings.decodes
      (.present (decodes_list_map Switch.decodes _) (.present (decodes_list_map hmac _) .done)))
  exact (hfits.decodes (by decide) _).bind_pure rfl

namespace PortBinding

theorem decodes_baremetalFields (switchInfo? switchId? : Option String) (portId title : String) :
    Decodes (baremetalFields.read title)
      (.object [("switch_info", .optional switchInfo?), ("switch_id", .optional switchId?),
        ("port_id", .text portId)]) (switchInfo?, switchId?, portId, ()) := by
  have hfits : baremetalFields.Fits
      [("switch_info", .optional switchInfo?), ("switch_id", .optional switchId?),
        ("port_id", .text portId)] (switchInfo?, switchId?, portId, ()) :=
    .present (decodes_optional _) (.present (decodes_optional _) (.present (decodes_text _) .done))
  exact hfits.decodes (by decide) title

theorem decodes_hostFields (hostId : String) (pciSlot? : Option String) (title : String) :
    Decodes (hostFields.read title)
      (.object [("host_id", .text hostId), ("pci_slot", .optional pciSlot?)])
      (hostId, pciSlot?, ()) := by
  have hfits : hostFields.Fits [("host_id", .text hostId), ("pci_slot", .optional pciSlot?)]
      (hostId, pciSlot?, ()) :=
    .present (decodes_text _) (.present (decodes_optional _) .done)
  exact hfits.decodes (by decide) title

theorem decodes (b : PortBinding) : Decodes reader b.toJson b := by
  cases b with
  | baremetal switchInfo? switchId? portId =>
    refine Variant.decodes_content rfl ?_
    exact (decodes_baremetalFields switchInfo? switchId? portId _).bind_pure rfl
  | normal hostId pciSlot? =>
    refine Variant.decodes_content rfl ?_
    exact (decodes_hostFields hostId pciSlot? _).bind_pure rfl

end PortBinding

theorem NetworkOs.decodes (os : NetworkOs) : Decodes reader os.toJson os :=
  Variant.decodes_bare (by cases os <;> rfl)

namespace CommandLine

theorem OutputFormat.decodes (f : OutputFormat) : Decodes reader f.toJson f :=
  Variant.decodes_bare (by cases f <;> rfl)

theorem ShowOptions.decodes (o : ShowOptions) : Decodes reader o.toJson o := by
  have hfits : fields.Fits [("format", o.format.toJson)] (o.format, ()) :=
    .present o.format.decodes .done
  exact (hfits.decodes (by decide) _).bind_pure rfl

theorem LookupTarget.decodes (t : LookupTarget) : Decodes reader t.toJson t := by
  cases t with
  | host hostId pciSlot? =>
    refine Variant.decodes_content rfl ?_
    exact (PortBinding.decodes_hostFields hostId pciSlot? _).bind_pure rfl
  | baremetal switchInfo? switchId? portId =>
    refine Variant.decodes_content rfl ?_
    exact (PortBinding.decodes_baremetalFields switchInfo? switchId? portId _).bind_pure rfl

theorem LookupOptions.decodes (o : LookupOptions) : Decodes reader o.toJson o := by
  have hfits : fields.Fits [("binding", o.target.toJson)] (o.target, ()) :=
    .present o.target.decodes .done
  exact (hfits.decodes (by decide) _).bind_pure rfl

/-- A command is taken back from its name, with its options where it has any. -/
theorem Command.decodes (c : Command) : Decodes reader c.toJson c := by
  cases c with
  | check => exact Variant.decodes_bare rfl
  | «show» options =>
    refine Variant.decodes_content rfl ?_
    exact options.decodes.bind_pure rfl
  | ansibleInventory => exact Variant.decodes_bare rfl
  | lookup options =>
    refine Variant.decodes_content rfl ?_
    exact options.decodes.bind_pure rfl
  | platforms => exact Variant.decodes_bare rfl

end CommandLine

/-- Every value of the model is read back from its text in one line, and an inventory from its text
on several lines too. -/
theorem run_toJson :
    (∀ p : SwitchPort, SwitchPort.reader.run p.toJson.compactText = .ok p) ∧
    (∀ h : HostPorts, HostPorts.reader.run h.toJson.compactText = .ok h) ∧
    (∀ m : PortMappings, PortMappings.reader.run m.toJson.compactText = .ok m) ∧
    (∀ p : Parameters, Parameters.reader.run p.toJson.compactText = .ok p) ∧
    (∀ s : Switch, Switch.reader.run s.toJson.compactText = .ok s) ∧
    (∀ s : Settings, Settings.reader.run s.toJson.compactText = .ok s) ∧
    (∀ inv : Inventory, Inventory.reader.run inv.toJson.compactText = .ok inv) ∧
    (∀ inv : Inventory, Inventory.reader.run inv.toJson.prettyText = .ok inv) ∧
    (∀ b : PortBinding, PortBinding.reader.run b.toJson.compactText = .ok b) ∧
    (∀ f : OutputFormat, OutputFormat.reader.run f.toJson.compactText = .ok f) ∧
    (∀ o : ShowOptions, ShowOptions.reader.run o.toJson.compactText = .ok o) ∧
    (∀ o : LookupOptions, LookupOptions.reader.run o.toJson.compactText = .ok o) ∧
    (∀ c : Command, Command.reader.run c.toJson.compactText = .ok c) ∧
    ∀ os : NetworkOs, NetworkOs.reader.run os.toJson.compactText = .ok os := by
  have hcompact {α : Type} {r : Reader α} {v : Value} {a : α} (h : Decodes r v a) :
      r.run v.compactText = .ok a := h.run_eq_ok (spells_compact v)
  have hpretty {α : Type} {r : Reader α} {v : Value} {a : α} (h : Decodes r v a) :
      r.run v.prettyText = .ok a := h.run_eq_ok (spells_pretty 0 v)
  exact ⟨fun p => hcompact p.decodes, fun h => hcompact h.decodes, fun m => hcompact m.decodes,
    fun p => hcompact p.decodes, fun s => hcompact s.decodes, fun s => hcompact s.decodes,
    fun inv => hcompact inv.decodes, fun inv => hpretty inv.decodes, fun b => hcompact b.decodes,
    fun f => hcompact f.decodes, fun o => hcompact o.decodes, fun o => hcompact o.decodes,
    fun c => hcompact c.decodes, fun os => hcompact os.decodes⟩

example : ({ portMappings := ⟨[⟨"h", [⟨"s", "1"⟩]⟩]⟩ } : Inventory).toJson.compactText =
    "\x7b\"settings\":\x7b\x7d,\"port_mappings\":[\x7b\"host_id\":\"h\",\"ports\":[" ++
      "\x7b\"switch\":\"s\",\"port\":\"1\"\x7d]\x7d],\"switches\":[],\"mac_map\":[]\x7d" := by
  decide +kernel

example : (Command.show ⟨.yaml⟩).toJson.compactText =
      "\x7b\"Show\":\x7b\"format\":\"yaml\"\x7d\x7d" ∧
    (Command.lookup ⟨.host "h" none⟩).toJson.compactText =
      "\x7b\"Lookup\":\x7b\"binding\":\x7b\"host\":\x7b\"host_id\":\"h\",\"pci_slot\":null" ++
        "\x7d\x7d\x7d\x7d" ∧
    NetworkOs.all.map (·.toJson.compactText) =
      ["\"cumulus\"", "\"dellos10\"", "\"eos\"", "\"ios\"", "\"junos\"", "\"nxos\"",
        "\"openvswitch\""] := by
  decide +kernel

end SwitchInventory
