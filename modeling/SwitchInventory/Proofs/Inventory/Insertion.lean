import SwitchInventory.Proofs.Encoding

namespace SwitchInventory

open Json Keyed

/-- Of the mappings of one host that are added, the last one is found. -/
theorem PortMappings.lastWins_insertAll (hosts : List HostPorts) :
    LastWins HostPorts.hostId HostPorts.ports hosts (insertAll {} hosts).hostIds
      (insertAll {} hosts).get? := by
  have h := lastWins_foldl_put HostPorts.hostId HostPorts.ports hosts
  have hhosts := hosts_insertAll {} hosts
  rwa [← hhosts] at h

namespace Inventory

private theorem switches_foldl_insertSwitch (switches : List Switch) (inv : Inventory) :
    (switches.foldl insertSwitch inv).switches =
      switches.foldl (fun switches s => put Switch.name s switches) inv.switches := by
  induction switches generalizing inv with
  | nil => rfl
  | cons s switches ih => exact ih (inv.insertSwitch s)

/-- Of the switches of one name that are added, the last one is found. -/
theorem lastWins_foldl_insertSwitch (switches : List Switch) :
    LastWins Switch.name id switches (switches.foldl insertSwitch {}).switchNames
      (switches.foldl insertSwitch {}).switch? := by
  have h := lastWins_foldl_put Switch.name id switches
  have hswitches := switches_foldl_insertSwitch switches {}
  rw [← hswitches] at h
  simp only [Option.map_id, id_eq] at h
  exact h

/-- Parameters come out the same whether they are set one by one, gathered from pairs or read from
an object with these members. In each collection names keep their first place and their last value.
-/
theorem lastWins_insertions :
    (∀ pairs : List (String × String),
      let p := pairs.foldl (fun p pair => p.insert pair.1 pair.2) Parameters.empty
      (Parameters.ofPairs pairs = p ∧
        ∀ text, Denotes text (.object (pairs.map fun pair => (pair.1, .text pair.2))) →
          Parameters.reader.run text = .ok p) ∧
      LastWins Prod.fst Prod.snd pairs p.names p.get? ∧
      (∀ name, p.contains name = true ↔ name ∈ p.names) ∧ p.size = p.names.length ∧
      ∀ name value,
        (p.insert name value).names = (if name ∈ p.names then p.names else p.names ++ [name]) ∧
        ∀ other, (p.insert name value).get? other =
          if name = other then some value else p.get? other) ∧
    (∀ hosts : List HostPorts,
      let m := hosts.foldl PortMappings.insert {}
      LastWins HostPorts.hostId HostPorts.ports hosts m.hostIds m.get?) ∧
    ∀ switches : List Switch,
      let inv := switches.foldl insertSwitch {}
      LastWins Switch.name id switches inv.switchNames inv.switch? := by
  refine ⟨?_, PortMappings.lastWins_insertAll, lastWins_foldl_insertSwitch⟩
  intro pairs p
  refine ⟨⟨rfl, ?_⟩, Parameters.lastWins_ofPairs pairs, ?_, (List.length_map Prod.fst).symm, ?_⟩
  · intro text htext
    exact (Parameters.decodes_pairs pairs).run_of_denotes htext
  · exact fun name => Parameters.contains_iff_mem_names
  · exact fun name value => ⟨p.names_insert name value, p.get?_insert name value⟩

/-- An object that has a member twice, with an escape the second time and a surrogate pair as value.
-/
def repeatedMembers : String :=
  " \x7b\"b\" : \"1\",\"a\":\"x\",\n\"\\u0062\":\"\\uD83d\\ude00\"\x7d\n"

private theorem denotes_repeatedMembers :
    Denotes repeatedMembers (.object [("b", .text "1"), ("a", .text "x"), ("b", .text "😀")]) := by
  have hb : SpellsTail ['b'] ['\\', 'u', '0', '0', '6', '2', '"'] := .cons (.number rfl) .mark
  have hface : SpellsTail ['😀']
      ['\\', 'u', 'D', '8', '3', 'd', '\\', 'u', 'd', 'e', '0', '0', '"'] :=
    .cons (.surrogates (m := 0xD83D) (n := 0xDE00) rfl rfl (by decide) (by decide) (by decide)
      (by decide) rfl) .mark
  have hwritten (name value : String) {gap : List Char} (hgap : Gap gap) :
      SpellsMember (name, .text value)
        (writeString name ++ (gap ++ ':' :: (gap ++ writeString value))) :=
    .mk (spellsString_writeString name) hgap hgap (.text (spellsString_writeString value))
  exact ⟨[' '], _, line 0, rfl, gap_blank,
    .object (.cons (.first gap_nil) (hwritten "b" "1" gap_blank)
      (.cons (.comma gap_nil gap_nil) (hwritten "a" "x" gap_nil)
        (.cons (.comma gap_nil (gap_line 0)) (.mk (.mk hb) gap_nil gap_nil (.text (.mk hface)))
          (.nil gap_nil)))),
    gap_line 0⟩

theorem lastWins_repeatedMembers :
    let p := Parameters.ofPairs [("b", "1"), ("a", "x"), ("b", "😀")]
    Parameters.reader.run repeatedMembers = .ok p ∧ p.pairs = [("b", "😀"), ("a", "x")] :=
  ⟨(lastWins_insertions.1 [("b", "1"), ("a", "x"), ("b", "😀")]).1.2 _ denotes_repeatedMembers,
    by decide⟩

end Inventory

end SwitchInventory
