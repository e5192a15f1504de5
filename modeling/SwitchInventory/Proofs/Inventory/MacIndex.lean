import SwitchInventory.Lookup
import SwitchInventory.Proofs.Inventory.RoundTrip
import SwitchInventory.Proofs.Text.Case

namespace SwitchInventory

open SwitchInventory.Text

/-- The hardware address of a switch in upper case. -/
def Switch.address? (s : Switch) : Option String := s.mac?.map upper

namespace Inventory

/-- The last of the switches with an address. -/
def lastWithAddress? (switches : List Switch) (address : String) : Option Switch :=
  switches.findRev? (·.address? = some address)

/-- The index holds the addresses of the switches in the order of their first switches, each with
the name of its last switch. -/
structure Indexes (index : List (String × String)) (switches : List Switch) : Prop where
  addresses : index.map Prod.fst = (switches.filterMap Switch.address?).eraseDups
  names : ∀ pair ∈ index, (lastWithAddress? switches pair.1).map Switch.name = some pair.2

private theorem lastWithAddress?_eq_none_iff {switches : List Switch} {address : String} :
    lastWithAddress? switches address = none ↔ ∀ s ∈ switches, s.address? ≠ some address := by
  simp [lastWithAddress?, List.findRev?_eq_find?_reverse]

/-- What a switch is entered into an index with. -/
def indexPair? (s : Switch) : Option (String × String) := s.address?.map (·, s.name)

private theorem indexMac_eq (index : List (String × String)) (s : Switch) :
    indexMac index s = (indexPair? s).elim index fun pair => Keyed.put Prod.fst pair index := by
  unfold indexMac indexPair? Switch.address?
  cases s.mac? <;> rfl

theorem macIndexOf_eq_foldl_put (switches : List Switch) :
    macIndexOf switches =
      (switches.filterMap indexPair?).foldl (fun index pair => Keyed.put Prod.fst pair index) [] := by
  have h (index : List (String × String)) : switches.foldl indexMac index =
      (switches.filterMap indexPair?).foldl (fun index pair => Keyed.put Prod.fst pair index)
        index := by
    induction switches generalizing index with
    | nil => rfl
    | cons s switches ih =>
      rw [List.foldl_cons, ih, indexMac_eq, List.filterMap_cons]
      cases indexPair? s <;> rfl
  exact h []

/-- An address leads to the last switch that has it. -/
theorem find?_macIndexOf (switches : List Switch) (address : String) :
    Keyed.find? Prod.fst address (macIndexOf switches) =
      (lastWithAddress? switches address).map fun s => (address, s.name) := by
  rw [macIndexOf_eq_foldl_put, Keyed.find?_foldl_put]
  unfold lastWithAddress?
  rw [List.findRev?_eq_find?_reverse, List.findRev?_eq_find?_reverse, ← List.filterMap_reverse]
  induction switches.reverse with
  | nil => rfl
  | cons s rest ih =>
    rw [List.filterMap_cons, List.find?_cons, indexPair?]
    cases haddress : s.address? with
    | none => simpa using ih
    | some a =>
      by_cases ha : a = address
      · simp [ha]
      · simpa [ha] using ih

/-- Each address stands where the first switch declares it, with the name of the last. -/
theorem indexes_macIndexOf (switches : List Switch) : Indexes (macIndexOf switches) switches := by
  have hkeys : (macIndexOf switches).map Prod.fst =
      (switches.filterMap Switch.address?).eraseDups := by
    have hentry (s : Switch) : (indexPair? s).map Prod.fst = s.address? := by
      unfold indexPair?
      cases s.address? <;> rfl
    rw [macIndexOf_eq_foldl_put, Keyed.map_foldl_put, List.map_filterMap]
    simp only [hentry]
  have hnodup : ((macIndexOf switches).map Prod.fst).Nodup := by
    rw [macIndexOf_eq_foldl_put]
    exact Keyed.nodup_map_foldl_put _ List.nodup_nil
  refine ⟨hkeys, ?_⟩
  intro pair hpair
  have hfind := Keyed.find?_eq_some_of_mem hnodup hpair
  rw [find?_macIndexOf] at hfind
  obtain ⟨s, hs, heq⟩ := Option.map_eq_some_iff.mp hfind
  rw [hs, ← heq]
  rfl

/-- Inventories whose index the library has made: a switch was just added, nothing but switches was
added ever since the inventory was empty, or the inventory was loaded. -/
inductive Maintained : Inventory → Prop where
  | added (inv : Inventory) (s : Switch) : Maintained (inv.insertSwitch s)
  | built (switches : List Switch) : Maintained (switches.foldl insertSwitch {})
  | loaded {inv : Inventory} : inv.Loaded → Maintained inv

private theorem macIndex_foldl_insertSwitch (switches : List Switch) {inv : Inventory}
    (h : inv.macIndex = macIndexOf inv.switches) :
    (switches.foldl insertSwitch inv).macIndex =
      macIndexOf (switches.foldl insertSwitch inv).switches := by
  induction switches generalizing inv with
  | nil => exact h
  | cons s switches ih => exact ih rfl

/-- The library never leaves an index behind. -/
theorem Maintained.macIndex_eq {inv : Inventory} (h : inv.Maintained) :
    inv.macIndex = macIndexOf inv.switches := by
  cases h with
  | added inv s => rfl
  | built switches => exact macIndex_foldl_insertSwitch switches rfl
  | loaded h => exact h.wellFormed.macIndex

/-- The name of the switch is not given. -/
def Unnamed (switchInfo? : Option String) : Prop := switchInfo? = none ∨ switchInfo? = some ""

private theorem baremetalSwitch_of_unnamed (inv : Inventory) {switchInfo? : Option String}
    (hinfo : Unnamed switchInfo?) {mac : String} (hmac : mac ≠ "") :
    inv.baremetalSwitch switchInfo? (upper mac) =
      match inv.switchForMac? mac with
      | some name => .ok name
      | none => .error (.unknownSwitch (upper mac)) := by
  have hfilter : switchInfo?.filter (· ≠ "") = none := by
    rcases hinfo with rfl | rfl <;> rfl
  have hupper : upper mac ≠ "" := fun h => hmac (upper_eq_empty_iff.mp h)
  -- The address is put into upper case before the lookup and once more by it.
  have hsame : inv.switchForMac? (upper mac) = inv.switchForMac? mac := by
    rw [switchForMac?, switchForMac?, upper_upper]
  rw [baremetalSwitch, hfilter, ← hsame]
  cases inv.switchForMac? (upper mac) <;> exact if_neg hupper

/-- Without a name, the address alone leads to the switch. -/
theorem switchPorts_of_unnamed (inv : Inventory) {switchInfo? : Option String}
    (hinfo : Unnamed switchInfo?) {mac portId : String} (hmac : mac ≠ "") (hport : portId ≠ "") :
    (inv.switchPorts (.baremetal switchInfo? (some mac) portId)).result =
      match inv.switchForMac? mac with
      | some name => .ok [⟨name, portId⟩]
      | none => .error (.unknownSwitch (upper mac)) := by
  have hname := baremetalSwitch_of_unnamed inv hinfo hmac
  simp only [switchPorts, if_neg hport, Option.getD_some, Logged.result_bind, hname,
    Logged.result_ofExcept]
  cases inv.switchForMac? mac <;> rfl

/-- An address leads to the last switch that has it. -/
theorem Maintained.switchForMac?_eq {inv : Inventory} (h : inv.Maintained) (mac : String) :
    inv.switchForMac? mac = (lastWithAddress? inv.switches (upper mac)).map Switch.name := by
  rw [switchForMac?, h.macIndex_eq, find?_macIndexOf, Option.map_map]
  rfl

/-- A bare-metal port whose switch is given by a hardware address only is found on the last switch
with this address in upper case, and is not found when no switch has it. -/
theorem indexes_and_switchPorts_iff {inv : Inventory} (h : inv.Maintained) :
    Indexes inv.macIndex inv.switches ∧
    ∀ (switchInfo? : Option String) (mac portId : String),
      Unnamed switchInfo? → mac ≠ "" → portId ≠ "" →
      (∀ ports, (inv.switchPorts (.baremetal switchInfo? (some mac) portId)).result = .ok ports ↔
        ∃ s, lastWithAddress? inv.switches (upper mac) = some s ∧ ports = [⟨s.name, portId⟩]) ∧
      ((inv.switchPorts (.baremetal switchInfo? (some mac) portId)).result =
          .error (.unknownSwitch (upper mac)) ↔
        ∀ s ∈ inv.switches, s.address? ≠ some (upper mac)) := by
  constructor
  · rw [h.macIndex_eq]
    exact indexes_macIndexOf inv.switches
  · intro switchInfo? mac portId hinfo hmac hport
    rw [switchPorts_of_unnamed inv hinfo hmac hport, h.switchForMac?_eq,
      ← lastWithAddress?_eq_none_iff]
    cases lastWithAddress? inv.switches (upper mac) with
    | none => simp
    | some s => simp [eq_comm]

/-- A switch that is replaced gives up its address and takes on that of another one. -/
def sharedAddress : List Switch :=
  [⟨"a", ⟨[("mac", "1")], by decide⟩, .empty⟩, ⟨"b", ⟨[("mac", "ß")], by decide⟩, .empty⟩,
    ⟨"a", ⟨[("mac", "SS")], by decide⟩, .empty⟩]

theorem switchPorts_sharedAddress :
    let inv := sharedAddress.foldl insertSwitch {}
    inv.macIndex = [("SS", "b")] ∧ Indexes inv.macIndex inv.switches ∧
      (inv.switchPorts (.baremetal (some "") (some "sS") "p")).result = .ok [⟨"b", "p"⟩] ∧
      (inv.switchPorts (.baremetal none (some "1a") "p")).result = .error (.unknownSwitch "1A") := by
  intro inv
  obtain ⟨hindex, hports⟩ := indexes_and_switchPorts_iff (.built sharedAddress)
  have hknown := hports (some "") "sS" "p" (.inr rfl) (by decide) (by decide)
  have hunknown := hports none "1a" "p" (.inl rfl) (by decide) (by decide)
  have hupper : upper "1a" = "1A" := by decide
  rw [hupper] at hunknown
  refine ⟨by decide, hindex, (hknown.1 _).mpr ⟨_, rfl, rfl⟩, hunknown.2.mpr ?_⟩
  decide

end Inventory

end SwitchInventory
