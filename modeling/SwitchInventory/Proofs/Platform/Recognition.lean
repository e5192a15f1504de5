import SwitchInventory.Proofs.Keyed
import SwitchInventory.Proofs.Platform.Registration

namespace SwitchInventory

namespace NetworkOs

/-- No system has a `k` in its name, so the Kelvin sign cannot tell the two ways of comparing apart.
-/
theorem plain_name (os : NetworkOs) : ∀ c ∈ os.name.toList, Text.Plain c := by
  have hall : os.name.toList.all (Text.Plain ·) = true := by cases os <;> decide
  simpa using hall

private theorem mem_all (os : NetworkOs) : os ∈ all := by cases os <;> decide

private theorem nodup_names : (all.map name).Nodup := by decide

private theorem map_toLower_name (os : NetworkOs) :
    os.name.toList.map Char.toLower = os.name.toList := by
  have hkeep : ∀ c ∈ os.name.toList, c.toLower = id c := fun c hc => (os.plain_name c hc).2.2
  rw [List.map_congr_left hkeep, List.map_id]

theorem lowerForm_eq_name_iff {given : String} {t : List Char} (h : Text.LowerForm given.toList t)
    (os : NetworkOs) : t = os.name.toList ↔ os.handler.Serves given := by
  rw [h.eq_iff os.plain_name, Handler.Serves, Text.sameLetters_iff, handler, map_toLower_name,
    eq_comm]

/-- Lower case forms lead to the system whose handler is for that name, though the handler
disregards case for the letters of ASCII alone. -/
theorem name_eq_lower_iff (os : NetworkOs) (given : String) :
    os.name = Text.lower given ↔ os.handler.Serves given := by
  rw [← lowerForm_eq_name_iff (Text.lowerForm_lower given), String.toList_inj, eq_comm]

/-- Both ways of recognising a name lead to the same system. -/
theorem ofName?_eq_some_iff {given : String} {os : NetworkOs} :
    ofName? given = some os ↔ os.handler.Serves given := by
  have hfind : ofName? given = Keyed.find? name (Text.lower given) all := rfl
  rw [hfind, ← name_eq_lower_iff]
  constructor
  · intro h
    exact (Keyed.mem_of_find?_eq_some h).2
  · intro h
    rw [← h]
    exact Keyed.find?_eq_some_of_mem nodup_names os.mem_all

end NetworkOs

namespace Registry

private theorem handlers_standard : standard.handlers = NetworkOs.all.map NetworkOs.handler := by
  rfl

theorem find?_standard (given : String) :
    standard.handlers.find? (·.Serves given) =
      (NetworkOs.ofName? given).map NetworkOs.handler := by
  have hserves : (fun h : Handler => decide (h.Serves given)) ∘ NetworkOs.handler =
      fun os => decide (os.name = Text.lower given) := by
    funext os
    rw [Function.comp_apply, decide_eq_decide, NetworkOs.name_eq_lower_iff]
  rw [handlers_standard, List.find?_map, hserves, NetworkOs.ofName?]

theorem result_dispatch (r : Registry) (s : Switch) : (r.dispatch s).result =
    (r.handlerFor s).map fun h => { switch := s.name, role := h.role, vars := h.taskVars s } := by
  unfold dispatch
  simp only [Logged.result_bind, Logged.result_ofExcept, Logged.result_log, Logged.result_pure]
  cases r.handlerFor s <;> rfl

/-- The standard registry has the role of the system that the switch names, and no other. -/
theorem result_dispatch_standard {s : Switch} {given : String} (hs : s.networkOs? = some given) :
    (standard.dispatch s).result =
      match NetworkOs.ofName? given with
      | some os => .ok
        { switch := s.name
          role := "network-runner/providers/" ++ os.name
          vars := s.roleArguments }
      | none => .error (.unsupportedPlatform s.name given) := by
  rw [result_dispatch, handlerFor_of_networkOs? _ hs, find?_standard]
  cases NetworkOs.ofName? given <;> rfl

/-- The standard registry has a role for a switch just when the switch names an operating system, in
whichever of its lower case forms the name is compared. -/
theorem dispatch_standard (s : Switch) (given : String) (hs : s.networkOs? = some given) :
    ((∃ os, NetworkOs.ofName? given = some os) ↔ ∃ task, (standard.dispatch s).result = .ok task) ∧
    (∀ os, NetworkOs.ofName? given = some os → (standard.dispatch s).result = .ok
      { switch := s.name
        role := "network-runner/providers/" ++ os.name
        vars := s.roleArguments }) ∧
    (NetworkOs.ofName? given = none →
      (standard.dispatch s).result = .error (.unsupportedPlatform s.name given)) ∧
    ∀ t, Text.LowerForm given.toList t →
      ∀ os, t = os.name.toList ↔ NetworkOs.ofName? given = some os := by
  have hresult := result_dispatch_standard hs
  refine ⟨?_, ?_, ?_, ?_⟩
  · rw [hresult]
    cases NetworkOs.ofName? given <;> simp
  · intro os hos
    rw [hresult, hos]
  · intro hnone
    rw [hresult, hnone]
  · intro t ht os
    rw [NetworkOs.lowerForm_eq_name_iff ht, NetworkOs.ofName?_eq_some_iff]

/-- The switch that names its operating system so. -/
def naming (os : String) : Switch :=
  { name := "sw0", standard := .ofPairs [("ansible_network_os", os)] }

/-- The case of a name does not count, but a dotted capital is no `i`. -/
theorem dispatch_junos_and_dotted :
    (standard.dispatch (naming "JunOS")).result = .ok
      { switch := "sw0"
        role := "network-runner/providers/junos"
        vars := (naming "JunOS").roleArguments } ∧
    (standard.dispatch (naming "İOS")).result = .error (.unsupportedPlatform "sw0" "İOS") := by
  obtain ⟨-, hfound, -⟩ := dispatch_standard (naming "JunOS") "JunOS" (by rfl)
  obtain ⟨-, -, hunknown, -⟩ := dispatch_standard (naming "İOS") "İOS" (by rfl)
  exact ⟨hfound .junos (by decide +kernel), hunknown (by decide +kernel)⟩

end Registry

end SwitchInventory
