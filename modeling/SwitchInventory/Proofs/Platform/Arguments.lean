import SwitchInventory.Proofs.Parameters
import SwitchInventory.Proofs.Platform.Recognition

namespace SwitchInventory

namespace Switch

/-- The standard parameter that is meant for roles, where it is set. -/
def edgeArgument (s : Switch) : Parameters :=
  .ofPairs ((s.standard.get? "stp_edge").map ("stp_edge", ·)).toList

private theorem names_edgeArgument (s : Switch) :
    s.edgeArgument.names = if s.standard.contains "stp_edge" then ["stp_edge"] else [] := by
  unfold edgeArgument Parameters.contains
  cases s.standard.get? "stp_edge" <;> rfl

private theorem get?_edgeArgument (s : Switch) (name : String) :
    s.edgeArgument.get? name = if name = "stp_edge" then s.standard.get? "stp_edge" else none := by
  unfold edgeArgument
  cases s.standard.get? "stp_edge" with
  | none => simp [Parameters.ofPairs, Parameters.insertAll, Parameters.get?, Keyed.find?]
  | some value =>
    have hget := Parameters.get?_insert .empty "stp_edge" value name
    simp only [eq_comm (a := name)]
    exact hget

theorem roleArguments_eq (s : Switch) :
    s.roleArguments = s.edgeArgument.insertAll s.custom.pairs := by
  have hedge := s.standard.filter_name_eq "stp_edge"
  simp only [roleArguments, roleNames, List.mem_singleton, hedge, edgeArgument]

/-- What the role of a platform receives for a switch. -/
structure Receives (s : Switch) (vars : Parameters) : Prop where
  nodup : vars.names.Nodup
  names : vars.names =
    if s.standard.contains "stp_edge" then "stp_edge" :: s.custom.names.filter (· ≠ "stp_edge")
    else s.custom.names
  value : ∀ name, vars.get? name =
    (s.custom.get? name).or (if name = "stp_edge" then s.standard.get? "stp_edge" else none)

/-- The role receives the custom parameters and, before them, the standard one that is meant for
roles. -/
theorem receives_roleArguments (s : Switch) : s.Receives s.roleArguments where
  nodup := s.roleArguments.nodup_names
  names := by
    rw [roleArguments_eq, Parameters.names_insertAll_pairs, names_edgeArgument]
    split <;> simp
  value name := by
    rw [roleArguments_eq, Parameters.get?_insertAll_pairs, get?_edgeArgument]

/-- The switches differ in nothing but standard parameters that neither name the platform nor are
meant for roles. -/
structure SameTask (s t : Switch) : Prop where
  name : t.name = s.name
  custom : t.custom = s.custom
  standard : ∀ name ∈ ["ansible_network_os", "stp_edge"],
    t.standard.get? name = s.standard.get? name

theorem SameTask.networkOs? {s t : Switch} (h : s.SameTask t) : t.networkOs? = s.networkOs? :=
  h.standard "ansible_network_os" List.mem_cons_self

/-- No other standard parameter has a part in them. -/
theorem SameTask.roleArguments {s t : Switch} (h : s.SameTask t) :
    t.roleArguments = s.roleArguments := by
  have hedge := h.standard "stp_edge" (by simp)
  rw [roleArguments_eq, roleArguments_eq, edgeArgument, edgeArgument, hedge, h.custom]

end Switch

namespace Registry

/-- The same handler is found for both. -/
theorem handlerFor_of_sameTask (r : Registry) {s t : Switch} (h : s.SameTask t) :
    r.handlerFor t = r.handlerFor s := by
  unfold handlerFor
  rw [h.networkOs?, h.name]

theorem dispatch_of_handlerFor {r : Registry} {s : Switch} {h : Handler}
    (hfor : r.handlerFor s = .ok h) : r.dispatch s = do
      Logged.log .debug .platform ("switch " ++ s.name ++ " handled by " ++ h.networkOs)
      return { switch := s.name, role := h.role, vars := h.taskVars s } := by
  unfold dispatch
  rw [hfor]
  rfl

/-- Under a handler that keeps the default variables, the role receives no standard parameter but
the one for roles, and the others make no difference to the task, nor to what is logged. -/
theorem dispatch_default {r : Registry} {s : Switch} {h : Handler} (hfor : r.handlerFor s = .ok h)
    (hdefault : h.taskVars = Switch.roleArguments) :
    (∃ vars, (r.dispatch s).result = .ok { switch := s.name, role := h.role, vars := vars } ∧
      s.Receives vars) ∧
    ∀ t : Switch, s.SameTask t → r.dispatch t = r.dispatch s := by
  constructor
  · refine ⟨s.roleArguments, ?_, s.receives_roleArguments⟩
    rw [dispatch_of_handlerFor hfor, hdefault]
    rfl
  · intro t hst
    have hfor' := (r.handlerFor_of_sameTask hst).trans hfor
    rw [dispatch_of_handlerFor hfor, dispatch_of_handlerFor hfor', hdefault, hst.roleArguments,
      hst.name]

/-- A switch at the edge whose custom parameters say otherwise. -/
def edgeSwitch : Switch where
  name := "sw0"
  standard := .ofPairs [("mac", "aa:bb"), ("stp_edge", "true"), ("ansible_network_os", "eos")]
  custom := .ofPairs [("speed", "10"), ("stp_edge", "off")]

theorem dispatch_edgeSwitch :
    let site : Handler := { networkOs := "EOS", role := "site/eos" }
    (∃ vars, ((standard.register site).dispatch edgeSwitch).result =
        .ok { switch := "sw0", role := "site/eos", vars := vars } ∧ edgeSwitch.Receives vars) ∧
    edgeSwitch.roleArguments.pairs = [("stp_edge", "off"), ("speed", "10")] ∧
    (standard.register site).dispatch { edgeSwitch with
        standard := .ofPairs [("ansible_network_os", "eos"), ("stp_edge", "true"), ("user", "x")] } =
      (standard.register site).dispatch edgeSwitch := by
  intro site
  have hos : edgeSwitch.networkOs? = some "eos" := by rfl
  have hserves : site.Serves "eos" := by decide
  have hfor : (standard.register site).handlerFor edgeSwitch = .ok site := by
    rw [handlerFor_of_networkOs? _ hos, find?_register, if_pos hserves]
  obtain ⟨hvars, hsame⟩ := dispatch_default hfor rfl
  refine ⟨hvars, by decide, hsame _ ⟨rfl, rfl, ?_⟩⟩
  decide

end Registry

end SwitchInventory
