import Mathlib.Data.List.Induction
import SwitchInventory.Platform
import SwitchInventory.Proofs.Text.Letters

namespace SwitchInventory

/-- The handler is for the platform of that name. -/
def Handler.Serves (h : Handler) (os : String) : Prop := Text.sameLetters h.networkOs os = true

instance (h : Handler) (os : String) : Decidable (h.Serves os) :=
  inferInstanceAs (Decidable (Text.sameLetters h.networkOs os = true))

theorem Handler.Serves.congr {g h : Handler} (hgh : g.Serves h.networkOs) (os : String) :
    g.Serves os ↔ h.Serves os := by
  rw [Serves, Text.sameLetters_congr hgh, Serves]

theorem Handler.serves_comm {g h : Handler} : g.Serves h.networkOs ↔ h.Serves g.networkOs := by
  rw [Serves, Text.sameLetters_comm, Serves]

theorem Handler.Serves.same {g h : Handler} {os : String} (hg : g.Serves os) (hh : h.Serves os) :
    g.Serves h.networkOs :=
  Text.sameLetters_iff.mpr ((Text.sameLetters_iff.mp hg).trans (Text.sameLetters_iff.mp hh).symm)

namespace Registry

/-- The registry after handlers have been registered, one after the other. -/
def registerAll (r : Registry) (hs : List Handler) : Registry := hs.foldl register r

private theorem registerAll_concat (r : Registry) (hs : List Handler) (h : Handler) :
    r.registerAll (hs ++ [h]) = (r.registerAll hs).register h := by
  rw [registerAll, List.foldl_append]
  rfl

/-- The handlers of a history for whose platform none is registered later, in order. -/
def lasting : List Handler → List Handler
  | [] => []
  | h :: later => if ∃ g ∈ later, g.Serves h.networkOs then lasting later else h :: lasting later

/-- The handler is the one that was registered last for the platform of that name. -/
def Latest (history : List Handler) (os : String) (h : Handler) : Prop :=
  ∃ before after, history = before ++ h :: after ∧ h.Serves os ∧ ∀ g ∈ after, ¬ g.Serves os

/-- What a registry holds and finds by its history. -/
structure Remembers (r : Registry) (history : List Handler) : Prop where
  ordered : r.handlers = lasting history
  distinct : r.handlers.Pairwise fun g h => ¬ g.Serves h.networkOs
  found : ∀ (s : Switch) (os : String), s.networkOs? = some os →
    ∀ h, r.handlerFor s = .ok h ↔ Latest history os h
  unsupported : ∀ (s : Switch) (os : String), s.networkOs? = some os →
    ∀ e, r.handlerFor s = .error e ↔
      e = .unsupportedPlatform s.name os ∧ ∀ h ∈ history, ¬ h.Serves os
  unaffected : ∀ (h : Handler) (s : Switch), (∀ os, s.networkOs? = some os → ¬ h.Serves os) →
    (r.register h).handlerFor s = r.handlerFor s ∧ (r.register h).dispatch s = r.dispatch s

theorem handlers_register (r : Registry) (h : Handler) :
    (r.register h).handlers = r.handlers.filter (¬ ·.Serves h.networkOs) ++ [h] := by
  simp [register, Handler.Serves]

private theorem pairwise_register {r : Registry}
    (hr : r.handlers.Pairwise fun g h => ¬ g.Serves h.networkOs) (h : Handler) :
    (r.register h).handlers.Pairwise fun g h => ¬ g.Serves h.networkOs := by
  rw [handlers_register, List.pairwise_append]
  refine ⟨hr.filter _, List.pairwise_singleton _ h, ?_⟩
  intro g hg k hk
  rw [List.mem_singleton.mp hk]
  simpa using (List.mem_filter.mp hg).2

/-- A new handler is found for its platform, and for every other one what was found before. -/
theorem find?_register (r : Registry) (h : Handler) (os : String) :
    (r.register h).handlers.find? (·.Serves os) =
      if h.Serves os then some h else r.handlers.find? (·.Serves os) := by
  rw [handlers_register, List.find?_append, List.find?_filter, List.find?_singleton]
  by_cases hos : h.Serves os
  · -- What is kept is for other platforms.
    have hkept : r.handlers.find? (fun g => decide (decide (¬ g.Serves h.networkOs) = true ∧
        decide (g.Serves os) = true)) = none := by
      rw [List.find?_eq_none]
      intro g _
      simp only [decide_eq_true_eq, not_and]
      intro hg hgos
      exact hg (hgos.same hos)
    rw [hkept]
    simp [hos]
  · have hsame : (fun g : Handler => decide (decide (¬ g.Serves h.networkOs) = true ∧
        decide (g.Serves os) = true)) = fun g => decide (g.Serves os) := by
      funext g
      simp only [decide_eq_true_eq, decide_eq_decide, and_iff_right_iff_imp]
      intro hgos hgh
      exact hos ((hgh.congr os).mp hgos)
    rw [hsame]
    simp [hos]

theorem handlerFor_of_networkOs? (r : Registry) {s : Switch} {os : String}
    (hs : s.networkOs? = some os) : r.handlerFor s =
      match r.handlers.find? (·.Serves os) with
      | some h => .ok h
      | none => .error (.unsupportedPlatform s.name os) := by
  have hserves : (fun h : Handler => decide (h.Serves os)) =
      fun h => Text.sameLetters h.networkOs os := by
    funext h
    exact Bool.decide_eq_true
  cases hfind : r.handlers.find? (·.Serves os) with
  | none =>
    rw [hserves] at hfind
    simp [handlerFor, hs, hfind]
  | some h =>
    rw [hserves] at hfind
    simp [handlerFor, hs, hfind]

/-- Switches of other platforms are handled as before. -/
theorem handlerFor_register_of_not_serves (r : Registry) {h : Handler} {s : Switch}
    (hs : ∀ os, s.networkOs? = some os → ¬ h.Serves os) :
    (r.register h).handlerFor s = r.handlerFor s := by
  cases hos : s.networkOs? with
  | none =>
    unfold handlerFor
    rw [hos]
  | some os =>
    rw [handlerFor_of_networkOs? _ hos, handlerFor_of_networkOs? _ hos, find?_register,
      if_neg (hs os hos)]

theorem dispatch_congr {r q : Registry} {s : Switch} (h : r.handlerFor s = q.handlerFor s) :
    r.dispatch s = q.dispatch s := by
  unfold dispatch
  rw [h]

private theorem lasting_concat (history : List Handler) (h : Handler) :
    lasting (history ++ [h]) = (lasting history).filter (¬ ·.Serves h.networkOs) ++ [h] := by
  induction history with
  | nil => simp [lasting]
  | cons g later ih =>
    rw [List.cons_append, lasting, lasting, ih]
    by_cases hlater : ∃ k ∈ later, k.Serves g.networkOs
    · obtain ⟨k, hk, hkg⟩ := hlater
      rw [if_pos ⟨k, List.mem_append_left [h] hk, hkg⟩, if_pos ⟨k, hk, hkg⟩]
    · rw [if_neg hlater]
      by_cases hg : g.Serves h.networkOs
      · have hlast : ∃ k ∈ later ++ [h], k.Serves g.networkOs :=
          ⟨h, List.mem_concat_self, Handler.serves_comm.mp hg⟩
        rw [if_pos hlast, List.filter_cons_of_neg (by simpa using hg)]
      · have hnone : ¬ ∃ k ∈ later ++ [h], k.Serves g.networkOs := by
          rintro ⟨k, hk, hkg⟩
          rcases List.mem_append.mp hk with hk | hk
          · exact hlater ⟨k, hk, hkg⟩
          · rw [List.mem_singleton.mp hk] at hkg
            exact hg (Handler.serves_comm.mp hkg)
        rw [if_neg hnone, List.filter_cons_of_pos (by simpa using hg), List.cons_append]

/-- A registry holds the handlers that no later one replaced, in the order of their registration. -/
theorem handlers_registerAll (history : List Handler) :
    (({} : Registry).registerAll history).handlers = lasting history := by
  induction history using List.reverseRecOn with
  | nil => rfl
  | append_singleton history h ih =>
    rw [registerAll_concat, handlers_register, ih, lasting_concat]

/-- No two handlers are for the same platform. -/
theorem pairwise_registerAll (history : List Handler) :
    (({} : Registry).registerAll history).handlers.Pairwise fun g h => ¬ g.Serves h.networkOs := by
  induction history using List.reverseRecOn with
  | nil => exact List.Pairwise.nil
  | append_singleton history h ih =>
    rw [registerAll_concat]
    exact pairwise_register ih h

theorem find?_registerAll (history : List Handler) (os : String) :
    (({} : Registry).registerAll history).handlers.find? (·.Serves os) =
      history.reverse.find? (·.Serves os) := by
  induction history using List.reverseRecOn with
  | nil => rfl
  | append_singleton history h ih =>
    rw [registerAll_concat, find?_register, ih, List.reverse_concat, List.find?_cons]
    by_cases hos : h.Serves os <;> simp [hos]

private theorem find?_reverse_eq_some_iff {history : List Handler} {os : String} {h : Handler} :
    history.reverse.find? (·.Serves os) = some h ↔ Latest history os h := by
  rw [List.find?_eq_some_iff_append, Latest]
  constructor
  · rintro ⟨hos, after, before, hhistory, hafter⟩
    rw [List.reverse_eq_iff] at hhistory
    refine ⟨before.reverse, after.reverse, by simp [hhistory], by simpa using hos, ?_⟩
    intro g hg
    simpa using hafter g (List.mem_reverse.mp hg)
  · rintro ⟨before, after, rfl, hos, hafter⟩
    refine ⟨by simpa using hos, after.reverse, before.reverse, by simp, ?_⟩
    intro g hg
    simpa using hafter g (List.mem_reverse.mp hg)

theorem remembers_history (history : List Handler) :
    (({} : Registry).registerAll history).Remembers history where
  ordered := handlers_registerAll history
  distinct := pairwise_registerAll history
  found s os hs h := by
    rw [handlerFor_of_networkOs? _ hs, find?_registerAll, ← find?_reverse_eq_some_iff]
    cases history.reverse.find? (·.Serves os) <;> simp
  unsupported s os hs e := by
    rw [handlerFor_of_networkOs? _ hs, find?_registerAll]
    have hnone : history.reverse.find? (·.Serves os) = none ↔ ∀ h ∈ history, ¬ h.Serves os := by
      simp [List.find?_eq_none]
    rw [← hnone]
    cases history.reverse.find? (·.Serves os) <;> simp [eq_comm]
  unaffected h s hs := by
    have hfor := handlerFor_register_of_not_serves (({} : Registry).registerAll history) hs
    exact ⟨hfor, dispatch_congr hfor⟩

/-- Registering handlers with an empty registry, or with the standard one, is remembered. -/
theorem remembers_registerAll (hs : List Handler) :
    (({} : Registry).registerAll hs).Remembers hs ∧
      (standard.registerAll hs).Remembers (NetworkOs.all.map NetworkOs.handler ++ hs) := by
  have hstandard : standard.registerAll hs =
      ({} : Registry).registerAll (NetworkOs.all.map NetworkOs.handler ++ hs) := by
    rw [registerAll, registerAll, List.foldl_append, standard]
  refine ⟨remembers_history hs, ?_⟩
  rw [hstandard]
  exact remembers_history _

/-- Two handlers that share a platform with each other and with one of the standard ones. -/
def rivals : List Handler := [{ networkOs := "EOS", role := "site/first" },
  { networkOs := "eOs", role := "site/second" }]

/-- The latest of the rivals serves the platform, and is the only one of them that is left. -/
theorem remembers_rivals :
    (standard.registerAll rivals).handlerFor
        { name := "sw0", standard := .ofPairs [("ansible_network_os", "Eos")] } =
      .ok { networkOs := "eOs", role := "site/second" } ∧
    (standard.registerAll rivals).platforms =
      ["cumulus", "dellos10", "ios", "junos", "nxos", "openvswitch", "eOs"] := by
  have hremembers := (remembers_registerAll rivals).2
  refine ⟨(hremembers.found _ "Eos" (by rfl) _).mpr ?_, ?_⟩
  · exact ⟨NetworkOs.all.map NetworkOs.handler ++ rivals.take 1, [], rfl, by decide, by simp⟩
  · rw [platforms, hremembers.ordered]
    decide

end Registry

end SwitchInventory
