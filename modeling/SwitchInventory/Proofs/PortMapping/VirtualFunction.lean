import Mathlib.Data.List.Infix
import SwitchInventory.Inventory.Load
import SwitchInventory.Lookup
import SwitchInventory.Proofs.Text.Cut

namespace SwitchInventory

open SwitchInventory.Text

def zeros : List Char := ['0', '0', '0', '0']

/-- The first domain as it stands in an address, with the colon behind it. -/
def zeroDomain : List Char := zeros ++ [':']

def dropLeading (mark s : List Char) : List Char := (mark.isPrefixOf? s).getD s

def withoutColons (s : List Char) : List Char := s.filter (· ≠ ':')

/-- What stands in front of the function number. -/
def beforeFunction (slot : List Char) : List Char := slot.takeWhile (· ≠ '.')

/-- The host id that the rule gives to the virtual function at a PCI address: the function number, a
zero domain at the front, and then the colons are left out. -/
def ruleHostId (hostId slot : String) : String :=
  hostId ++ "-" ++
    String.ofList (withoutColons (dropLeading zeroDomain (beforeFunction slot.toList)))

variable {c : Char} {s t w : List Char}

private theorem dropLeading_append (mark s : List Char) : dropLeading mark (mark ++ s) = s := by
  have h : mark.isPrefixOf? (mark ++ s) = some s := List.isPrefixOf?_eq_some_iff_append_eq.mpr rfl
  rw [dropLeading, h, Option.getD_some]

private theorem dropLeading_of_not_isPrefix {mark : List Char} (h : ¬ mark <+: s) :
    dropLeading mark s = s := by
  have hnone : mark.isPrefixOf? s = none := by
    rw [Option.eq_none_iff_forall_ne_some]
    intro rest hrest
    exact h ⟨rest, List.isPrefixOf?_eq_some_iff_append_eq.mp hrest⟩
  rw [dropLeading, hnone, Option.getD_none]

private theorem withoutColons_append (s t : List Char) :
    withoutColons (s ++ t) = withoutColons s ++ withoutColons t := List.filter_append s t

theorem withoutColons_cons_colon (s : List Char) : withoutColons (':' :: s) = withoutColons s := rfl

private theorem withoutColons_of_not_mem (h : ':' ∉ w) : withoutColons w = w := by
  apply List.filter_eq_self.mpr
  intro c hc
  have hne : c ≠ ':' := fun e => h (e ▸ hc)
  exact decide_eq_true hne

private theorem zeroDomain_isPrefix_iff (h : ':' ∉ w) :
    zeroDomain <+: w ++ ':' :: t ↔ w = zeros := by
  constructor
  · rintro ⟨rest, hrest⟩
    -- Both sides are cut at their first colon.
    have hcut : cut? [':'] (w ++ ':' :: t) = some (zeros, rest) :=
      cut?_singleton_eq_some_iff.mpr ⟨hrest ▸ rfl, by decide⟩
    rw [cut?_singleton_eq_some_iff.mpr ⟨rfl, h⟩] at hcut
    exact (Prod.mk.inj (Option.some.inj hcut)).1
  · rintro rfl
    exact ⟨t, rfl⟩

/-- A zero domain ends at the first colon or stands behind it. -/
theorem zeroDomain_isInfix_iff (h : ':' ∉ w) :
    zeroDomain <:+: w ++ ':' :: t ↔ zeros <:+ w ∨ zeroDomain <:+: t := by
  induction w with
  | nil =>
    have hfront : ¬ zeroDomain <+: ':' :: t := by
      rintro ⟨rest, hrest⟩
      cases hrest
    have hsuffix : ¬ zeros <:+ [] := by decide
    rw [List.nil_append, List.infix_cons_iff, or_iff_right hfront, or_iff_right hsuffix]
  | cons c w ih =>
    have hw : ':' ∉ w := fun hmem => h (List.mem_cons_of_mem c hmem)
    have hwhole := zeroDomain_isPrefix_iff (t := t) h
    rw [List.cons_append] at hwhole ⊢
    rw [List.infix_cons_iff, hwhole, ih hw, List.suffix_cons_iff, or_assoc, eq_comm]

theorem dropZeroDomain_append (s : List Char) :
    dropZeroDomain (zeroDomain ++ s) = dropZeroDomain s := rfl

theorem dropZeroDomain_cons (h : ¬ zeroDomain <+: c :: s) :
    dropZeroDomain (c :: s) = c :: dropZeroDomain s := by
  rw [dropZeroDomain]
  rintro t rfl ht
  exact h ⟨t, by rw [ht]; rfl⟩

private theorem dropZeroDomain_dropLeading (s : List Char) :
    dropZeroDomain (dropLeading zeroDomain s) = dropZeroDomain s := by
  by_cases h : zeroDomain <+: s
  · obtain ⟨t, rfl⟩ := h
    rw [dropLeading_append, dropZeroDomain_append]
  · rw [dropLeading_of_not_isPrefix h]

theorem dropZeroDomain_of_not_isInfix (h : ¬ zeroDomain <:+: s) : dropZeroDomain s = s := by
  induction s with
  | nil => rfl
  | cons c s ih =>
    rw [List.infix_cons_iff, not_or] at h
    rw [dropZeroDomain_cons h.1, ih h.2]

theorem dropZeroDomain_sublist (s : List Char) : (dropZeroDomain s).Sublist s := by
  induction s using dropZeroDomain.induct with
  | case1 s ih => exact ih.trans (List.sublist_append_right zeroDomain s)
  | case2 c s h ih =>
    rw [dropZeroDomain.eq_2 c s h]
    exact ih.cons_cons c
  | case3 => exact List.Sublist.refl []

theorem withoutColons_dropZeroDomain_sublist (s : List Char) :
    (withoutColons (dropZeroDomain s)).Sublist (withoutColons s) :=
  (dropZeroDomain_sublist s).filter _

/-- Each zero domain takes four digits with it. -/
theorem length_lt_of_zeroDomain_isInfix (h : zeroDomain <:+: s) :
    (withoutColons (dropZeroDomain s)).length < (withoutColons s).length := by
  induction s using dropZeroDomain.induct with
  | case1 s ih =>
    have hle := (withoutColons_dropZeroDomain_sublist s).length_le
    have hlength : (withoutColons (zeroDomain ++ s)).length = (withoutColons s).length + 4 := rfl
    exact lt_of_le_of_lt hle (hlength ▸ Nat.lt_add_of_pos_right (by decide))
  | case2 c s hne ih =>
    have hrest : zeroDomain <:+: s := by
      rcases List.infix_cons_iff.mp h with ⟨t, ht⟩ | hrest
      · obtain ⟨rfl, rfl⟩ := List.cons.inj ht
        exact absurd rfl (hne t rfl)
      · exact hrest
    rw [dropZeroDomain.eq_2 c s hne, ← List.singleton_append, ← List.singleton_append (l := s),
      withoutColons_append, withoutColons_append, List.length_append, List.length_append]
    exact Nat.add_lt_add_left (ih hrest) _
  | case3 => cases List.infix_nil.mp h

/-- Colons apart, something is left out exactly where a zero domain stands. -/
theorem withoutColons_dropZeroDomain_eq_iff :
    withoutColons (dropZeroDomain s) = withoutColons s ↔ ¬ zeroDomain <:+: s := by
  constructor
  · intro heq hinfix
    exact absurd (congrArg List.length heq) (length_lt_of_zeroDomain_isInfix hinfix).ne
  · intro h
    rw [dropZeroDomain_of_not_isInfix h]

/-- A host id follows the rule exactly when no zero domain stands further on in the address. -/
theorem virtualHostId_eq_iff (hostId slot : String) :
    virtualHostId hostId slot = ruleHostId hostId slot ↔
      ¬ zeroDomain <:+: dropLeading zeroDomain (beforeFunction slot.toList) := by
  rw [← withoutColons_dropZeroDomain_eq_iff, dropZeroDomain_dropLeading, virtualHostId, ruleHostId,
    String.append_right_inj, String.ofList_inj]
  rfl

def HexDigit (c : Char) : Prop := c ∈ "0123456789abcdefABCDEF".toList

instance (c : Char) : Decidable (HexDigit c) := inferInstanceAs (Decidable (c ∈ _))

/-- The parts of a PCI address. The domain has four digits or more. -/
structure PciAddress where
  domain : List Char
  bus : List Char
  device : List Char
  function : List Char
  hex : ∀ c ∈ domain ++ bus ++ device, HexDigit c
  domain_length : 4 ≤ domain.length
  bus_length : bus.length = 2
  device_length : device.length = 2

namespace PciAddress

/-- The address as far as it stands in front of the function number. -/
def front (a : PciAddress) : List Char := a.domain ++ ':' :: (a.bus ++ ':' :: a.device)

/-- The address as it is written: `domain:bus:device.function`. -/
def text (a : PciAddress) : String := String.ofList (a.front ++ '.' :: a.function)

/-- The host id with all digits of the address in front of its function number, a zero domain
apart. -/
def fullHostId (a : PciAddress) (hostId : String) : String :=
  hostId ++ "-" ++
    String.ofList ((if a.domain = zeros then [] else a.domain) ++ a.bus ++ a.device)

variable (a : PciAddress)

private theorem not_mem_of_not_hexDigit {c : Char} (hc : ¬ HexDigit c) :
    c ∉ a.domain ∧ c ∉ a.bus ∧ c ∉ a.device := by
  have h : c ∉ a.domain ++ a.bus ++ a.device := fun hmem => hc (a.hex c hmem)
  simpa [and_assoc] using h

private theorem beforeFunction_text : beforeFunction a.text.toList = a.front := by
  obtain ⟨hdomain, hbus, hdevice⟩ := a.not_mem_of_not_hexDigit (c := '.') (by decide)
  have hfront : ∀ c ∈ a.front, decide (c ≠ '.') = true := by
    intro c hc
    have hne : c ≠ '.' := by
      rintro rfl
      simp [front, hdomain, hbus, hdevice] at hc
    exact decide_eq_true hne
  rw [beforeFunction, text, String.toList_ofList, List.takeWhile_append_of_pos hfront,
    List.takeWhile_cons_of_neg (by decide), List.append_nil]

/-- Bus and device are too short to end in a zero domain. -/
theorem not_zeroDomain_isInfix_bus : ¬ zeroDomain <:+: a.bus ++ ':' :: a.device := by
  obtain ⟨-, hbus, hdevice⟩ := a.not_mem_of_not_hexDigit (c := ':') (by decide)
  rw [zeroDomain_isInfix_iff hbus, not_or]
  constructor
  · intro h
    have hle := h.length_le
    rw [a.bus_length] at hle
    exact absurd hle (by decide)
  · intro h
    exact hdevice (h.subset (by decide))

private theorem dropLeading_front :
    dropLeading zeroDomain a.front =
      if a.domain = zeros then a.bus ++ ':' :: a.device else a.front := by
  obtain ⟨hdomain, -⟩ := a.not_mem_of_not_hexDigit (c := ':') (by decide)
  split
  · next h =>
    have hfront : a.front = zeroDomain ++ (a.bus ++ ':' :: a.device) := by rw [front, h]; rfl
    rw [hfront, dropLeading_append]
  · next h =>
    apply dropLeading_of_not_isPrefix
    exact fun hp => h ((zeroDomain_isPrefix_iff hdomain).mp hp)

/-- What the rule gives for an address in all its parts. -/
theorem ruleHostId_text (hostId : String) : ruleHostId hostId a.text = a.fullHostId hostId := by
  obtain ⟨hdomain, hbus, hdevice⟩ := a.not_mem_of_not_hexDigit (c := ':') (by decide)
  rw [ruleHostId, fullHostId, beforeFunction_text, dropLeading_front]
  split <;> simp [front, withoutColons_append, withoutColons_cons_colon, withoutColons_of_not_mem,
    hdomain, hbus, hdevice]

theorem zeroDomain_isInfix_iff_suffix :
    zeroDomain <:+: dropLeading zeroDomain a.front ↔ a.domain ≠ zeros ∧ zeros <:+ a.domain := by
  obtain ⟨hdomain, -⟩ := a.not_mem_of_not_hexDigit (c := ':') (by decide)
  rw [dropLeading_front]
  split
  · next h => simp [h, a.not_zeroDomain_isInfix_bus]
  · next h =>
    rw [front, zeroDomain_isInfix_iff hdomain, or_iff_left a.not_zeroDomain_isInfix_bus,
      and_iff_right h]

end PciAddress

/-- The host id of a virtual function follows the rule unless a zero domain stands behind the front
of the address, and has all the digits of a domain other than the first one unless four zeros end
it. -/
theorem virtualHostId_eq_rule_iff (hostId : String) :
    (∀ slot, virtualHostId hostId slot = ruleHostId hostId slot ↔
      ¬ zeroDomain <:+: dropLeading zeroDomain (beforeFunction slot.toList)) ∧
    ∀ a : PciAddress, ruleHostId hostId a.text = a.fullHostId hostId ∧
      (virtualHostId hostId a.text = a.fullHostId hostId ↔
        a.domain = zeros ∨ ¬ zeros <:+ a.domain) := by
  refine ⟨virtualHostId_eq_iff hostId, ?_⟩
  intro a
  refine ⟨a.ruleHostId_text hostId, ?_⟩
  rw [← a.ruleHostId_text, virtualHostId_eq_iff, a.beforeFunction_text,
    a.zeroDomain_isInfix_iff_suffix, not_and_or, not_not]

/-- The four zeros that end a domain of five digits are left out as if they were a domain, so a host
that is mapped by the rule is not found. -/
theorem virtualHostId_fiveDigits : virtualHostId "h" "10000:e1:00.0" = "h-1e100" ∧
    ruleHostId "h" "10000:e1:00.0" = "h-10000e100" ∧
    ∃ inv, (Inventory.parse "[ansible:port_mappings]\nh-10000e100 = s::p\n").result = .ok inv ∧
      (inv.switchPorts (.normal "h" (some "10000:e1:00.0"))).result = .ok [] := by
  refine ⟨by decide, by decide, { portMappings := ⟨[⟨"h-10000e100", [⟨"s", "p"⟩]⟩]⟩ }, by rfl, ?_⟩
  rfl

end SwitchInventory
