import SwitchInventory.Parameters
import SwitchInventory.Proofs.Keyed

namespace SwitchInventory.Parameters

theorem names_insert (p : Parameters) (name value : String) :
    (p.insert name value).names = if name ∈ p.names then p.names else p.names ++ [name] :=
  Keyed.map_put Prod.fst (name, value) p.pairs

/-- A name that is set has its new value, and all others keep theirs. -/
theorem get?_insert (p : Parameters) (name value other : String) :
    (p.insert name value).get? other = if name = other then some value else p.get? other := by
  rw [get?, pairs_insert, Keyed.find?_put]
  split <;> rfl

theorem contains_iff_mem_names {p : Parameters} {name : String} :
    p.contains name = true ↔ name ∈ p.names := by
  rw [contains, get?, Option.isSome_map, Option.isSome_iff_ne_none, ne_eq, Keyed.find?_eq_none_iff,
    not_not, names]

/-- The parameters hold what the pairs set, in order. -/
structure Holds (p : Parameters) (pairs : List (String × String)) : Prop where
  names : p.names = (pairs.map Prod.fst).eraseDups
  value : ∀ name, p.get? name = (pairs.findRev? (·.1 = name)).map Prod.snd

theorem pairs_ofPairs (pairs : List (String × String)) :
    (ofPairs pairs).pairs = pairs.foldl (fun pairs pair => Keyed.put Prod.fst pair pairs) [] :=
  pairs_insertAll empty pairs

theorem mem_of_mem_ofPairs {pairs : List (String × String)} {pair : String × String}
    (h : pair ∈ (ofPairs pairs).pairs) : pair ∈ pairs := by
  rw [pairs_ofPairs] at h
  exact (Keyed.mem_foldl_put h).resolve_left List.not_mem_nil

theorem lastWins_ofPairs (pairs : List (String × String)) :
    Keyed.LastWins Prod.fst Prod.snd pairs (ofPairs pairs).names (ofPairs pairs).get? := by
  have h := Keyed.lastWins_foldl_put Prod.fst Prod.snd pairs
  rwa [← pairs_ofPairs] at h

/-- Each name stands where it was set first, with the value that it was given last. -/
theorem holds_ofPairs (pairs : List (String × String)) : (ofPairs pairs).Holds pairs where
  names := (lastWins_ofPairs pairs).order
  value := (lastWins_ofPairs pairs).last

theorem ofPairs_pairs (p : Parameters) : ofPairs p.pairs = p := by
  apply Parameters.ext
  rw [pairs_ofPairs]
  exact Keyed.foldl_put_of_nodup (by simpa using p.nodup_names)

theorem pairs_insertAll_pairs (p q : Parameters) :
    (p.insertAll q.pairs).pairs = Keyed.overlay Prod.fst p.pairs q.pairs := by
  have hq := congrArg pairs (ofPairs_pairs q)
  rw [pairs_ofPairs] at hq
  have hover := Keyed.overlay_foldl_put p.nodup_names q.pairs []
  rw [hq, Keyed.overlay_nil] at hover
  rw [pairs_insertAll, hover]

theorem names_insertAll_pairs (p q : Parameters) :
    (p.insertAll q.pairs).names = p.names ++ q.names.filter (· ∉ p.names) := by
  rw [names, pairs_insertAll_pairs, Keyed.overlay, List.map_append, Keyed.map_key_overlay_front,
    names, names, List.filter_map]
  rfl

theorem get?_insertAll_pairs (p q : Parameters) (name : String) :
    (p.insertAll q.pairs).get? name = (q.get? name).or (p.get? name) := by
  have hq := (holds_ofPairs q.pairs).value name
  rw [ofPairs_pairs] at hq
  rw [get?, pairs_insertAll, Keyed.find?_foldl_put, Option.map_or, hq, get?]

theorem filter_name_eq (p : Parameters) (name : String) :
    p.pairs.filter (·.1 = name) = ((p.get? name).map (name, ·)).toList := by
  rw [Keyed.filter_eq_toList_find? p.nodup_names, get?]
  cases hfind : Keyed.find? Prod.fst name p.pairs with
  | none => rfl
  | some pair =>
    rw [← (Keyed.mem_of_find?_eq_some hfind).2]
    rfl

theorem Holds.mem_names {p : Parameters} {pairs : List (String × String)} (h : p.Holds pairs)
    {name : String} : name ∈ p.names ↔ name ∈ pairs.map Prod.fst := by
  rw [h.names, List.mem_eraseDups]

end SwitchInventory.Parameters
