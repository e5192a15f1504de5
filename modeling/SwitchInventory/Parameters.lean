import SwitchInventory.Keyed

namespace SwitchInventory

/-- An ordered map from names to values; no name occurs twice. -/
structure Parameters where
  pairs : List (String × String)
  nodup_names : (pairs.map Prod.fst).Nodup
  deriving DecidableEq

namespace Parameters

@[ext] theorem ext {p q : Parameters} (h : p.pairs = q.pairs) : p = q := by
  cases p
  cases q
  cases h
  rfl

def empty : Parameters := ⟨[], .nil⟩

instance : Inhabited Parameters := ⟨empty⟩

def insert (p : Parameters) (name value : String) : Parameters :=
  ⟨Keyed.put Prod.fst (name, value) p.pairs, Keyed.nodup_map_put _ _ p.nodup_names⟩

def insertAll (p : Parameters) (pairs : List (String × String)) : Parameters :=
  pairs.foldl (fun p pair => p.insert pair.1 pair.2) p

/-- The parameters that arise from setting pairs in order. -/
def ofPairs (pairs : List (String × String)) : Parameters := empty.insertAll pairs

def get? (p : Parameters) (name : String) : Option String :=
  (Keyed.find? Prod.fst name p.pairs).map Prod.snd

def contains (p : Parameters) (name : String) : Bool := (p.get? name).isSome

def names (p : Parameters) : List String := p.pairs.map Prod.fst

def size (p : Parameters) : Nat := p.pairs.length

def isEmpty (p : Parameters) : Bool := p.pairs.isEmpty

@[simp] theorem pairs_empty : empty.pairs = [] := rfl

@[simp] theorem pairs_insert (p : Parameters) (name value : String) :
    (p.insert name value).pairs = Keyed.put Prod.fst (name, value) p.pairs := rfl

theorem pairs_insertAll (p : Parameters) (pairs : List (String × String)) :
    (p.insertAll pairs).pairs =
      pairs.foldl (fun pairs pair => Keyed.put Prod.fst pair pairs) p.pairs := by
  unfold insertAll
  induction pairs generalizing p with
  | nil => rfl
  | cons pair pairs ih => exact ih (p.insert pair.1 pair.2)

end Parameters

end SwitchInventory
