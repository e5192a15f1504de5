import Mathlib.Data.List.Forall2
import SwitchInventory.Json.Reader
import SwitchInventory.Proofs.Json.Strings
import SwitchInventory.Proofs.Lists

namespace SwitchInventory.Json

open SwitchInventory.Lists

/-- What may stand between two tokens. -/
def Gap (gap : List Char) : Prop := ∀ c ∈ gap, isGap c = true

/-- What stands before an element or a member, the comma included where it is not the first. -/
inductive Separator : Bool → List Char → Prop where
  | first {gap : List Char} : Gap gap → Separator true gap
  | comma {gap gap' : List Char} : Gap gap → Gap gap' → Separator false (gap ++ ',' :: gap')

mutual

inductive Spells : Value → List Char → Prop where
  | null : Spells .null "null".toList
  | boolean (b : Bool) : Spells (.boolean b) (writeBoolean b)
  | text {name : String} {s : List Char} : SpellsString name s → Spells (.text name) s
  | list {items : List Value} {s : List Char} :
      SpellsItems true items s → Spells (.list items) ('[' :: s)
  | object {members : List (String × Value)} {s : List Char} :
      SpellsMembers true members s → Spells (.object members) ('\x7b' :: s)

/-- The elements from some on, with the closing bracket. -/
inductive SpellsItems : Bool → List Value → List Char → Prop where
  | nil {first : Bool} {gap : List Char} : Gap gap → SpellsItems first [] (gap ++ [']'])
  | cons {first : Bool} {v : Value} {vs : List Value} {sep s t : List Char} :
      Separator first sep → Spells v s → SpellsItems false vs t →
        SpellsItems first (v :: vs) (sep ++ (s ++ t))

/-- The members from some on, with the closing bracket. -/
inductive SpellsMembers : Bool → List (String × Value) → List Char → Prop where
  | nil {first : Bool} {gap : List Char} : Gap gap → SpellsMembers first [] (gap ++ ['\x7d'])
  | cons {first : Bool} {m : String × Value} {ms : List (String × Value)} {sep s t : List Char} :
      Separator first sep → SpellsMember m s → SpellsMembers false ms t →
        SpellsMembers first (m :: ms) (sep ++ (s ++ t))

inductive SpellsMember : String × Value → List Char → Prop where
  | mk {name : String} {v : Value} {t gap gap' s : List Char} :
      SpellsString name t → Gap gap → Gap gap' → Spells v s →
        SpellsMember (name, v) (t ++ (gap ++ ':' :: (gap' ++ s)))

end

theorem gap_nil : Gap [] := fun _ h => nomatch h

theorem gap_blank : Gap [' '] := by
  intro c hc
  rw [List.mem_singleton.mp hc]
  rfl

def line (depth : Nat) : List Char := '\n' :: Value.indent depth

theorem gap_line (depth : Nat) : Gap (line depth) := by
  intro c hc
  rcases List.mem_cons.mp hc with rfl | hc
  · rfl
  · rw [List.eq_of_mem_replicate hc]
    rfl

/-- Parts between brackets, with the same gap before each of them. -/
def bracketed (opening closing : Char) (gap last part : List Char) (parts : List (List Char)) :
    List Char :=
  opening :: (gap ++ (part ++ (parts.flatMap (',' :: gap ++ ·) ++ (last ++ [closing]))))

private theorem cons_intercalate_eq_bracketed (opening closing : Char) (part : List Char)
    (parts : List (List Char)) :
    opening :: [','].intercalate (part :: parts) ++ [closing] =
      bracketed opening closing [] [] part parts := by
  rw [intercalate_cons, bracketed]
  simp

private theorem block_eq_bracketed (opening closing : Char) (depth : Nat) (part : List Char)
    (parts : List (List Char)) :
    Value.block opening closing depth (part :: parts) =
      bracketed opening closing (line (depth + 1)) (line depth) part parts := by
  rw [Value.block, List.map_cons, intercalate_cons, bracketed, List.flatMap_map]
  simp [line]

variable {items : List Value} {members : List (String × Value)} {v : Value} {m : String × Value}
  {part gap last : List Char} {parts : List (List Char)}

private theorem spellsItems_of_forall₂ (h : List.Forall₂ Spells items parts) (hgap : Gap gap)
    (hlast : Gap last) :
    SpellsItems false items (parts.flatMap (',' :: gap ++ ·) ++ (last ++ [']'])) := by
  induction h with
  | nil => exact .nil hlast
  | cons hv _ ih =>
    rw [List.flatMap_cons, List.append_assoc, List.append_assoc]
    exact .cons (.comma gap_nil hgap) hv ih

private theorem spellsMembers_of_forall₂ (h : List.Forall₂ SpellsMember members parts)
    (hgap : Gap gap) (hlast : Gap last) :
    SpellsMembers false members (parts.flatMap (',' :: gap ++ ·) ++ (last ++ ['\x7d'])) := by
  induction h with
  | nil => exact .nil hlast
  | cons hm _ ih =>
    rw [List.flatMap_cons, List.append_assoc, List.append_assoc]
    exact .cons (.comma gap_nil hgap) hm ih

theorem spells_bracketed_items (hv : Spells v part) (h : List.Forall₂ Spells items parts)
    (hgap : Gap gap) (hlast : Gap last) :
    Spells (.list (v :: items)) (bracketed '[' ']' gap last part parts) :=
  .list (.cons (.first hgap) hv (spellsItems_of_forall₂ h hgap hlast))

theorem spells_bracketed_members (hm : SpellsMember m part)
    (h : List.Forall₂ SpellsMember members parts) (hgap : Gap gap) (hlast : Gap last) :
    Spells (.object (m :: members)) (bracketed '\x7b' '\x7d' gap last part parts) :=
  .object (.cons (.first hgap) hm (spellsMembers_of_forall₂ h hgap hlast))

mutual

/-- The text in one line is a spelling of the value. -/
theorem spells_compact : (v : Value) → Spells v v.compact
  | .null => .null
  | .boolean b => .boolean b
  | .text s => .text (spellsString_writeString s)
  | .list [] => .list (.nil gap_nil)
  | .list (v :: vs) => by
    rw [Value.compact, Value.compactItems, cons_intercalate_eq_bracketed]
    exact spells_bracketed_items (spells_compact v) (spells_compactItems vs) gap_nil gap_nil
  | .object [] => .object (.nil gap_nil)
  | .object ((name, v) :: ms) => by
    rw [Value.compact, Value.compactMembers, cons_intercalate_eq_bracketed]
    exact spells_bracketed_members
      (.mk (spellsString_writeString name) gap_nil gap_nil (spells_compact v))
      (spells_compactMembers ms) gap_nil gap_nil

theorem spells_compactItems : (vs : List Value) → List.Forall₂ Spells vs (Value.compactItems vs)
  | [] => .nil
  | v :: vs => .cons (spells_compact v) (spells_compactItems vs)

theorem spells_compactMembers : (ms : List (String × Value)) →
    List.Forall₂ SpellsMember ms (Value.compactMembers ms)
  | [] => .nil
  | (name, v) :: ms =>
    .cons (.mk (spellsString_writeString name) gap_nil gap_nil (spells_compact v))
      (spells_compactMembers ms)

end

mutual

/-- So is the text on several lines, at whatever depth. -/
theorem spells_pretty (depth : Nat) : (v : Value) → Spells v (v.pretty depth)
  | .null => .null
  | .boolean b => .boolean b
  | .text s => .text (spellsString_writeString s)
  | .list [] => .list (.nil gap_nil)
  | .list (v :: vs) => by
    rw [Value.pretty, Value.prettyItems, block_eq_bracketed]
    exact spells_bracketed_items (spells_pretty (depth + 1) v) (spells_prettyItems (depth + 1) vs)
      (gap_line _) (gap_line _)
  | .object [] => .object (.nil gap_nil)
  | .object ((name, v) :: ms) => by
    rw [Value.pretty, Value.prettyMembers, block_eq_bracketed]
    exact spells_bracketed_members
      (.mk (spellsString_writeString name) gap_nil gap_blank (spells_pretty (depth + 1) v))
      (spells_prettyMembers (depth + 1) ms) (gap_line _) (gap_line _)

theorem spells_prettyItems (depth : Nat) : (vs : List Value) →
    List.Forall₂ Spells vs (Value.prettyItems depth vs)
  | [] => .nil
  | v :: vs => .cons (spells_pretty depth v) (spells_prettyItems depth vs)

theorem spells_prettyMembers (depth : Nat) : (ms : List (String × Value)) →
    List.Forall₂ SpellsMember ms (Value.prettyMembers depth ms)
  | [] => .nil
  | (name, v) :: ms =>
    .cons (.mk (spellsString_writeString name) gap_nil gap_blank (spells_pretty depth v))
      (spells_prettyMembers depth ms)

end

end SwitchInventory.Json
