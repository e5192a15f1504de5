import Mathlib.Data.List.Basic
import SwitchInventory.Json.Strings
import SwitchInventory.Json.Value

namespace SwitchInventory.Json

/-- What may be written for a character inside of a string: the character itself, or an escape by a
letter, by its number, or by the two halves of a surrogate pair. -/
inductive SpellsChar : Char → List Char → Prop where
  | plain {c : Char} : c ≠ '"' → c ≠ '\\' → ¬ c.toNat < 0x20 → SpellsChar c [c]
  | letter {c l : Char} : escapedChar? l = some c → SpellsChar c ['\\', l]
  | number {c x₁ x₂ x₃ x₄ : Char} : hexNumber? x₁ x₂ x₃ x₄ = some c.toNat →
      SpellsChar c ['\\', 'u', x₁, x₂, x₃, x₄]
  | surrogates {c x₁ x₂ x₃ x₄ y₁ y₂ y₃ y₄ : Char} {m n : Nat} :
      hexNumber? x₁ x₂ x₃ x₄ = some m → hexNumber? y₁ y₂ y₃ y₄ = some n →
      0xD800 ≤ m → m < 0xDC00 → 0xDC00 ≤ n → n < 0xE000 →
      c.toNat = 0x10000 + (m - 0xD800) * 0x400 + (n - 0xDC00) →
      SpellsChar c ['\\', 'u', x₁, x₂, x₃, x₄, '\\', 'u', y₁, y₂, y₃, y₄]

/-- The characters from some on, with the closing mark. -/
inductive SpellsTail : List Char → List Char → Prop where
  | mark : SpellsTail [] ['"']
  | cons {c : Char} {cs s t : List Char} :
      SpellsChar c s → SpellsTail cs t → SpellsTail (c :: cs) (s ++ t)

inductive SpellsString : String → List Char → Prop where
  | mk {name : String} {s : List Char} : SpellsTail name.toList s → SpellsString name ('"' :: s)

private theorem hexNumber?_hexDigit :
    ∀ n < 32, hexNumber? '0' '0' (hexDigit (n / 16)) (hexDigit (n % 16)) = some n := by
  decide

theorem spellsChar_escapeChar (c : Char) : SpellsChar c (escapeChar c) := by
  unfold escapeChar
  split
  · next h => exact .letter (by rw [h]; rfl)
  split
  · next h => exact .letter (by rw [h]; rfl)
  split
  · next h => exact .letter (by rw [h]; rfl)
  split
  · next h => exact .letter (by rw [h]; rfl)
  split
  · next h => exact .letter (by rw [h]; rfl)
  split
  · next h => exact .letter (by rw [h]; rfl)
  split
  · next h => exact .letter (by rw [h]; rfl)
  split
  · next h => exact .number (hexNumber?_hexDigit c.toNat h)
  · next hmark hslash _ _ _ _ _ hcontrol => exact .plain hmark hslash hcontrol

theorem spellsTail_flatMap_escapeChar (cs : List Char) :
    SpellsTail cs (cs.flatMap escapeChar ++ ['"']) := by
  induction cs with
  | nil => exact .mark
  | cons c cs ih =>
    rw [List.flatMap_cons, List.append_assoc]
    exact .cons (spellsChar_escapeChar c) ih

/-- What is written for a string is a spelling of it. -/
theorem spellsString_writeString (name : String) : SpellsString name (writeString name) :=
  .mk (spellsTail_flatMap_escapeChar name.toList)

private theorem SpellsChar.length_pos {c : Char} {s : List Char} (h : SpellsChar c s) :
    0 < s.length := by
  cases h <;> exact Nat.succ_pos _

private theorem SpellsTail.length_le {cs s : List Char} (h : SpellsTail cs s) :
    cs.length ≤ s.length := by
  induction h with
  | mark => exact Nat.zero_le _
  | cons hc _ ih =>
    have hpos := hc.length_pos
    rw [List.length_cons, List.length_append]
    omega

/-- No character has the number of a surrogate. -/
private theorem toNat_lt_or_le (c : Char) : c.toNat < 0xD800 ∨ 0xE000 ≤ c.toNat := by
  rcases c.valid with h | h
  · exact .inl h
  · exact .inr h.1

namespace Reader

variable {α β : Type} {s t : List Char}

theorem bind_of_ok {r : Reader α} {a : α} (h : r s = .ok (a, t)) (f : α → Reader β) :
    (r >>= f) s = f a t := by
  change (r s >>= fun p => f p.1 p.2) = f a t
  rw [h]
  rfl

theorem map_of_ok {r : Reader α} {a : α} (h : r s = .ok (a, t)) (f : α → β) :
    (f <$> r) s = .ok (f a, t) := by
  change (r s >>= fun p => pure (f p.1, p.2)) = _
  rw [h]
  rfl

theorem get_bind (f : List Char → Reader β) (s : List Char) : (get >>= f) s = f s s := rfl

theorem anyChar_cons (c : Char) (s : List Char) : anyChar (c :: s) = .ok (c, s) := rfl

theorem word_append (w s : List Char) : word w (w ++ s) = .ok ((), s) := by
  induction w with
  | nil => rfl
  | cons c w ih =>
    rw [List.cons_append, word, get_bind]
    simp only [if_true]
    exact ih

theorem hexDigits_of_number {x₁ x₂ x₃ x₄ : Char} {n : Nat} (h : hexNumber? x₁ x₂ x₃ x₄ = some n)
    (s : List Char) : hexDigits (x₁ :: x₂ :: x₃ :: x₄ :: s) = .ok (n, s) := by
  unfold hexDigits
  rw [get_bind]
  simp only [h]
  rfl

private theorem escape_of_letter {c l : Char} (h : escapedChar? l = some c) (s : List Char) :
    escape (l :: s) = .ok (c, s) := by
  have hu : l ≠ 'u' := by
    rintro rfl
    cases h
  rw [escape, bind_of_ok (anyChar_cons l s), if_neg hu, h]
  rfl

private theorem escape_of_number {c x₁ x₂ x₃ x₄ : Char}
    (h : hexNumber? x₁ x₂ x₃ x₄ = some c.toNat) (s : List Char) :
    escape ('u' :: x₁ :: x₂ :: x₃ :: x₄ :: s) = .ok (c, s) := by
  have hrange := toNat_lt_or_le c
  rw [escape, bind_of_ok (anyChar_cons _ _), if_pos rfl, numericEscape,
    bind_of_ok (hexDigits_of_number h s), if_neg (by omega), if_pos hrange, Char.ofNat_toNat]
  rfl

private theorem escape_of_surrogates {c x₁ x₂ x₃ x₄ y₁ y₂ y₃ y₄ : Char} {m n : Nat}
    (hm : hexNumber? x₁ x₂ x₃ x₄ = some m) (hn : hexNumber? y₁ y₂ y₃ y₄ = some n)
    (hm₁ : 0xD800 ≤ m) (hm₂ : m < 0xDC00) (hn₁ : 0xDC00 ≤ n) (hn₂ : n < 0xE000)
    (hc : c.toNat = 0x10000 + (m - 0xD800) * 0x400 + (n - 0xDC00)) (s : List Char) :
    escape ('u' :: x₁ :: x₂ :: x₃ :: x₄ :: '\\' :: 'u' :: y₁ :: y₂ :: y₃ :: y₄ :: s) =
      .ok (c, s) := by
  have hword : word ['\\', 'u'] ('\\' :: 'u' :: y₁ :: y₂ :: y₃ :: y₄ :: s) =
      .ok ((), y₁ :: y₂ :: y₃ :: y₄ :: s) := word_append ['\\', 'u'] _
  rw [escape, bind_of_ok (anyChar_cons _ _), if_pos rfl, numericEscape,
    bind_of_ok (hexDigits_of_number hm _), if_neg (by omega), if_neg (by omega)]
  rw [bind_of_ok hword, bind_of_ok (hexDigits_of_number hn s), if_pos ⟨hn₁, hn₂⟩, ← hc,
    Char.ofNat_toNat]
  rfl

private theorem stringTail_mark (fuel : Nat) (s : List Char) :
    stringTail (fuel + 1) ('"' :: s) = .ok ([], s) := by
  rw [stringTail, bind_of_ok (anyChar_cons _ _), if_pos rfl]
  rfl

private theorem stringTail_of_escape {fuel : Nat} {c : Char} {cs : List Char} {s t u : List Char}
    (hescape : escape s = .ok (c, t)) (htail : stringTail fuel t = .ok (cs, u)) :
    stringTail (fuel + 1) ('\\' :: s) = .ok (c :: cs, u) := by
  rw [stringTail, bind_of_ok (anyChar_cons _ _), if_neg (by decide), if_pos rfl,
    bind_of_ok hescape, bind_of_ok htail]
  rfl

private theorem stringTail_of_plain {fuel : Nat} {c : Char} {cs : List Char} {s t : List Char}
    (hmark : c ≠ '"') (hslash : c ≠ '\\') (hcontrol : ¬ c.toNat < 0x20)
    (htail : stringTail fuel s = .ok (cs, t)) :
    stringTail (fuel + 1) (c :: s) = .ok (c :: cs, t) := by
  rw [stringTail, bind_of_ok (anyChar_cons _ _), if_neg hmark, if_neg hslash, if_neg hcontrol,
    bind_of_ok htail]
  rfl

/-- A character is read as itself, however it is written. -/
theorem stringTail_of_spellsChar {fuel : Nat} {c : Char} {cs s t u : List Char}
    (h : SpellsChar c s) (htail : stringTail fuel t = .ok (cs, u)) :
    stringTail (fuel + 1) (s ++ t) = .ok (c :: cs, u) := by
  cases h with
  | plain hmark hslash hcontrol => exact stringTail_of_plain hmark hslash hcontrol htail
  | letter h => exact stringTail_of_escape (escape_of_letter h t) htail
  | number h => exact stringTail_of_escape (escape_of_number h t) htail
  | surrogates hm hn hm₁ hm₂ hn₁ hn₂ hc =>
    exact stringTail_of_escape (escape_of_surrogates hm hn hm₁ hm₂ hn₁ hn₂ hc t) htail

theorem stringTail_of_spellsTail {fuel : Nat} {cs s : List Char} (h : SpellsTail cs s)
    (hfuel : cs.length < fuel) (rest : List Char) :
    stringTail fuel (s ++ rest) = .ok (cs, rest) := by
  induction h generalizing fuel with
  | mark =>
    obtain ⟨fuel, rfl⟩ := Nat.exists_eq_add_of_lt hfuel
    exact stringTail_mark _ rest
  | cons hc _ ih =>
    obtain ⟨fuel, rfl⟩ : ∃ k, fuel = k + 1 := ⟨fuel - 1, by omega⟩
    rw [List.length_cons] at hfuel
    rw [List.append_assoc]
    exact stringTail_of_spellsChar hc (ih (by omega))

/-- The characters are taken as they were meant, whether they stand for themselves or are escaped.
-/
theorem quoted_of_spellsString {name : String} (h : SpellsString name s) (rest : List Char) :
    quoted (s ++ rest) = .ok (name, rest) := by
  cases h with
  | @mk s h =>
    have hfuel : name.toList.length < (s ++ rest).length + 1 := by
      have hle := h.length_le
      rw [List.length_append]
      omega
    have htail := stringTail_of_spellsTail h hfuel rest
    rw [List.cons_append, quoted, bind_of_ok (a := ()) (t := s ++ rest) rfl, get_bind,
      bind_of_ok htail, String.ofList_toList]
    rfl

end Reader

end SwitchInventory.Json
