import FieldSchema.Text.CodePoint
import Mathlib.Data.List.Basic

/-! Code points and the units that spell them. Only halves of a pair are put together, so a text of
characters stays as it is. -/
namespace FieldSchema

namespace CodePoint

variable {c : Char} {n : Nat}

theorem toNat_ofNat (h : n.isValidChar) : (Char.ofNat n).toNat = n := by
  rw [Char.ofNat, dif_pos h]
  rfl

theorem ofUnit_of_isValidChar (h : n.isValidChar) : ofUnit n = .char (Char.ofNat n) := by
  rw [ofUnit, dif_neg]
  rcases h with low | high <;> omega

theorem ofUnit_toNat (c : Char) : ofUnit c.toNat = .char c :=
  (ofUnit_of_isValidChar c.valid).trans (congrArg char (Char.ofNat_toNat c))

theorem isValidChar_or_half (h : n < 0x10000) : n.isValidChar ∨ ∃ m, ofUnit n = .surrogate m := by
  by_cases half : 0xd800 ≤ n ∧ n < 0xe000
  · exact .inr ⟨_, dif_pos half⟩
  · left
    by_cases low : n < 0xd800
    · exact .inl low
    · exact .inr (by omega)

theorem ofUnit_half (n : Fin 2048) : ofUnit (0xd800 + n) = .surrogate n := by
  have range : 0xd800 ≤ 0xd800 + n.val ∧ 0xd800 + n.val < 0xe000 := by omega
  rw [ofUnit, dif_pos range]
  refine congrArg surrogate (Fin.ext ?_)
  dsimp only
  omega

theorem toNat_lt (c : Char) : c.toNat < 0x110000 := by
  rcases c.valid with low | ⟨-, high⟩
  · change c.toNat < 0xd800 at low
    omega
  · exact high

theorem units_lt (p : CodePoint) : ∀ u ∈ p.units, u < 0x10000 := by
  intro u hu
  cases p with
  | surrogate n =>
    obtain rfl := List.mem_singleton.1 hu
    omega
  | char c =>
    have bound := toNat_lt c
    rw [units] at hu
    split at hu
    next small => exact List.mem_singleton.1 hu ▸ small
    next => rcases List.mem_pair.1 hu with first | second <;> omega

/-- The halves of a character that has two units. -/
structure Halves (c : Char) (high low : Fin 2048) : Prop where
  units : (char c).units = [0xd800 + high.val, 0xd800 + low.val]
  first : high.val < 0x400
  joined : joined? (.surrogate high) (.surrogate low) = some c

theorem exists_halves (h : 0x10000 ≤ c.toNat) : ∃ high low, Halves c high low := by
  have bound := toNat_lt c
  let high : Fin 2048 := ⟨(c.toNat - 0x10000) / 0x400, by omega⟩
  let low : Fin 2048 := ⟨0x400 + (c.toNat - 0x10000) % 0x400, by omega⟩
  have first : high < 0x400 := by
    rw [Fin.lt_def]
    change (c.toNat - 0x10000) / 0x400 < 0x400
    omega
  have whole : 0x10000 + high.val * 0x400 + (low.val - 0x400) = c.toNat := by
    dsimp only [high, low]
    omega
  refine ⟨high, low, ?_, first, ?_⟩
  · rw [CodePoint.units, if_neg (by omega), ← Nat.add_assoc]
  · rw [joined?, if_pos ⟨first, Nat.le_add_right ..⟩, whole, Char.ofNat_toNat]

theorem joined?_high (q : CodePoint) {n : Fin 2048} (h : n.val < 0x400) :
    q.joined? (.surrogate n) = none := by
  cases q with
  | char => rfl
  | surrogate => exact if_neg fun both => absurd both.2 (by omega)

end CodePoint

namespace Text

theorem joinPairs_char (c : Char) (t : Text) :
    joinPairs (.char c :: t) = .char c :: joinPairs t := by
  cases t with
  | nil => rfl
  | cons p t => rfl

@[simp] theorem joinPairs_ofList (s : List Char) : (ofList s).joinPairs = ofList s := by
  induction s with
  | nil => rfl
  | cons c s ih => rw [ofList, List.map_cons, joinPairs_char, ← ofList, ih]

end Text

end FieldSchema
