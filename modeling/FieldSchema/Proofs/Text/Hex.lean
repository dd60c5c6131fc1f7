import FieldSchema.Text.Hex
import Mathlib.Data.Nat.Digits.Defs

/-! Hexadecimal digits are read back as the number they were written for. -/
namespace FieldSchema.Hex

variable {n : Nat}

theorem digit?_digitChar (h : n < 16) : digit? (Nat.digitChar n) = some n := by
  have all : ∀ n < 16, digit? (Nat.digitChar n) = some n := by decide
  exact all n h

theorem padded_one (h : n < 16) : padded 1 n = [Nat.digitChar n] := by
  rw [padded, Nat.toDigits_of_lt_base h]
  rfl

theorem digit?_lt {c : Char} {k : Nat} (h : digit? c = some k) : k < 16 := by
  unfold digit? at h
  split at h
  next digit =>
    have high : c.toNat ≤ 57 := of_decide_eq_true (Bool.and_eq_true_iff.1 digit).2
    obtain rfl := Option.some.inj h
    have zero : '0'.toNat = 48 := rfl
    omega
  next =>
    split at h
    next lower =>
      have high : c.toNat ≤ 102 := lower.2
      obtain rfl := Option.some.inj h
      have first : 'a'.toNat = 97 := rfl
      omega
    next =>
      split at h
      next upper =>
        have high : c.toNat ≤ 70 := upper.2
        obtain rfl := Option.some.inj h
        have first : 'A'.toNat = 65 := rfl
        omega
      next => exact absurd h nofun

theorem unit?_lt {a b c d : Char} (h : unit? a b c d = some n) : n < 0x10000 := by
  simp only [unit?, Option.bind_eq_bind, Option.bind_eq_some_iff, Option.pure_def,
    Option.some.injEq] at h
  obtain ⟨a, ha, b, hb, c, hc, d, hd, rfl⟩ := h
  have first := digit?_lt ha
  have second := digit?_lt hb
  have third := digit?_lt hc
  have fourth := digit?_lt hd
  omega

theorem padded_concat {width : Nat} (hw : 0 < width) (n : Nat) :
    padded (width + 1) n = padded width (n / 16) ++ [Nat.digitChar (n % 16)] := by
  by_cases hn : n < 16
  · obtain ⟨w, rfl⟩ := Nat.exists_eq_add_of_lt hw
    rw [padded, padded, Nat.div_eq_of_lt hn, Nat.mod_eq_of_lt hn, Nat.toDigits_of_lt_base hn,
      Nat.toDigits_of_lt_base (by omega)]
    simp [List.replicate_succ']
  · rw [padded, padded, Nat.toDigits_of_base_le (by omega) (by omega)]
    simp

theorem unit?_padded (h : n < 0x10000) :
    ∃ a b c d, padded 4 n = [a, b, c, d] ∧ unit? a b c d = some n := by
  have text : padded 4 n = [Nat.digitChar (n / 16 / 16 / 16), Nat.digitChar (n / 16 / 16 % 16),
      Nat.digitChar (n / 16 % 16), Nat.digitChar (n % 16)] := by
    rw [padded_concat (by omega), padded_concat (by omega), padded_concat (by omega),
      padded_one (by omega)]
    rfl
  refine ⟨_, _, _, _, text, ?_⟩
  rw [unit?, digit?_digitChar (by omega), digit?_digitChar (by omega), digit?_digitChar (by omega),
    digit?_digitChar (by omega)]
  refine congrArg some ?_
  omega

theorem toDigits_injective : Function.Injective (Nat.toDigits 16) := by
  intro m n h
  induction m using Nat.strongRecOn generalizing n with
  | ind m ih =>
    by_cases hm : m < 16 <;> by_cases hn : n < 16
    · rw [Nat.toDigits_of_lt_base hm, Nat.toDigits_of_lt_base hn, List.singleton_inj] at h
      have value := digit?_digitChar hm
      rw [h, digit?_digitChar hn] at value
      exact (Option.some.inj value).symm
    · rw [Nat.toDigits_of_lt_base hm, Nat.toDigits_of_base_le (by omega) (by omega)] at h
      have same : [] ++ [m.digitChar] = Nat.toDigits 16 (n / 16) ++ [(n % 16).digitChar] := h
      have front := (List.append_inj' same rfl).1
      exact absurd front.symm Nat.toDigits_ne_nil
    · rw [Nat.toDigits_of_lt_base hn, Nat.toDigits_of_base_le (by omega) (by omega)] at h
      have same : Nat.toDigits 16 (m / 16) ++ [(m % 16).digitChar] = [] ++ [n.digitChar] := h
      have front := (List.append_inj' same rfl).1
      exact absurd front Nat.toDigits_ne_nil
    · rw [Nat.toDigits_of_base_le (by omega) (by omega),
        Nat.toDigits_of_base_le (n := n) (by omega) (by omega)] at h
      obtain ⟨front, last⟩ := List.append_inj' h rfl
      have quotient : m / 16 = n / 16 := ih (m / 16) (by omega) front
      have value := digit?_digitChar (Nat.mod_lt m (by omega : 0 < 16))
      rw [List.singleton_inj.1 last, digit?_digitChar (Nat.mod_lt n (by omega))] at value
      have remainder := Option.some.inj value
      omega

end FieldSchema.Hex
