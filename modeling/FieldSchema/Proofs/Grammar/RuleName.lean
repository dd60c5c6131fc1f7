import FieldSchema.Grammar.Compile
import FieldSchema.Proofs.Grammar.RuleSet
import FieldSchema.Proofs.Number.Text
import FieldSchema.Proofs.Text.Hex

/-! The names of rules. A shared name says its kind and its bounds, so equal names mean equal
bounds; a structure's name has an `x` or nothing but a number behind its first dash, and no shared
name has. -/
namespace FieldSchema.Grammar

section Token

/-- The inverse of `numberToken` on the texts of numbers, in which a plus sign stands only at the
start of an exponent. -/
def restoreToken : List Char → List Char
  | [] => []
  | 'e' :: s => 'e' :: (if s.head? = some 'm' then restoreToken s else '+' :: restoreToken s)
  | c :: s => (if c = 'm' then '-' else if c = 'd' then '.' else c) :: restoreToken s

def tokenChars (text : List Char) : List Char :=
  text.flatMap fun c =>
    if c = '-' then ['m'] else if c = '.' then ['d'] else if c = '+' then [] else [c]

theorem toList_numberToken (text : String) :
    (numberToken text).toList = tokenChars text.toList := by
  simp [numberToken, tokenChars]

theorem tokenChars_append (s t : List Char) :
    tokenChars (s ++ t) = tokenChars s ++ tokenChars t := List.flatMap_append

theorem restoreToken_positional {s : List Char} (hs : Positional s) (t : List Char) :
    restoreToken (tokenChars s ++ t) = s ++ restoreToken t := by
  induction s with
  | nil => rfl
  | cons c s ih =>
    obtain ⟨hc, rest⟩ := List.forall_mem_cons.1 hs
    have cons : tokenChars (c :: s) = tokenChars [c] ++ tokenChars s := tokenChars_append [c] s
    rw [cons, List.append_assoc]
    rcases hc with hc | rfl | rfl
    · have dash := isDigit_ne hc (d := '-') rfl
      have point := isDigit_ne hc (d := '.') rfl
      have plus := isDigit_ne hc (d := '+') rfl
      have mark := isDigit_ne hc (d := 'e') rfl
      have m := isDigit_ne hc (d := 'm') rfl
      have d := isDigit_ne hc (d := 'd') rfl
      have one : tokenChars [c] = [c] := by simp [tokenChars, dash, point, plus]
      rw [one, List.singleton_append, restoreToken]
      · rw [if_neg m, if_neg d, ih rest, List.cons_append]
      · exact mark
    · have one : tokenChars ['-'] = ['m'] := rfl
      rw [one, List.singleton_append, restoreToken]
      · rw [ih rest]
        rfl
      · decide
    · have one : tokenChars ['.'] = ['d'] := rfl
      rw [one, List.singleton_append, restoreToken]
      · rw [ih rest]
        rfl
      · decide

theorem restoreToken_tokenChars {s : List Char} (h : NumberText s) :
    restoreToken (tokenChars s) = s := by
  obtain ⟨front, tail, rfl, hfront, htail⟩ := h
  rw [tokenChars_append, restoreToken_positional hfront]
  rcases htail with rfl | ⟨sign, power, hsign, hpower, rfl⟩
  · rfl
  · have last := restoreToken_positional (Positional.of_digits hpower) []
    have nil : restoreToken [] = [] := rfl
    rw [nil, List.append_nil, List.append_nil] at last
    have other : (tokenChars power).head? ≠ some 'm' := by
      cases power with
      | nil => simp [tokenChars]
      | cons c power =>
        have digit := hpower c (by simp)
        have dash := isDigit_ne digit (d := '-') rfl
        have point := isDigit_ne digit (d := '.') rfl
        have plus := isDigit_ne digit (d := '+') rfl
        have m := isDigit_ne digit (d := 'm') rfl
        simp [tokenChars, dash, point, plus, m]
    rcases hsign with rfl | rfl
    · have token : tokenChars ('e' :: '-' :: power) = 'e' :: 'm' :: tokenChars power := rfl
      rw [token, restoreToken, List.head?_cons, if_pos rfl, restoreToken]
      · rw [last]
        rfl
      · decide
    · have token : tokenChars ('e' :: '+' :: power) = 'e' :: tokenChars power := rfl
      rw [token, restoreToken, if_neg other, last]

theorem tokenChars_injective {s t : List Char} (hs : NumberText s) (ht : NumberText t)
    (h : tokenChars s = tokenChars t) : s = t := by
  rw [← restoreToken_tokenChars hs, h, restoreToken_tokenChars ht]

end Token

section Shape

/-- There is one way to split a text at the first place of a character. -/
theorem split_unique {a : Char} {s t u v : List Char} (hs : a ∉ s) (ht : a ∉ t)
    (h : s ++ a :: u = t ++ a :: v) : s = t ∧ u = v := by
  induction s generalizing t with
  | nil =>
    cases t with
    | nil => exact ⟨rfl, (List.cons.inj h).2⟩
    | cons c t =>
      have first : a = c := (List.cons.inj h).1
      exact absurd (by simp [first]) ht
  | cons b s ih =>
    cases t with
    | nil =>
      have first : b = a := (List.cons.inj h).1
      exact absurd (by simp [first]) hs
    | cons c t =>
      obtain ⟨first, h⟩ := List.cons.inj h
      obtain ⟨rfl, rfl⟩ := ih (fun hm => hs (by simp [hm])) (fun hm => ht (by simp [hm])) h
      exact ⟨by rw [first], rfl⟩

def dashed (kind low high : List Char) : List Char := kind ++ '-' :: (low ++ '-' :: high)

theorem dashed_injective {kind low high kind' low' high' : List Char} (hk : '-' ∉ kind)
    (hl : '-' ∉ low) (hk' : '-' ∉ kind') (hl' : '-' ∉ low')
    (h : dashed kind low high = dashed kind' low' high') :
    kind = kind' ∧ low = low' ∧ high = high' := by
  obtain ⟨first, second⟩ := split_unique hk hk' h
  exact ⟨first, split_unique hl hl' second⟩

def IsDashed (s : List Char) : Prop :=
  ∃ kind low high, '-' ∉ kind ∧ '-' ∉ low ∧ 'x' ∉ low ∧ s = dashed kind low high

theorem toList_boundsName (kind : String) (low high : Numeric) :
    (boundsName kind low high).toList = dashed kind.toList (tokenChars low.display.toList)
      (tokenChars high.display.toList) := by
  change (kind ++ "-" ++ numberToken low.display ++ "-" ++ numberToken high.display).toList = _
  simp [dashed, toList_numberToken]

theorem dash_notMem_tokenChars (s : List Char) : '-' ∉ tokenChars s := by
  intro h
  obtain ⟨c, -, hc⟩ := List.mem_flatMap.1 h
  split at hc
  next => simp at hc
  next other =>
    split at hc
    next => simp at hc
    next =>
      split at hc
      next => simp at hc
      next => exact other (List.mem_singleton.1 hc).symm

theorem x_notMem_tokenChars {s : List Char} (h : 'x' ∉ s) : 'x' ∉ tokenChars s := by
  intro hx
  obtain ⟨c, hm, hc⟩ := List.mem_flatMap.1 hx
  split at hc
  next => simp at hc
  next =>
    split at hc
    next => simp at hc
    next =>
      split at hc
      next => simp at hc
      next =>
        rw [List.mem_singleton.1 hc] at h
        exact h hm

theorem isDashed_boundsName {kind : String} {low high : Numeric} (hk : '-' ∉ kind.toList)
    (hl : NumberText low.display.toList) : IsDashed (boundsName kind low high).toList :=
  ⟨_, _, _, hk, dash_notMem_tokenChars _, x_notMem_tokenChars (hl.notMem rfl), toList_boundsName ..⟩

theorem toList_lengthsName (low high : Nat) : (s!"string-{low}-{high}").toList =
    dashed "string".toList (Nat.toDigits 10 low) (Nat.toDigits 10 high) := by
  simp [dashed, toString]

theorem notMem_toDigits {c : Char} (hc : c.isDigit = false) (n : Nat) : c ∉ Nat.toDigits 10 n := by
  intro h
  rw [isDigit_of_mem_toDigits h] at hc
  exact Bool.false_ne_true hc.symm

theorem numberText_display_int (n : Int) : NumberText (Numeric.display n).toList :=
  numberText_integer n

theorem numberText_display_real (x : Finite64) : NumberText (Numeric.display x).toList := by
  have shape : (Numeric.display x).toList = x.text := by
    simp [Numeric.display, Binary64.display, Finite64.display]
  rw [shape]
  exact numberText_real x

/-- The name of a field with its other characters spelled out, perhaps with a number behind it. -/
def StructureName (name : String) : Prop :=
  (∃ s, name = ruleName s ∧ name ∉ reserved) ∨
    ∃ s n, 2 ≤ n ∧ name = RuleSet.suffixed (ruleName s) n

theorem toList_ruleName_shape (s : String) : '-' ∉ (ruleName s).toList ∨
    ∃ front back, '-' ∉ front ∧ (ruleName s).toList = front ++ '-' :: 'x' :: back := by
  unfold ruleName
  rw [String.toList_ofList]
  induction s.toList with
  | nil => simp
  | cons c s ih =>
    rw [List.flatMap_cons]
    by_cases hc : isNameChar c
    · have other : c ≠ '-' := by
        intro h
        rw [h] at hc
        exact absurd hc (by decide)
      have one : spellNameChar c = [c] := by simp [spellNameChar, hc]
      rw [one, List.singleton_append]
      rcases ih with h | ⟨front, back, hf, h⟩
      · exact .inl (by simp [h, other.symm])
      · exact .inr ⟨c :: front, back, by simp [hf, other.symm], by rw [h]; rfl⟩
    · have other : spellNameChar c = '-' :: 'x' :: (Nat.toDigits 16 c.toNat ++ ['-']) := by
        rw [spellNameChar, if_neg hc, List.cons_append, List.cons_append]
      rw [other]
      exact .inr ⟨[], _, by simp, rfl⟩

theorem not_isDashed_of_x {front back : List Char} (hf : '-' ∉ front) :
    ¬ IsDashed (front ++ '-' :: 'x' :: back) := by
  intro ⟨kind, low, high, hk, hl, hx, h⟩
  obtain ⟨-, h⟩ := split_unique hf hk h
  cases low with
  | nil => simp at h
  | cons c low =>
    have first : c = 'x' := by
      rw [List.cons_append, List.cons.injEq] at h
      exact h.1.symm
    simp [first] at hx

theorem StructureName.not_isDashed {name : String} (h : StructureName name) :
    ¬ IsDashed name.toList := by
  rcases h with ⟨s, rfl, -⟩ | ⟨s, n, -, rfl⟩
  · rcases toList_ruleName_shape s with hs | ⟨front, back, hf, hs⟩
    · intro ⟨kind, low, high, _, _, _, h⟩
      simp [h, dashed] at hs
    · rw [hs]
      exact not_isDashed_of_x hf
  · rw [RuleSet.toList_suffixed]
    rcases toList_ruleName_shape s with hs | ⟨front, back, hf, hs⟩
    · intro ⟨kind, low, high, hk, _, _, h⟩
      obtain ⟨-, h⟩ := split_unique hs hk h
      have none : '-' ∉ Nat.toDigits 10 n := notMem_toDigits rfl n
      simp [h] at none
    · rw [hs, List.append_assoc]
      exact not_isDashed_of_x hf

/-- A structure does not get the name of the root or of the Boolean rule. -/
theorem StructureName.notMem_reserved {name : String} (h : StructureName name) :
    name ∉ reserved := by
  rcases h with ⟨s, -, hn⟩ | ⟨s, n, -, rfl⟩
  · exact hn
  · intro hm
    have dash : '-' ∈ (RuleSet.suffixed (ruleName s) n).toList := by simp [RuleSet.toList_suffixed]
    simp only [reserved, List.mem_cons, List.not_mem_nil, or_false] at hm
    rcases hm with h | h <;> rw [h] at dash <;> exact absurd dash (by decide)

end Shape

section Spelling

theorem isNameChar_hexDigit {n : Nat} {c : Char} (h : c ∈ Nat.toDigits 16 n) : isNameChar c := by
  have digit : ∀ d < 16, isNameChar (Nat.digitChar d) := by decide
  induction n using Nat.strongRecOn with
  | ind n ih =>
    by_cases hn : n < 16
    · rw [Nat.toDigits_of_lt_base hn, List.mem_singleton] at h
      rw [h]
      exact digit n hn
    · rw [Nat.toDigits_of_base_le (by omega) (by omega), List.mem_append] at h
      rcases h with h | h
      · exact ih (n / 16) (by omega) h
      · rw [List.mem_singleton] at h
        rw [h]
        exact digit _ (Nat.mod_lt n (by omega))

theorem dash_notMem_hexDigits (n : Nat) : '-' ∉ Nat.toDigits 16 n := fun h =>
  absurd (isNameChar_hexDigit h) (by decide)

/-- How a character is spelled says where its spelling ends: a letter or digit stands alone, and the
next dash ends the digits of any other character. -/
theorem spellNameChar_append_inj {c d : Char} {s t : List Char}
    (h : spellNameChar c ++ s = spellNameChar d ++ t) : c = d ∧ s = t := by
  have dash : ∀ {e : Char}, isNameChar e → e ≠ '-' := by
    rintro _ he rfl
    exact absurd he (by decide)
  unfold spellNameChar at h
  split at h
  next hc =>
    split at h
    next => exact List.cons.inj h
    next => exact absurd (List.cons.inj h).1 (dash hc)
  next =>
    split at h
    next hd => exact absurd (List.cons.inj h).1.symm (dash hd)
    next =>
      simp only [List.cons_append, List.append_assoc, List.cons.injEq, true_and,
        List.nil_append] at h
      obtain ⟨digits, rest⟩ :=
        split_unique (dash_notMem_hexDigits _) (dash_notMem_hexDigits _) h
      exact ⟨Char.toNat_inj.1 (Hex.toDigits_injective digits), rest⟩

/-- A name is read off its spelling character by character. -/
theorem ruleName_injective : Function.Injective ruleName := by
  intro s t h
  have spelled : s.toList.flatMap spellNameChar = t.toList.flatMap spellNameChar :=
    String.ofList_injective h
  have filled : ∀ c rest, spellNameChar c ++ rest ≠ [] := by
    intro c rest
    unfold spellNameChar
    split <;> simp
  refine String.toList_injective ?_
  generalize s.toList = s at spelled
  generalize t.toList = t at spelled
  induction s generalizing t with
  | nil =>
    cases t with
    | nil => rfl
    | cons d t => exact absurd spelled.symm (filled d _)
  | cons c s ih =>
    cases t with
    | nil => exact absurd spelled (filled c _)
    | cons d t =>
      obtain ⟨rfl, rest⟩ := spellNameChar_append_inj spelled
      rw [ih t rest]

end Spelling

end FieldSchema.Grammar
