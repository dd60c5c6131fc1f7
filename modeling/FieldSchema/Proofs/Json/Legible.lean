import FieldSchema.Proofs.Json.Values
import FieldSchema.Proofs.Json.Writing
import FieldSchema.Proofs.Schema.Members
import FieldSchema.Template.Placeholder

/-! Integers that are not too long to be written, in schemas and in documents. Reading makes no
others. -/
namespace FieldSchema

namespace NumberLiteral

theorem legible_toInt {l : NumberLiteral} (h : Digits l.whole)
    (short : l.whole.length ≤ Json.digitLimit) : Legible l.toInt := by
  have size : l.toInt.natAbs = natOfDigits l.whole := by
    unfold toInt
    split <;> omega
  have filled : 0 < l.whole.length := List.length_pos_iff.2 h.1
  rw [Legible, size]
  exact ((Nat.length_toDigits_le_iff (by omega) filled).2 (natOfDigits_lt h.2)).trans short

end NumberLiteral

namespace Json

/-- Every integer of the value is legible. -/
def Writable (v : Json) : Prop := ∀ n ∈ v.integers, Legible n

theorem writable_array {items : List Json} :
    (array items).Writable ↔ ∀ v ∈ items, v.Writable := by
  induction items with
  | nil => simp [Writable, integers, itemIntegers]
  | cons v rest ih =>
    rw [List.forall_mem_cons, ← ih]
    simp only [Writable, integers, itemIntegers, List.forall_mem_append]

theorem writable_object {members : List (Text × Json)} :
    (object members).Writable ↔ ∀ m ∈ members, m.2.Writable := by
  induction members with
  | nil => simp [Writable, integers, memberIntegers]
  | cons m rest ih =>
    obtain ⟨key, v⟩ := m
    rw [List.forall_mem_cons, ← ih]
    simp only [Writable, integers, memberIntegers, List.forall_mem_append]

section Tokens

theorem writable_keyword {word : String} {v : Json} (h : (word, v) ∈ keywords) : v.Writable := by
  have none : v.integers = [] :=
    of_mem_keywords (p := fun _ v => v.integers = []) h rfl rfl rfl rfl rfl rfl
  rw [Writable, none]
  exact List.forall_mem_nil _

theorem writable_number {l : NumberLiteral} {v : Json} (digits : NumberLiteral.Digits l.whole)
    (h : numberLexeme l = .scalar v) : v.Writable := by
  rcases scalar_number h with ⟨rfl, short⟩ | rfl
  · exact List.forall_mem_singleton.2 (NumberLiteral.legible_toInt digits short)
  · exact List.forall_mem_nil _

theorem writable_token {s : List Char} {t : Token} {v : Json} (ht : nextToken? s = some t)
    (h : t.lexeme = .scalar v) : v.Writable := by
  rcases scalar_token ht h with ⟨word, hm⟩ | ⟨l, hl, hv⟩
  · exact writable_keyword hm
  · exact writable_number (NumberLiteral.scan?_whole hl).1 hv

theorem hereditary_writable : Hereditary Writable where
  scalar := writable_token
  string _ := List.forall_mem_nil _
  array := writable_array.2
  object h := writable_object.2 h.each

end Tokens

theorem writable_of_read {s : List Char} {v : Json} (h : read s = .ok v) : v.Writable :=
  hereditary_writable.of_read h

end Json

namespace Field

/-- Every integer in the template has few enough digits to be written. -/
def Writable (f : Field) : Prop := ∀ g ∈ f.preorder, ∀ n ∈ g.spelledIntegers, Legible n

theorem closed_writable : Closed Writable := closed_preorder _

end Field
end FieldSchema
