import FieldSchema.Proofs.Grammar.Rules
import FieldSchema.Proofs.Grammar.Source
import FieldSchema.Proofs.Json.Pieces

/-! Whatever a compilation asks for, the notation can say: its literals are clean, its names are
words, and no group is empty. So the text of every grammar reads back as its rules. -/
namespace FieldSchema.Grammar

open Notation

def Sayable (word : String → Prop) (s : Sequence) : Prop := ∀ i ∈ s, ReadableItem word i

variable {word : String → Prop}

section Items

theorem sayable_nil : Sayable word [] := fun _ h => absurd h List.not_mem_nil

theorem sayable_cons {i : Item} {s : Sequence} :
    Sayable word (i :: s) ↔ ReadableItem word i ∧ Sayable word s :=
  List.forall_mem_cons

theorem sayable_append {s t : Sequence} :
    Sayable word (s ++ t) ↔ Sayable word s ∧ Sayable word t :=
  List.forall_mem_append

theorem readable_iff_sayable {p : Production} :
    Readable word p ↔ p ≠ [] ∧ ∀ s ∈ p, Sayable word s := Iff.rfl

@[simp] theorem readableItem_text {s : String} :
    ReadableItem word (.text s) ↔ isClean s := by
  rw [ReadableItem]

@[simp] theorem readableItem_ref {name : String} :
    ReadableItem word (.ref name) ↔ word name := by
  rw [ReadableItem]

@[simp] theorem readableItem_group {p : Production} :
    ReadableItem word (.group p) ↔ Readable word p := by
  rw [ReadableItem, readable_iff]

@[simp] theorem readableItem_optional {p : Production} :
    ReadableItem word (.optional p) ↔ Readable word p := by
  rw [ReadableItem, readable_iff]

@[simp] theorem readable_singleton {s : Sequence} : Readable word [s] ↔ Sayable word s := by
  simp [Readable, Sayable]

theorem readableItem_stringChar : ReadableItem word .stringChar := by
  rw [Item.stringChar, ReadableItem]
  exact .inl rfl

theorem isClean_toDigits (n : Nat) : isClean (toString n) := by
  rw [isClean_iff, Nat.toString_eq_ofList_toDigits, String.toList_ofList]
  intro c hc
  refine isControl_ruleChar ?_
  have digit := isDigit_of_mem_toDigits hc
  simp [isRuleChar, isNameChar, Char.isAlphanum, digit]

theorem readable_digit {low high : Nat} (hl : low ≤ high) (hh : high < 10) :
    ReadableItem word (digit low high) := by
  unfold digit
  split
  next => exact readableItem_text.2 (isClean_toDigits low)
  next =>
    rw [Item.digits, ReadableItem]
    exact .inr ⟨low, high, by omega, hh, rfl⟩

theorem readable_anyDigit : ReadableItem word anyDigit := readable_digit (by omega) (by omega)

theorem readable_comma : ReadableItem word comma := readableItem_text.2 (by decide)

theorem readable_minus : ReadableItem word minus := readableItem_text.2 (by decide)

theorem sayable_replicate {i : Item} (h : ReadableItem word i) (n : Nat) :
    Sayable word (List.replicate n i) := by
  intro j hj
  rw [List.eq_of_mem_replicate hj]
  exact h

theorem sayable_nested {i : Item} (h : ReadableItem word i) (n : Nat) :
    Sayable word (nested i n) := by
  induction n with
  | zero => exact sayable_nil
  | succ n ih =>
    rw [nested, sayable_cons, readableItem_optional, readable_singleton, sayable_cons]
    exact ⟨⟨h, ih⟩, sayable_nil⟩

theorem sayable_between {i : Item} (h : ReadableItem word i) (low high : Int) :
    Sayable word (between i low high) :=
  sayable_append.2 ⟨sayable_replicate h _, sayable_nested h _⟩

end Items

section Numbers

theorem readable_integerRange {low high : Int} (h : low ≤ high) :
    Readable word (integerRange low high) := by
  refine ⟨?_, forall_mem_integerRange readable_digit readable_minus⟩
  intro hnil
  have derived : Produces [] (fun _ _ => True) (integerRange low high) (integerText low) :=
    produces_integerRange.2 ⟨low, le_rfl, h, rfl⟩
  rw [hnil] at derived
  exact produces_nil derived

theorem readable_decimalRange (b : Bounds Finite64) : Readable word (decimalRange b) := by
  have sign : Sayable word (signItems b.low b.high) := by
    unfold signItems
    split
    · exact sayable_cons.2 ⟨readable_minus, sayable_nil⟩
    · split
      · simp [sayable_cons, sayable_nil, readable_minus]
      · exact sayable_nil
  unfold decimalRange decimals
  dsimp only
  generalize max b.low.magnitude b.high.magnitude / Finite64.unitsPerOne = magnitude
  have all : Readable word (integerRange 0 magnitude) :=
    readable_integerRange (Int.natCast_nonneg magnitude)
  rw [readable_singleton, sayable_append, sayable_append, sayable_cons, readableItem_text]
  refine ⟨⟨sign, ?_⟩, by decide, sayable_between readable_anyDigit _ _⟩
  split
  next s hs =>
    rw [hs] at all
    exact readable_singleton.1 all
  next => exact sayable_cons.2 ⟨readableItem_group.2 all, sayable_nil⟩

end Numbers

section Containers

theorem sayable_stringBody (b : Bounds Nat) : Sayable word (stringBody b) :=
  sayable_between readableItem_stringChar _ _

theorem readable_between_texts {x y : String} {s : Sequence} (hx : isClean x) (hs : Sayable word s)
    (hy : isClean y) : Readable word [.text x :: s ++ [.text y]] := by
  rw [readable_singleton, List.cons_append, sayable_cons, sayable_append, sayable_cons]
  exact ⟨readableItem_text.2 hx, hs, readableItem_text.2 hy, sayable_nil⟩

theorem mem_intersperse {α : Type} {sep x : α} {l : List α} (h : x ∈ l.intersperse sep) :
    x ∈ l ∨ x = sep := by
  induction l with
  | nil => simp at h
  | cons a l ih =>
    cases l with
    | nil => exact .inl h
    | cons b l =>
      rw [List.intersperse_cons_cons, List.mem_cons, List.mem_cons] at h
      rcases h with rfl | rfl | h
      · exact .inl List.mem_cons_self
      · exact .inr rfl
      · rcases ih h with h | h
        · exact .inl (List.mem_cons_of_mem _ h)
        · exact .inr h

theorem sayable_arrayBody {i : Item} (h : ReadableItem word i) (b : Bounds Nat) :
    Sayable word (arrayBody i b) := by
  have more : ReadableItem word (.optional [[comma, i]]) := by
    simp [sayable_cons, sayable_nil, readable_comma, h]
  unfold arrayBody
  dsimp only
  split
  · exact sayable_nil
  · split
    · rw [sayable_cons, readableItem_optional, readable_singleton, sayable_cons]
      exact ⟨⟨h, sayable_replicate more _⟩, sayable_nil⟩
    · refine sayable_append.2 ⟨fun j hj => ?_, sayable_replicate more _⟩
      rcases mem_intersperse hj with hj | rfl
      · rw [List.eq_of_mem_replicate hj]
        exact h
      · exact readable_comma

/-- A member whose key is clean and whose value is named by a word. -/
def SayableMember (word : String → Prop) (m : Member) : Prop := isClean m.key ∧ word m.value

theorem sayable_member {m : Member} (h : SayableMember word m) :
    Sayable word m.part.sequence := by
  have key : isClean ((Json.string m.key).text ++ ":") := by
    rw [isClean_append, isClean_iff, Json.toList_text_string]
    refine ⟨fun c hc => ?_, by decide⟩
    have inside := isClean_iff.1 (Json.isClean_escape h.1)
    simp only [List.cons_append, List.mem_cons, List.mem_append, List.not_mem_nil, or_false] at hc
    rcases hc with rfl | hc | rfl
    · decide
    · exact inside c hc
    · decide
  rw [Member.part, sayable_cons, sayable_cons, readableItem_text, readableItem_ref]
  exact ⟨key, h.2, sayable_nil⟩

variable {parts : List Part}

theorem sayable_followers (h : ∀ m ∈ parts, Sayable word m.sequence) :
    Sayable word (followers parts) := by
  intro i hi
  obtain ⟨m, hm, hi⟩ := List.mem_flatMap.1 hi
  have all : Sayable word (comma :: m.sequence) := sayable_cons.2 ⟨readable_comma, h m hm⟩
  split at hi
  · rw [List.mem_singleton.1 hi, readableItem_optional, readable_singleton]
    exact all
  · exact all i hi

theorem sayable_anyFirst (h : ∀ m ∈ parts, Sayable word m.sequence) :
    ∀ s ∈ anyFirst parts, Sayable word s := by
  induction parts with
  | nil => simp [anyFirst]
  | cons m parts ih =>
    obtain ⟨hm, hms⟩ := List.forall_mem_cons.1 h
    rw [anyFirst]
    exact List.forall_mem_cons.2 ⟨sayable_append.2 ⟨hm, sayable_followers hms⟩, ih hms⟩

theorem sayable_objectBody (h : ∀ m ∈ parts, Sayable word m.sequence) :
    Sayable word (objectBody parts) := by
  unfold objectBody
  split
  next =>
    cases parts with
    | nil => exact sayable_nil
    | cons m rest =>
      rw [List.isEmpty_cons, if_neg Bool.false_ne_true, sayable_cons, readableItem_optional,
        readable_iff_sayable]
      exact ⟨⟨by simp [anyFirst], sayable_anyFirst h⟩, sayable_nil⟩
  next anchor later hd =>
    have whole := List.takeWhile_append_dropWhile (p := Part.optional) (l := parts)
    rw [hd] at whole
    rw [← whole] at h
    obtain ⟨hleading, hrest⟩ := List.forall_mem_append.1 h
    obtain ⟨hanchor, hlater⟩ := List.forall_mem_cons.1 hrest
    refine sayable_append.2 ⟨sayable_append.2 ⟨fun i hi => ?_, hanchor⟩,
      sayable_followers hlater⟩
    obtain ⟨m, hm, rfl⟩ := List.mem_map.1 hi
    rw [readableItem_optional, readable_singleton, sayable_append]
    exact ⟨hleading m hm, sayable_cons.2 ⟨readable_comma, sayable_nil⟩⟩

end Containers

section Compilation

theorem isClean_of_scalarLiteral {v : Scalar} {item : Item} (h : scalarLiteral v = .ok item) :
    isClean v.toJson.text := by
  have written := literal_of_scalarLiteral h
  unfold literal at written
  split at written
  next hc => exact hc
  next => exact absurd written nofun

theorem isClean_pattern (p : Pattern) : isClean p.before ∧ isClean p.after := by
  have clean := p.clean
  simp only [isClean_append] at clean
  exact ⟨clean.1.1, clean.2⟩

theorem scalars_ne_nil {o : Options} (h : o.Valid) : o.scalars ≠ [] := by
  cases o <;> simpa [Options.scalars] using h.1

/-- What a well-formed field asks for can be said, if the names below it are words. -/
theorem Asks.readable {stands : Field → String → Prop}
    (words : ∀ f name, stands f name → word name)
    {f : Field} {p : Production} (hf : f.WellFormed) (h : Asks stands f p) : Readable word p := by
  cases h with
  | integer label b => exact readable_integerRange b.ordered
  | real label b => exact readable_decimalRange b
  | string label b => exact readable_between_texts (by decide) (sayable_stringBody b) (by decide)
  | boolean label =>
    refine readable_iff_sayable.2 ⟨by simp, ?_⟩
    have yes : Sayable word [.text "true"] :=
      sayable_cons.2 ⟨readableItem_text.2 (by decide), sayable_nil⟩
    have no : Sayable word [.text "false"] :=
      sayable_cons.2 ⟨readableItem_text.2 (by decide), sayable_nil⟩
    simp [yes, no]
  | constant label value item hi =>
    rw [readable_singleton, sayable_cons, scalarLiteral_eq hi, readableItem_text]
    exact ⟨isClean_of_scalarLiteral hi, sayable_nil⟩
  | choice label options items hi =>
    have valid : options.Valid := by
      cases hf
      assumption
    obtain ⟨texts, each⟩ := mapM_scalarLiteral hi
    rw [texts]
    refine readable_iff_sayable.2 ⟨by simpa using scalars_ne_nil valid, ?_⟩
    intro s hs
    simp only [List.mem_map, exists_exists_and_eq_and] at hs
    obtain ⟨v, hv, rfl⟩ := hs
    obtain ⟨item, hi⟩ := each v hv
    exact sayable_cons.2 ⟨readableItem_text.2 (isClean_of_scalarLiteral hi), sayable_nil⟩
  | template label pattern b =>
    obtain ⟨before, after⟩ := isClean_pattern pattern
    refine readable_between_texts ?_ (sayable_stringBody b) ?_
    · exact isClean_append.2 ⟨by decide, Json.isClean_escape before⟩
    · exact isClean_append.2 ⟨Json.isClean_escape after, by decide⟩
  | object label fields members hm =>
    refine readable_between_texts (by decide) (sayable_objectBody ?_) (by decide)
    rw [List.forall_mem_map]
    clear hf
    induction hm with
    | nil => simp
    | @cons f m fields members h _ ih =>
      obtain ⟨key, -, value⟩ := h
      refine List.forall_mem_cons.2 ⟨sayable_member ⟨?_, words _ _ value⟩, ih⟩
      rw [key]
      exact f.label.clean
  | variant label alternatives names hn =>
    have some : alternatives ≠ [] := by
      cases hf
      assumption
    clear hf
    refine readable_iff_sayable.2 ⟨?_, ?_⟩
    · cases hn with
      | nil => exact absurd rfl some
      | cons => simp
    · clear some
      induction hn with
      | nil => simp
      | cons hname _ ih =>
        refine List.forall_mem_cons.2 ⟨?_, ih⟩
        exact sayable_cons.2 ⟨readableItem_ref.2 (words _ _ hname), sayable_nil⟩
  | array label element b name hn =>
    exact readable_between_texts (by decide)
      (sayable_arrayBody (readableItem_ref.2 (words _ _ hn)) b) (by decide)
  | optional label inner name hn =>
    have value : Sayable word [.ref name] :=
      sayable_cons.2 ⟨readableItem_ref.2 (words _ _ hn), sayable_nil⟩
    have null : Sayable word [.text "null"] :=
      sayable_cons.2 ⟨readableItem_text.2 (by decide), sayable_nil⟩
    refine readable_iff_sayable.2 ⟨by simp, ?_⟩
    simp [value, null]

end Compilation

end FieldSchema.Grammar
