import FieldSchema.Proofs.Grammar.Soundness
import FieldSchema.Proofs.Number.Rounding

/-! Every schema that has a grammar also has a document, which its grammar derives and which is
accepted. It is built from the fields: the least integer, a text of the least length, the first
option or alternative, as few items as possible, and of an object only the members it requires. -/
namespace FieldSchema

/-- How many objects and arrays a value of a field can have open at once. -/
def Field.nesting : Field → Nat
  | .object _ members => all members + 1
  | .variant _ alternatives => all alternatives
  | .array _ element _ => element.nesting + 1
  | .optional _ inner => inner.nesting
  | _ => 0
where
  all : List Field → Nat
    | [] => 0
    | f :: rest => max f.nesting (all rest)

theorem Field.nesting_le_all {fields : List Field} {f : Field} (hf : f ∈ fields) :
    f.nesting ≤ nesting.all fields := by
  induction hf with
  | head rest => exact Nat.le_max_left _ _
  | tail first _ ih => exact ih.trans (Nat.le_max_right _ _)

namespace Grammar

open Json (Spells Entry commaSeparated)
open Validation (Conforms Overflows TooLarge matches_toJson not_overflows_null
  overflows_choice_iff overflows_constant_iff validate)

section Decimals

/-- Between the bounds there is a decimal with no more digits after the point than are written. -/
def HoldsDecimal (b : Bounds Finite64) : Prop := ∃ n : Int,
  b.low.units * 10 ^ fractionDigits ≤ n * Finite64.unitsPerOne ∧
    n * Finite64.unitsPerOne ≤ b.high.units * 10 ^ fractionDigits

/-- A decimal, written with all its digits after the point. -/
def FixedPoint.ofScaled (n : Int) : FixedPoint where
  negative := n < 0
  whole := n.natAbs / 10 ^ fractionDigits
  fraction := fixedDigits fractionDigits n.natAbs
  digits := by
    refine ⟨List.ne_nil_of_length_pos ?_, fun _ => isDigit_of_mem_fixedDigits⟩
    rw [length_fixedDigits]
    decide
  short := by rw [length_fixedDigits]

namespace FixedPoint

variable {n : Int}

theorem digits_ofScaled (n : Int) : NumberLiteral.natOfDigits
    ((ofScaled n).literal.whole ++ (ofScaled n).fraction) = n.natAbs := by
  have whole : (ofScaled n).literal.whole = Nat.toDigits 10 (n.natAbs / 10 ^ fractionDigits) := rfl
  have fraction : (ofScaled n).fraction = fixedDigits fractionDigits n.natAbs := rfl
  rw [whole, fraction, NumberLiteral.natOfDigits_append, NumberLiteral.natOfDigits_toDigits,
    NumberLiteral.natOfDigits_fixedDigits, length_fixedDigits, Nat.mul_comm, Nat.div_add_mod]

theorem scaled_ofScaled (n : Int) : (ofScaled n).scaled = n := by
  have sign : (ofScaled n).negative = decide (n < 0) := rfl
  rw [scaled, digits_ofScaled, sign]
  split
  next h =>
    have below := of_decide_eq_true h
    omega
  next h =>
    have above := of_decide_eq_false (Bool.eq_false_iff.2 h)
    omega

theorem toBinary64_ofScaled (n : Int) : (ofScaled n).literal.toBinary64 =
    .ofRatio (decide (n < 0)) n.natAbs (10 ^ fractionDigits) := by
  have digits := digits_ofScaled n
  have width : (ofScaled n).fraction.length = fractionDigits := length_fixedDigits _ _
  have value : (ofScaled n).literal.toBinary64 = .ofDecimal (decide (n < 0))
      (NumberLiteral.natOfDigits ((ofScaled n).literal.whole ++ (ofScaled n).fraction))
      (0 - (ofScaled n).fraction.length) := rfl
  rw [value, digits, width, Binary64.ofDecimal_eq_ofRatio]
  have up : (0 - fractionDigits : Int).toNat = 0 := rfl
  have down : (-(0 - fractionDigits : Int)).toNat = fractionDigits := rfl
  rw [up, down, pow_zero, mul_one]

end FixedPoint
end Decimals

/-- A text of a field with the value that it spells. -/
structure Sample (f : Field) (w : List Char) (v : Json) : Prop where
  derived : Language (fun _ _ => True) f w
  spells : Spells w v
  conforms : Conforms v f
  decided : ¬ Overflows v f
  depth : v.depth ≤ f.nesting

section Kinds

variable {label : Label}

theorem sample_integer {b : Bounds Int} (hl : Legible b.low) :
    Sample (.integer label b) (integerText b.low) (.int b.low) where
  derived := ⟨b.low, le_rfl, b.ordered, rfl⟩
  spells := Json.spells_int hl
  conforms := .integer le_rfl b.ordered
  decided := nofun
  depth := le_rfl

theorem not_tooLarge_real (x : Binary64) : ¬ TooLarge (.real x) := fun ⟨_, h, _⟩ => absurd h nofun

theorem sample_real {b : Bounds Finite64} (h : HoldsDecimal b) :
    ∃ w v, Sample (.real label b) w v := by
  obtain ⟨n, low, high⟩ := h
  have width : (FixedPoint.ofScaled n).fraction.length = fractionDigits := length_fixedDigits _ _
  have within : (FixedPoint.ofScaled n).Within b := by
    rw [FixedPoint.Within, width, FixedPoint.scaled_ofScaled]
    exact ⟨low, high⟩
  have sign : (FixedPoint.ofScaled n).negative = true → (FixedPoint.ofScaled n).scaled < 0 := by
    rw [FixedPoint.scaled_ofScaled]
    exact of_decide_eq_true
  have ten : 0 < 10 ^ fractionDigits := by decide
  obtain ⟨x, hx, above, below⟩ := exists_ofRatio_between ten (by exact_mod_cast low)
    (by exact_mod_cast high)
  have spelled := spells_fixedPoint (FixedPoint.ofScaled n)
  rw [FixedPoint.toBinary64_ofScaled, hx] at spelled
  refine ⟨_, _, ⟨⟨_, within.fits sign, rfl, trivial⟩, spelled, .real above below, ?_, le_rfl⟩⟩
  intro h
  cases h with
  | real h => exact not_tooLarge_real _ h

theorem span_low (b : Bounds Nat) : Span b (List.replicate b.low 'a') :=
  span_replicate.2 ⟨le_rfl, b.ordered⟩

theorem sample_string (b : Bounds Nat) : ∃ w v, Sample (.string label b) w v :=
  ⟨_, _, ⟨⟨_, span_low b, rfl⟩, spells_span (span_low b), conforms_span (span_low b), nofun,
    le_rfl⟩⟩

theorem sample_template (p : Pattern) (b : Bounds Nat) : ∃ w v, Sample (.template label p b) w v :=
  ⟨_, _, ⟨⟨_, span_low b, rfl⟩, spells_filled (span_low b) p, conforms_filled (span_low b) p, nofun,
    le_rfl⟩⟩

theorem depth_scalar (value : Scalar) : value.toJson.depth = 0 := by
  cases value <;> rfl

theorem not_tooLarge_real_of_mem {value : Scalar} {xs : List Finite64}
    (h : value ∈ (Options.reals xs).scalars) : ¬ TooLarge value.toJson := by
  obtain ⟨x, -, rfl⟩ := List.mem_map.1 h
  exact not_tooLarge_real x

theorem sample_constant {value : Scalar} (hl : value.Spellable) :
    Sample (.constant label value) (scalarText value) value.toJson where
  derived := rfl
  spells := spells_scalar hl
  conforms := .constant (matches_toJson value)
  decided := by
    cases value with
    | real x => exact fun h => not_tooLarge_real x (overflows_constant_iff.1 h)
    | int | text => nofun
  depth := (depth_scalar value).le

theorem sample_choice {options : Options} {value : Scalar} (hm : value ∈ options.scalars)
    (hl : value.Spellable) : Sample (.choice label options) (scalarText value) value.toJson where
  derived := ⟨value, hm, rfl⟩
  spells := spells_scalar hl
  conforms := .choice hm (matches_toJson value)
  decided := by
    cases options with
    | reals xs => exact fun h => not_tooLarge_real_of_mem hm (overflows_choice_iff.1 h).1
    | ints | texts =>
      generalize value.toJson = v
      nofun
  depth := (depth_scalar value).le

theorem sample_boolean : Sample (.boolean label) "true".toList (.bool true) where
  derived := .inl rfl
  spells := Json.spells_bool true
  conforms := .boolean
  decided := nofun
  depth := le_rfl

theorem sample_optional (inner : Field) :
    Sample (.optional label inner) "null".toList .null where
  derived := .inr rfl
  spells := Json.spells_null
  conforms := .null
  decided := not_overflows_null _
  depth := Nat.zero_le _

theorem sample_variant {f : Field} {rest : List Field} {w : List Char} {v : Json}
    (h : Sample f w v) (object : f.kind = .object) :
    Sample (.variant label (f :: rest)) w v := by
  obtain ⟨derived, spells, conforms, decided, depth⟩ := h
  cases f with
  | object own fields =>
    cases conforms with
    | @object _ _ members required present known =>
      have first : Conforms (.object members) (.object own fields) :=
        .object required present known
      refine ⟨.inl derived, spells, .variant List.mem_cons_self first, fun h => ?_,
        depth.trans (Nat.le_max_left _ _)⟩
      generalize hall : Field.object own fields :: rest = all at h
      cases h with
      | @variant _ before after _ g others overflows =>
        cases before with
        | nil =>
          obtain ⟨rfl, -⟩ := List.cons.inj hall
          exact decided overflows
        | cons g before =>
          obtain ⟨rfl, -⟩ := List.cons.inj hall
          exact others _ List.mem_cons_self first
  | _ => simp [Field.kind] at object

theorem itemsDepth_le {items : List Json} {n : Nat} (h : ∀ v ∈ items, v.depth ≤ n) :
    Json.itemsDepth items ≤ n := by
  induction items with
  | nil => exact Nat.zero_le n
  | cons v rest ih =>
    obtain ⟨hv, hrest⟩ := List.forall_mem_cons.1 h
    exact Nat.max_le.2 ⟨hv, ih hrest⟩

theorem sample_array {element : Field} {w : List Char} {v : Json} (h : Sample element w v)
    (b : Bounds Nat) : ∃ t u, Sample (.array label element b) t u := by
  have texts : ∀ u ∈ List.replicate b.low w, Language (fun _ _ => True) element u := by
    intro u hu
    rw [List.eq_of_mem_replicate hu]
    exact h.derived
  have values : ∀ {p : Json → Prop}, p v → ∀ u ∈ List.replicate b.low v, p u := by
    intro p hp u hu
    rw [List.eq_of_mem_replicate hu]
    exact hp
  have spelled : List.Forall₂ Spells (List.replicate b.low w) (List.replicate b.low v) := by
    rw [List.forall₂_iff_get]
    simp [h.spells]
  refine ⟨_, .array (List.replicate b.low v), ⟨⟨_, ?_, ?_, texts, rfl⟩,
    Json.spells_array spelled, .array ?_ ?_ (values h.conforms), fun overflows => ?_, ?_⟩⟩
  · simp
  · simpa using b.ordered
  · simp
  · simpa using b.ordered
  · cases overflows with
    | array hv overflows => exact values (p := (¬ Overflows · element)) h.decided _ hv overflows
  · exact Nat.succ_le_succ (itemsDepth_le (values h.depth))

end Kinds

section Objects

theorem membersDepth_le {members : List (Text × Json)} {n : Nat}
    (h : ∀ m ∈ members, m.2.depth ≤ n) : Json.membersDepth members ≤ n := by
  induction members with
  | nil => exact Nat.zero_le n
  | cons m rest ih =>
    obtain ⟨hm, hrest⟩ := List.forall_mem_cons.1 h
    exact Nat.max_le.2 ⟨hm, ih hrest⟩

/-- What is asked of the value of a member. -/
def Fits (n : Nat) (v : Json) (f : Field) : Prop :=
  Conforms v f ∧ ¬ Overflows v f ∧ v.depth ≤ n

theorem exists_members {fields : List Field} {n : Nat}
    (h : ∀ f ∈ fields, (∃ w v, Sample f w v) ∧ f.nesting ≤ n) :
    ∃ entries, Entries (fun _ _ => True) fields (entries.map Entry.written) ∧
      Members (Fits n) fields entries := by
  induction fields with
  | nil => exact ⟨[], rfl, .nil⟩
  | cons f rest ih =>
    obtain ⟨⟨⟨w, v, sample⟩, depth⟩, hrest⟩ := List.forall_mem_cons.1 h
    obtain ⟨entries, derived, members⟩ := ih hrest
    by_cases missing : f.isOptional
    · exact ⟨entries, entries_cons.2 (.inr ⟨missing, derived⟩), members.skip missing⟩
    · have itself : f.memberField = f := by
        cases f with
        | optional => exact absurd rfl missing
        | _ => rfl
      refine ⟨⟨f.name, w, v⟩ :: entries, entries_cons.2 (.inl ⟨w, _, rfl, ?_, derived⟩),
        members.cons sample.spells ?_⟩
      · rw [itself]
        exact sample.derived
      · rw [itself]
        exact ⟨sample.conforms, sample.decided, sample.depth.trans depth⟩

theorem sample_object {label : Label} {fields : List Field} (hn : (fields.map Field.name).Nodup)
    (h : ∀ f ∈ fields, ∃ w v, Sample f w v) : ∃ w v, Sample (.object label fields) w v := by
  obtain ⟨entries, derived, members⟩ :=
    exists_members fun f hf => ⟨h f hf, Field.nesting_le_all hf⟩
  have spelled := Json.spells_object members.spells (members.keys_nodup hn)
  have conforming := members.mono fun _ _ fits => fits.1
  refine ⟨_, _, ⟨⟨_, derived, rfl⟩, spelled, conforming.conforms_object hn, fun overflows => ?_,
    ?_⟩⟩
  · cases overflows with
    | object hf hv overflows => exact (members.lookup hn hf hv).2.1 overflows
  · refine Nat.succ_le_succ (membersDepth_le (List.forall_mem_map.2 fun m hm => ?_))
    obtain ⟨f, -, -, fits⟩ := members.values m hm
    exact fits.2.2

end Objects

/-- Every field that can be written has a sample. -/
theorem exists_sample {f : Field} (hf : f.WellFormed) (hl : f.Spellable)
    (hd : ∀ g ∈ f.preorder, ∀ label b, g = .real label b → HoldsDecimal b) :
    ∃ w v, Sample f w v := by
  induction f using Field.induct_children with
  | step f ih =>
    have below : ∀ g ∈ f.children, ∃ w v, Sample g w v := fun g hg =>
      ih g hg (Field.closed_wellFormed f hf g hg) (Field.closed_spellable f hl g hg)
        (Field.closed_preorder _ f hd g hg)
    cases f with
    | integer label b =>
      exact ⟨_, _, sample_integer (hl.own (.int b.low) (by simp [Field.scalars]))⟩
    | real label b => exact sample_real (hd _ (Field.mem_preorder_self _) label b rfl)
    | string label b => exact sample_string b
    | constant label value =>
      exact ⟨_, _, sample_constant (hl.own value (by simp [Field.scalars]))⟩
    | boolean label => exact ⟨_, _, sample_boolean⟩
    | choice label options =>
      cases hf with
      | choice _ _ valid =>
        obtain ⟨value, hm⟩ := List.exists_mem_of_ne_nil _ (scalars_ne_nil valid)
        exact ⟨_, _, sample_choice hm (hl.own value hm)⟩
    | object label fields =>
      cases hf with
      | object _ _ _ distinct => exact sample_object distinct below
    | variant label alternatives =>
      cases hf with
      | variant _ _ filled _ objects =>
        obtain ⟨first, rest, rfl⟩ := List.exists_cons_of_ne_nil filled
        obtain ⟨w, v, sample⟩ := below first List.mem_cons_self
        exact ⟨w, v, sample_variant sample (objects first List.mem_cons_self)⟩
    | array label element b =>
      obtain ⟨w, v, sample⟩ := below element (by simp [Field.children])
      exact sample_array sample b
    | optional label inner => exact ⟨_, _, sample_optional inner⟩
    | template label p b => exact sample_template p b

/-- Every schema that has a grammar has a document that the grammar derives and that is accepted. -/
theorem exists_derivable_accepted {f : Field} {g : Compiled} (hf : Constructed f)
    (hg : f.grammar = .ok g) (shallow : f.nesting ≤ Json.depthLimit)
    (decimals : ∀ label b, .real label b ∈ f.preorder → HoldsDecimal b) :
    ∃ t, Derivable g.text (fun _ _ => True) t ∧
      (validate (.field f) (some t)).findings = .ok [] := by
  obtain ⟨t, v, sample⟩ := exists_sample hf.wellFormed (spellable_of_grammar hg)
    fun g hg label b he => decimals label b (he ▸ hg)
  have read : Json.read t = .ok v :=
    sample.spells.read.trans (Json.within_of_le (sample.depth.trans shallow) _)
  exact ⟨t, (derivable_free_iff hf.wellFormed hg).2 sample.derived,
    (Validation.validate_accepts_iff f (some t)).1.2 ⟨v, read, sample.conforms, sample.decided⟩⟩

def lossBounds : Bounds Finite64 :=
  ⟨{ Finite64.one with negative := true }, ⟨true, ⟨1021 * 2 ^ 52, by decide⟩⟩, by decide +kernel⟩

/-- A loss, leaves, perhaps a seal, and one of two entries. -/
def journal : Field := .object ⟨"journal", none, by decide, by decide⟩
  [.real ⟨"loss", none, by decide, by decide⟩ lossBounds,
    .array ⟨"leaves", none, by decide, by decide⟩
      (.string ⟨"leaf", none, by decide, by decide⟩ ⟨2, 7, by decide⟩) ⟨1, 5, by decide⟩,
    .optional ⟨"seal", none, by decide, by decide⟩ (.boolean ⟨"seal", none, by decide, by decide⟩),
    .variant ⟨"entry", none, by decide, by decide⟩
      [.object ⟨"day", none, by decide, by decide⟩
          [.integer ⟨"day", none, by decide, by decide⟩ ⟨1, 31, by decide⟩],
        .object ⟨"blank", none, by decide, by decide⟩ []]]

/-- Only numbers below zero, and every kind of nesting. -/
theorem journal_satisfiable : Constructed journal ∧ ∃ g, journal.grammar = .ok g ∧
    journal.nesting ≤ Json.depthLimit ∧
    (∀ label b, .real label b ∈ journal.preorder → HoldsDecimal b) ∧
    ∃ t, Derivable g.text (fun _ _ => True) t ∧
      (validate (.field journal) (some t)).findings = .ok [] := by
  have wellFormed : journal.WellFormed := by decide
  obtain ⟨g, compiled⟩ := grammar_isOk_iff.2 (show journal.Spellable by decide)
  have shallow : journal.nesting ≤ Json.depthLimit := by decide
  have decimals : ∀ label b, .real label b ∈ journal.preorder → HoldsDecimal b := by
    intro label b h
    simp only [journal, Field.preorder, Field.preorder.preorderAll, List.append_nil,
      List.mem_cons, List.mem_append, List.not_mem_nil, reduceCtorEq, or_false, false_or,
      Field.real.injEq] at h
    rw [h.2]
    exact ⟨-500000, by decide +kernel, by decide +kernel⟩
  exact ⟨wellFormed.constructed, g, compiled, shallow, decimals,
    exists_derivable_accepted wellFormed.constructed compiled shallow decimals⟩

end Grammar
end FieldSchema
