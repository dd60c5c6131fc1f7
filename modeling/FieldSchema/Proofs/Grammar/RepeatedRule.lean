import FieldSchema.Proofs.Grammar.Compiled
import FieldSchema.Proofs.Grammar.Refusal

/-! Productions that a grammar has more than once. A structure gets the earlier rule of its
production, if there is one. A rule that fields share is looked for by its name alone, so it is
emitted for bounds that no rule is named after, even if an earlier rule has the same production. -/
namespace FieldSchema

theorem Bounds.eq_of_between_iff {α : Type} [PartialOrder α] {b c : Bounds α}
    (h : ∀ n, b.low ≤ n ∧ n ≤ b.high ↔ c.low ≤ n ∧ n ≤ c.high) : b = c := by
  have low : b.low = c.low :=
    le_antisymm ((h c.low).2 ⟨le_rfl, c.ordered⟩).1 ((h b.low).1 ⟨le_rfl, b.ordered⟩).1
  have high : b.high = c.high :=
    le_antisymm ((h b.high).1 ⟨b.ordered, le_rfl⟩).2 ((h c.high).2 ⟨c.ordered, le_rfl⟩).2
  obtain ⟨_, _, _⟩ := b
  obtain ⟨_, _, _⟩ := c
  dsimp only at low high
  subst low high
  rfl

namespace Grammar

section Decimals

variable {b c : Bounds Finite64}

/-- Bounds that allow the same signs, and whole parts up to the same number. -/
structure SameDecimals (b c : Bounds Finite64) : Prop where
  negative : b.low.units < 0 ↔ c.low.units < 0
  natural : 0 ≤ b.high.units ↔ 0 ≤ c.high.units
  whole : max b.low.magnitude b.high.magnitude / Finite64.unitsPerOne =
    max c.low.magnitude c.high.magnitude / Finite64.unitsPerOne

theorem fits_of_decimalRange_eq (h : decimalRange b = decimalRange c) {d : FixedPoint}
    (hd : d.Fits b) : d.Fits c := by
  have derived : Produces [] (fun _ _ => True) (decimalRange b) d.text :=
    produces_decimalRange.2 ⟨d, hd, rfl⟩
  rw [h] at derived
  obtain ⟨e, he, text⟩ := produces_decimalRange.1 derived
  rw [FixedPoint.text_injective text]
  exact he

/-- Decimals do not depend on their bounds beyond the signs and the largest whole part. -/
theorem decimalRange_eq_iff : decimalRange b = decimalRange c ↔ SameDecimals b c := by
  constructor
  · intro h
    have sign : ∀ negative, (FixedPoint.ofWhole negative 0).Fits b ↔
        (FixedPoint.ofWhole negative 0).Fits c :=
      fun _ => ⟨fits_of_decimalRange_eq h, fits_of_decimalRange_eq h.symm⟩
    have most : ∀ {b c}, decimalRange b = decimalRange c →
        max b.low.magnitude b.high.magnitude / Finite64.unitsPerOne ≤
          max c.low.magnitude c.high.magnitude / Finite64.unitsPerOne := by
      intro b c h
      obtain ⟨negative, fits⟩ := FixedPoint.exists_ofWhole_fits b
      exact (fits_of_decimalRange_eq h fits).1
    exact ⟨by simpa [FixedPoint.fits_ofWhole] using sign true,
      by simpa [FixedPoint.fits_ofWhole] using sign false, le_antisymm (most h) (most h.symm)⟩
  · intro ⟨negative, natural, whole⟩
    have below : b.high.units < 0 ↔ c.high.units < 0 := by omega
    have sign : signItems b.low b.high = signItems c.low c.high := by
      simp only [signItems, lt_zero_iff, negative, below]
    rw [decimalRange, decimalRange, sign, whole]

end Decimals

namespace SharedRule

variable {r s : SharedRule} {rules : List (String × Production)}
  {admits : String → List Char → Prop} {w : List Char}

def Spells : SharedRule → List Char → Prop
  | integer b, w => ∃ n, b.low ≤ n ∧ n ≤ b.high ∧ w = integerText n
  | real b, w => ∃ d : FixedPoint, d.Fits b ∧ w = d.text
  | string b, w => ∃ u, w = '"' :: u ++ ['"'] ∧ Span b u
  | boolean, w => w = "true".toList ∨ w = "false".toList

theorem produces_iff : Produces rules admits s.production w ↔ s.Spells w := by
  cases s with
  | integer b => exact produces_integerRange
  | real b => exact produces_decimalRange
  | string b =>
    rw [production, produces_singleton, derives_between_texts]
    simp only [derives_stringBody]
    rfl
  | boolean =>
    rw [production, produces_cons, produces_singleton, derives_text, derives_text]
    rfl

theorem exists_spells (s : SharedRule) : ∃ w, s.Spells w := by
  cases s with
  | integer b => exact ⟨_, b.low, le_rfl, b.ordered, rfl⟩
  | real b =>
    obtain ⟨negative, fits⟩ := FixedPoint.exists_ofWhole_fits b
    exact ⟨_, _, fits, rfl⟩
  | string b => exact ⟨_, _, rfl, span_replicate.2 ⟨le_rfl, b.ordered⟩⟩
  | boolean => exact ⟨_, .inl rfl⟩

def kindOfText (w : List Char) : List Char :=
  if w.head? = some '"' then "string".toList
  else if w.head? = some 't' ∨ w.head? = some 'f' then "boolean".toList
  else if '.' ∈ w then "float".toList
  else "integer".toList

theorem kindOfText_number (h : StartsNumber w) : kindOfText w =
    if '.' ∈ w then "float".toList else "integer".toList := by
  rw [kindOfText, if_neg (h.head?_ne (by decide) rfl), if_neg]
  exact not_or.2 ⟨h.head?_ne (by decide) rfl, h.head?_ne (by decide) rfl⟩

theorem kindOfText_of_spells (h : s.Spells w) : kindOfText w = kindOf s.name := by
  cases s with
  | integer b =>
    obtain ⟨n, -, -, rfl⟩ := h
    have point : '.' ∉ integerText n := by
      rcases lt_or_ge n 0 with hn | hn
      · rw [integerText_of_neg hn]
        exact List.not_mem_cons_of_ne_of_not_mem (by decide) (notMem_toDigits rfl _)
      · rw [integerText_of_nonneg hn]
        exact notMem_toDigits rfl _
    rw [kindOfText_number (startsNumber_integerText n), if_neg point, name, kindOf_integerName]
  | real b =>
    obtain ⟨d, -, rfl⟩ := h
    have point : '.' ∈ d.text := by simp [FixedPoint.text]
    rw [kindOfText_number (startsNumber_fixedPoint d), if_pos point, name, kindOf_realName]
  | string b =>
    obtain ⟨u, rfl, -⟩ := h
    rw [name, kindOf_stringName]
    exact if_pos rfl
  | boolean =>
    rw [name, kindOf_boolean]
    rcases h with rfl | rfl <;> decide

/-- Two shared rules that have one production, and not one name, are for the same decimals. -/
theorem production_eq (h : r.production = s.production) :
    r = s ∨ ∃ b c, r = real b ∧ s = real c ∧ SameDecimals b c := by
  have same : ∀ w, r.Spells w ↔ s.Spells w := by
    intro w
    have left : Produces [] (fun _ _ => True) r.production w ↔ r.Spells w := produces_iff
    rw [← left, h, produces_iff]
  obtain ⟨w, hw⟩ := r.exists_spells
  have kinds := kindOfText_of_spells hw
  rw [kindOfText_of_spells ((same w).1 hw)] at kinds
  cases r <;> cases s <;>
    simp only [name, kindOf_integerName, kindOf_realName, kindOf_stringName,
      kindOf_boolean] at kinds
  case integer.integer b c =>
    refine .inl (congrArg integer (Bounds.eq_of_between_iff fun n => ?_))
    have spelled : ∀ b : Bounds Int,
        (integer b).Spells (integerText n) ↔ b.low ≤ n ∧ n ≤ b.high := by
      simp [Spells, integerText_injective.eq_iff]
    rw [← spelled, same, spelled]
  case real.real b c => exact .inr ⟨b, c, rfl, rfl, decimalRange_eq_iff.1 h⟩
  case string.string b c =>
    refine .inl (congrArg string (Bounds.eq_of_between_iff fun n => ?_))
    have spelled : ∀ b : Bounds Nat,
        (string b).Spells ('"' :: List.replicate n 'a' ++ ['"']) ↔ b.low ≤ n ∧ n ≤ b.high := by
      simp [Spells, span_replicate]
    rw [← spelled, same, spelled]
  case boolean.boolean => exact .inl rfl
  all_goals exact absurd kinds (by decide)

end SharedRule

section Structures

variable {p : Production}

/-- What a structure may ask for, whatever its parts are compiled to. -/
def Structured (p : Production) : Prop :=
  ∃ f, f.sharedRule? = none ∧ Asks (fun _ _ => True) f p

theorem text_scalar_ne_true (v : Scalar) : v.toJson.text ≠ "true" := by
  intro h
  have letter : 't' ∈ v.toJson.text.toList := by simp [h]
  cases v with
  | int n =>
    rw [Scalar.toJson, Json.toList_text_int] at letter
    exact (numberText_integer n).notMem rfl letter
  | real x =>
    rw [Scalar.toJson, Json.toList_text_real] at letter
    exact (numberText_real x).notMem rfl letter
  | text s =>
    have quoted := congrArg String.toList h
    rw [Scalar.toJson, Json.toList_text_string] at quoted
    simp at quoted

theorem Structured.ne_boolean (h : Structured p) : p ≠ SharedRule.boolean.production := by
  obtain ⟨f, unshared, asks⟩ := h
  intro he
  rw [SharedRule.production] at he
  cases asks with
  | integer | real | string | boolean => simp [Field.sharedRule?] at unshared
  | choice label options items hi =>
    rw [(mapM_scalarLiteral hi).1] at he
    cases hs : options.scalars with
    | nil => simp [hs] at he
    | cons v rest => simp [hs, text_scalar_ne_true] at he
  | variant label alternatives names hn => cases names <;> simp at he
  | constant | template | object | array | optional => simp at he

theorem Structured.ne_real (h : Structured p) (b : Bounds Finite64) : p ≠ decimalRange b := by
  obtain ⟨f, unshared, asks⟩ := h
  have askable := asks.askable
  rw [Askable, unshared] at askable
  exact askable b

theorem integerRange_digits : ∀ d < 10, ∀ e < 10, d ≤ e →
    integerRange (d : Nat) (e : Nat) = [[digit d e]] := by decide +kernel

theorem integerText_ne_minus (n : Int) : integerText n ≠ ['-'] := by
  rcases lt_or_ge n 0 with h | h
  · rw [integerText_of_neg h]
    exact fun he => Nat.toDigits_ne_nil (List.cons.inj he).2
  · rw [integerText_of_nonneg h]
    exact fun he => notMem_toDigits rfl n.toNat (he ▸ List.mem_singleton_self '-')

/-- If an item is a literal, it is the minus sign or a digit. -/
def Short (i : Item) : Prop := ∀ t, i = .text t → t = "-" ∨ ∃ d, d < 10 ∧ t = toString d

theorem short_digit {d e : Nat} (_ : d ≤ e) (he : e < 10) : Short (digit d e) := by
  intro t literal
  by_cases same : d = e
  · rw [digit, if_pos same] at literal
    exact .inr ⟨d, by omega, (Item.text.inj literal).symm⟩
  · simp [digit, same, Item.digits] at literal

/-- A number that one literal among the patterns of a range writes has one digit. -/
theorem digit_of_literal {low high n : Int} {t : String}
    (h : [.text t] ∈ integerRange low high) (ht : integerText n = t.toList) :
    ∃ d : Nat, d < 10 ∧ n = d := by
  have sign : Short minus := fun t literal => .inl (Item.text.inj literal).symm
  have items := forall_mem_integerRange short_digit sign _ h
  rcases items _ (List.mem_singleton_self _) t rfl with rfl | ⟨d, hd, rfl⟩
  · exact absurd ht (integerText_ne_minus n)
  · exact ⟨d, hd, integerText_injective ht⟩

theorem digit_of_literals (texts : List String) {b : Bounds Int}
    (h : texts.map (fun t => [.text t]) = integerRange b.low b.high) :
    ∃ d : Nat, d < 10 ∧ b.low = d ∧ b.high = d := by
  have digits : ∀ n, b.low ≤ n → n ≤ b.high → ∃ d : Nat, d < 10 ∧ n = d := by
    intro n low high
    have derived : Produces [] (fun _ _ => True) (integerRange b.low b.high) (integerText n) :=
      produces_integerRange.2 ⟨n, low, high, rfl⟩
    obtain ⟨s, hs, derived⟩ := derived
    have literal := hs
    rw [← h] at literal
    obtain ⟨t, -, rfl⟩ := List.mem_map.1 literal
    exact digit_of_literal hs (derives_text.1 derived)
  have ordered := b.ordered
  obtain ⟨d, hd, low⟩ := digits b.low le_rfl ordered
  obtain ⟨e, he, high⟩ := digits b.high ordered le_rfl
  rw [low, high, integerRange_digits d hd e he (by omega)] at h
  have only : [digit d e] ∈ texts.map fun t => [Item.text t] := by simp [h]
  obtain ⟨t, -, literal⟩ := List.mem_map.1 only
  have same : d = e := by
    by_contra other
    simp [digit, other, Item.digits] at literal
  exact ⟨d, hd, low, same ▸ high⟩

/-- A structure asks for an integer range only if it is a literal of one digit. -/
theorem Structured.digit (h : Structured p) {b : Bounds Int} (he : p = integerRange b.low b.high) :
    ∃ d : Nat, d < 10 ∧ b.low = d ∧ b.high = d := by
  obtain ⟨f, unshared, asks⟩ := h
  have derived : Produces [] (fun _ _ => True) p (integerText b.low) :=
    he ▸ produces_integerRange.2 ⟨b.low, le_rfl, b.ordered, rfl⟩
  have number := startsNumber_integerText b.low
  have unknown : ∀ name, ¬ Derives [] (fun _ _ => True) [.ref name] (integerText b.low) := by
    intro name h
    obtain ⟨p, hp, -⟩ := derives_ref.1 h
    simp at hp
  cases asks with
  | integer | real | string | boolean => simp [Field.sharedRule?] at unshared
  | constant label value item hi =>
    rw [scalarLiteral_eq hi] at he
    exact digit_of_literals [value.toJson.text] he
  | choice label options items hi =>
    refine digit_of_literals (options.scalars.map (·.toJson.text)) ?_
    rw [← he, (mapM_scalarLiteral hi).1, List.map_map, List.map_map]
    rfl
  | template =>
    exact absurd derived (not_produces_of_front number (c := '"') (by simp) (by decide) rfl)
  | object =>
    exact absurd derived (not_produces_of_front number (c := '\x7b') (by simp) (by decide) rfl)
  | array =>
    exact absurd derived (not_produces_of_front number (c := '[') (by simp) (by decide) rfl)
  | variant label alternatives names hn =>
    obtain ⟨s, hs, derived⟩ := derived
    obtain ⟨name, -, rfl⟩ := List.mem_map.1 hs
    exact absurd derived (unknown name)
  | optional label inner name hn =>
    rcases produces_cons.1 derived with derived | derived
    · exact absurd derived (unknown name)
    · exact absurd derived (not_produces_of_front number (c := 'n') (by simp) (by decide) rfl)

end Structures

section Repetition

/-- A rule, and a later one that repeats its production: decimals with the same signs and whole
parts, the text of a structure that is nothing but a span of characters, or one digit. -/
inductive Again : String × Production → String × Production → Prop where
  | decimals {b c : Bounds Finite64} : SameDecimals b c →
    Again (realName b, decimalRange b) (realName c, decimalRange c)
  | span {name : String} {b : Bounds Nat} : StructureName name →
    Again (name, (SharedRule.string b).production) (stringName b, (SharedRule.string b).production)
  | digit {name : String} {b : Bounds Int} {d : Nat} : StructureName name → d < 10 → b.low = d →
    b.high = d → Again (name, [[.text (toString d)]]) (integerName b, integerRange b.low b.high)

theorem integerRange_digit {b : Bounds Int} {d : Nat} (hd : d < 10) (low : b.low = d)
    (high : b.high = d) : integerRange b.low b.high = [[.text (toString d)]] := by
  rw [low, high, integerRange_digits d hd d hd le_rfl, digit, if_pos rfl]

theorem Again.production_eq {r s : String × Production} (h : Again r s) : r.2 = s.2 := by
  cases h with
  | decimals same => exact decimalRange_eq_iff.2 same
  | span => rfl
  | digit _ hd low high => exact (integerRange_digit hd low high).symm

def Original (rule : String × Production) : Prop :=
  (∃ s : SharedRule, rule = (s.name, s.production)) ∨ StructureName rule.1 ∧ Structured rule.2

/-- Only shared rules repeat the production of an earlier rule. -/
structure Traced (r : Rules) : Prop where
  original : ∀ rule ∈ r.rules, Original rule
  shared : r.rules.Pairwise fun earlier later =>
    earlier.2 = later.2 → ∃ s : SharedRule, later.1 = s.name

theorem Traced.define {r : Rules} (h : Traced r) {name : String} {p : Production}
    (original : Original (name, p))
    (new : (∃ s : SharedRule, name = s.name) ∨ ∀ rule ∈ r.rules, rule.2 ≠ p) :
    Traced (r.define name p) := by
  refine ⟨List.forall_mem_append.2 ⟨h.original, List.forall_mem_singleton.2 original⟩,
    List.pairwise_append.2 ⟨h.shared, List.pairwise_singleton _ _, ?_⟩⟩
  intro earlier he later hl same
  obtain rfl := List.mem_singleton.1 hl
  rcases new with shared | new
  · exact shared
  · exact absurd same (new earlier he)

theorem answers_traced :
    Answers Rules.request (fun _ => True) Traced fun _ _ _ => True := by
  intro r f p hr _ asks
  refine ⟨?_, fun _ _ _ => trivial, trivial⟩
  have answer := answered_request f p r
  generalize Rules.request f p r = answered at answer ⊢
  cases answer with
  | known | found => exact ⟨hr.original, hr.shared⟩
  | @shared s hs _ =>
    have production : p = s.production := by
      have askable := asks.askable
      rw [Askable, hs] at askable
      exact askable
    exact hr.define (.inl ⟨s, by rw [production]⟩) (.inl ⟨s, rfl⟩)
  | fresh hs hn =>
    have absent : ∀ rule ∈ r.rules, rule.2 ≠ p := by simpa [RuleSet.nameOf?] using hn
    exact hr.define (.inr ⟨structureName_freeName r f.name, f, hs, asks⟩) (.inr absent)

variable {f : Field} {g : Compiled}

theorem traced_grammar (h : f.grammar = .ok g) : Traced g.rules := by
  have empty : Traced .empty := ⟨fun _ hr => absurd hr List.not_mem_nil, .nil⟩
  obtain ⟨traced, -, -⟩ :=
    compileField_leads answers_traced (fun _ _ _ _ => trivial) f .empty empty trivial
  rw [run_of_grammar h] at traced
  exact traced

theorem again_of_production_eq {r s : String × Production} (hr : Original r) (hs : Original s)
    (names : r.1 ≠ s.1) (shared : ∃ t : SharedRule, s.1 = t.name) (same : r.2 = s.2) :
    Again r s := by
  obtain ⟨t, rfl⟩ : ∃ t : SharedRule, s = (t.name, t.production) := by
    rcases hs with known | ⟨structured, -⟩
    · exact known
    · obtain ⟨t, ht⟩ := shared
      exact absurd ht (structured.ne_shared t)
  rcases hr with ⟨u, rfl⟩ | ⟨named, structured⟩
  · rcases SharedRule.production_eq same with rfl | ⟨b, c, rfl, rfl, decimals⟩
    · exact absurd rfl names
    · exact .decimals decimals
  · obtain ⟨name, p⟩ := r
    dsimp only at same named structured
    subst same
    cases t with
    | integer b =>
      obtain ⟨d, hd, low, high⟩ := structured.digit rfl
      have again := Again.digit named hd low high
      have text := integerRange_digit hd low high
      rw [SharedRule.production, text]
      rw [text] at again
      exact again
    | real b => exact absurd rfl (structured.ne_real b)
    | string b => exact .span named
    | boolean => exact absurd rfl structured.ne_boolean

/-- Of two rules of a grammar the later one has the text of the earlier one exactly if it is a
shared rule that repeats it. In particular no structure comes twice. -/
theorem repeated_iff_again (hf : Constructed f) (hg : f.grammar = .ok g) :
    g.rules.rules.Pairwise fun r s => r.2.render = s.2.render ↔ Again r s := by
  have traced := traced_grammar hg
  have readable := (ordered_grammar hf.wellFormed hg).1.readable
  have names : g.rules.rules.Pairwise fun r s => r.1 ≠ s.1 :=
    List.pairwise_map.1 (sound_grammar hg).nodup
  refine (traced.shared.and names).imp_of_mem ?_
  intro r s hr hs ⟨shared, other⟩
  constructor
  · intro text
    have same : r.2 = s.2 := by
      have left := Notation.production?_render (readable r hr).2
      rw [text, Notation.production?_render (readable s hs).2] at left
      exact (Option.some.inj left).symm
    exact again_of_production_eq (traced.original r hr) (traced.original s hs) other (shared same)
      same
  · intro again
    rw [again.production_eq]

def account : Field := .object ⟨"account", none, by decide, by decide⟩
  [.real ⟨"debt", none, by decide, by decide⟩
      ⟨{ Finite64.one with negative := true }, .zero false, by decide +kernel⟩,
    .real ⟨"balance", none, by decide, by decide⟩
      ⟨{ Finite64.one with negative := true }, .one, by decide +kernel⟩]

/-- The decimals of the debt, with a sign or none, come again as those of the balance. -/
theorem account_repeated : Constructed account ∧ ∃ g, account.grammar = .ok g ∧
    g.rules.names = ["float-m1d0-0d0", "float-m1d0-1d0", "account"] ∧
    g.rules.rules.Pairwise fun r s => r.2.render = s.2.render ↔ Again r s := by
  have wellFormed : account.WellFormed := by decide
  obtain ⟨g, compiled⟩ := grammar_isOk_iff.2 (show account.Spellable by decide)
  have names : g.rules.names = ["float-m1d0-0d0", "float-m1d0-1d0", "account"] := by
    have run := congrArg (·.2.names) (run_of_grammar compiled)
    rw [← run]
    decide +kernel
  exact ⟨wellFormed.constructed, g, compiled, names,
    repeated_iff_again wellFormed.constructed compiled⟩

def dial : Field := .object ⟨"dial", none, by decide, by decide⟩
  [.constant ⟨"top", none, by decide, by decide⟩ (.int 9),
    .integer ⟨"level", none, by decide, by decide⟩ ⟨9, 9, by decide⟩]

/-- The production of the constant comes again as that of the integer. -/
theorem dial_nine_twice : Constructed dial ∧ ∃ g, dial.grammar = .ok g ∧
    g.rules.names = ["top", "integer-9-9", "dial"] ∧
    ¬ (g.rules.rules.map fun rule => rule.2.render).Nodup := by
  refine ⟨Field.WellFormed.constructed (by decide), _, rfl, by decide +kernel, by decide +kernel⟩

end Repetition

end Grammar

end FieldSchema
