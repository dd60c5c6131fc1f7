import FieldSchema.Proofs.Grammar.Emission
import FieldSchema.Proofs.Grammar.FixedPoint
import FieldSchema.Proofs.Grammar.Separation
import FieldSchema.Proofs.Grammar.SharedRule

/-! The texts of a field, without a grammar: what a document may look like, kind by kind. The
production that a field asks for derives exactly these, once the names in it do for the fields
below. -/
namespace FieldSchema.Grammar

open Json (commaSeparated keyText)

/-- A character that a JSON string may hold unescaped, other than delete. -/
def isPlain (c : Char) : Bool := c ≠ '"' && c ≠ '\\' && !isControl c

/-- Plain characters, their number within bounds. -/
def Span (b : Bounds Nat) (s : List Char) : Prop :=
  b.low ≤ s.length ∧ s.length ≤ b.high ∧ ∀ c ∈ s, isPlain c

/-- Letters alone are a span if there are as many of them as the bounds ask for. -/
theorem span_replicate {b : Bounds Nat} {n : Nat} :
    Span b (List.replicate n 'a') ↔ b.low ≤ n ∧ n ≤ b.high := by
  have plain : isPlain 'a' := by decide
  simp [Span, plain]

theorem flatMap_plain {s : List Char} (h : ∀ c ∈ s, isPlain c) :
    s.flatMap Json.Escape.verbatim = s := by
  induction s with
  | nil => rfl
  | cons c s ih =>
    obtain ⟨hc, hs⟩ := List.forall_mem_cons.1 h
    have itself : Json.Escape.verbatim c = [c] := by
      simp only [isPlain, isControl, Bool.and_eq_true, Bool.not_eq_true', decide_eq_true_eq,
        Bool.or_eq_false_iff, decide_eq_false_iff_not] at hc
      obtain ⟨⟨quote, backslash⟩, control, -⟩ := hc
      have letter : Json.Escape.letter? c = none := by
        unfold Json.Escape.letter?
        split <;> simp_all
      rw [Json.Escape.verbatim, letter]
      exact if_neg control
    rw [List.flatMap_cons, itself, ih hs, List.singleton_append]

def scalarText (v : Scalar) : List Char := v.toJson.text.toList

section Language

variable (real : Bounds Finite64 → List Char → Prop)

mutual

/-- The texts of a field. A number between two doubles has to satisfy `real` as well. -/
def Language : Field → List Char → Prop
  | .integer _ b, w => ∃ n, b.low ≤ n ∧ n ≤ b.high ∧ w = integerText n
  | .real _ b, w => ∃ d : FixedPoint, d.Fits b ∧ w = d.text ∧ real b w
  | .string _ b, w => ∃ s, Span b s ∧ w = '"' :: s ++ ['"']
  | .boolean _, w => w = "true".toList ∨ w = "false".toList
  | .constant _ value, w => w = scalarText value
  | .choice _ options, w => ∃ v ∈ options.scalars, w = scalarText v
  | .template _ pattern b, w => ∃ s, Span b s ∧
    w = '"' :: (Json.Escape.string pattern.before).toList ++ s ++
      (Json.Escape.string pattern.after).toList ++ ['"']
  | .object _ fields, w => ∃ us, Entries fields us ∧ w = '\x7b' :: commaSeparated us ++ ['\x7d']
  | .variant _ alternatives, w => AnyLanguage alternatives w
  | .array _ element b, w => ∃ ws : List (List Char), b.low ≤ ws.length ∧ ws.length ≤ b.high ∧
    (∀ u ∈ ws, Language element u) ∧ w = '[' :: commaSeparated ws ++ [']']
  | .optional _ inner, w => Language inner w ∨ w = "null".toList

/-- The members of an object in their order; the optional ones may be left out. -/
def Entries : List Field → List (List Char) → Prop
  | [], us => us = []
  | .optional label inner :: rest, us =>
    (∃ v vs, us = (keyText label.name ++ v) :: vs ∧ Language inner v ∧ Entries rest vs) ∨
      Entries rest us
  | f :: rest, us =>
    ∃ v vs, us = (keyText f.name ++ v) :: vs ∧ Language f v ∧ Entries rest vs

def AnyLanguage : List Field → List Char → Prop
  | [], _ => False
  | f :: rest, w => Language f w ∨ AnyLanguage rest w

end

end Language

variable {real : Bounds Finite64 → List Char → Prop} {rules : List (String × Production)}
  {admits : String → List Char → Prop} {w : List Char}

theorem entries_cons {f : Field} {rest : List Field} {us : List (List Char)} :
    Entries real (f :: rest) us ↔
      (∃ v vs, us = (keyText f.name ++ v) :: vs ∧ Language real f.memberField v ∧
        Entries real rest vs) ∨ f.isOptional ∧ Entries real rest us := by
  cases f with
  | optional label inner => simp [Entries, Field.isOptional, Field.memberField, Field.name,
      Field.label]
  | _ => simp [Entries, Field.isOptional, Field.memberField]

theorem anyLanguage_iff {fields : List Field} :
    AnyLanguage real fields w ↔ ∃ f ∈ fields, Language real f w := by
  induction fields with
  | nil => simp [AnyLanguage]
  | cons f rest ih => simp [AnyLanguage, ih]

theorem derives_stringChar (u : List Char) :
    Derives rules admits [.stringChar] u ↔ ∃ c, isPlain c ∧ u = [c] := by
  have same : ∀ c : Char, inClass false
      [('"', '"'), ('\\', '\\'), ('\x00', '\x1f'), ('\x7f', '\x7f')] c = isPlain c := by
    intro c
    have point : ∀ d : Char, c = d ↔ c.toNat = d.toNat := fun d => Char.toNat_inj.symm
    have order : ∀ d e : Char, d ≤ e ↔ d.toNat ≤ e.toNat := fun _ _ => Iff.rfl
    rw [Bool.eq_iff_iff]
    simp [inClass, isPlain, isControl, point, order]
    omega
  rw [Item.stringChar, derives_oneOf]
  simp only [same]

theorem derives_stringBody {b : Bounds Nat} :
    Derives rules admits (stringBody b) w ↔ Span b w :=
  derives_between_chars b.ordered derives_stringChar

theorem literal_of_scalarLiteral {v : Scalar} {item : Item} (h : scalarLiteral v = .ok item) :
    literal v.toJson.text = .ok item := by
  unfold scalarLiteral at h
  split at h
  next n =>
    cases hn : checkDigits n with
    | error e =>
      rw [hn] at h
      exact absurd h nofun
    | ok u =>
      rw [hn] at h
      dsimp only [Bind.bind, Except.bind] at h
      exact h
  next => exact h

theorem scalarLiteral_eq {v : Scalar} {item : Item} (h : scalarLiteral v = .ok item) :
    item = .text v.toJson.text := by
  have written := literal_of_scalarLiteral h
  unfold literal at written
  split at written
  · exact (Except.ok.inj written).symm
  · exact absurd written nofun

theorem mapM_scalarLiteral {scalars : List Scalar} {items : List Item}
    (h : scalars.mapM scalarLiteral = .ok items) :
    (items = scalars.map fun v => .text v.toJson.text) ∧
      ∀ v ∈ scalars, ∃ item, scalarLiteral v = .ok item := by
  induction scalars generalizing items with
  | nil => exact ⟨(Except.ok.inj h).symm, by simp⟩
  | cons v rest ih =>
    rw [List.mapM_cons] at h
    cases hv : scalarLiteral v with
    | error e =>
      rw [hv] at h
      exact absurd h nofun
    | ok item =>
      cases hr : rest.mapM scalarLiteral with
      | error e =>
        rw [hv, hr] at h
        exact absurd h nofun
      | ok more =>
        rw [hv, hr] at h
        obtain rfl := Except.ok.inj h
        obtain ⟨hmore, each⟩ := ih hr
        exact ⟨by rw [List.map_cons, scalarLiteral_eq hv, hmore],
          List.forall_mem_cons.2 ⟨⟨item, hv⟩, each⟩⟩

section Asks

variable {stands : Field → String → Prop}
  (means : ∀ f name, stands f name → ∀ u,
    Derives rules admits [.ref name] u ↔ Language real f u)

include means

theorem picks_iff_entries {fields : List Field} {members : List Member}
    (h : MembersStand stands fields members) {us : List (List Char)} :
    Picks (fun m => Derives rules admits m.sequence) (members.map Member.part) us ↔
      Entries real fields us := by
  induction h generalizing us with
  | nil => simp [Entries]
  | @cons f m fields members hm _ ih =>
    obtain ⟨key, optional, value⟩ := hm
    have word : ∀ u, Derives rules admits m.part.sequence u ↔
        ∃ v, u = keyText f.name ++ v ∧ Language real f.memberField v := by
      intro u
      rw [Member.part, derives_text_cons, key]
      simp only [means _ _ value, keyText, String.toList_append]
      rfl
    have absent : m.part.optional = f.isOptional := optional
    rw [List.map_cons, Picks.cons_iff, entries_cons, absent, ih]
    simp only [word, ih]
    refine or_congr ⟨?_, ?_⟩ Iff.rfl
    · intro ⟨_, vs, hus, ⟨v, hv, hl⟩, hvs⟩
      exact ⟨v, vs, by rw [hus, hv], hl, hvs⟩
    · intro ⟨v, vs, hus, hl, hvs⟩
      exact ⟨_, vs, hus, ⟨v, rfl, hl⟩, hvs⟩

theorem produces_refs {fields : List Field} {names : List String}
    (h : List.Forall₂ stands fields names) :
    Produces rules admits (names.map fun name => [.ref name]) w ↔ AnyLanguage real fields w := by
  induction h with
  | nil => simp [AnyLanguage]
  | @cons f name fields names hn _ ih =>
    rw [List.map_cons, produces_cons, means f name hn, ih, AnyLanguage]

/-- The production that a field asks for derives the texts of the field. -/
theorem produces_asks {f : Field} {p : Production} (h : Asks stands f p) :
    (Produces rules admits p w ∧ ∀ b, f.sharedRule? = some (.real b) → real b w) ↔
      Language real f w := by
  cases h with
  | integer label b =>
    simp [Field.sharedRule?, produces_integerRange, Language]
  | real label b =>
    rw [produces_decimalRange, Language]
    simp only [Field.sharedRule?, Option.some.injEq, SharedRule.real.injEq, forall_eq']
    constructor
    · rintro ⟨⟨d, hd, hw⟩, hr⟩
      exact ⟨d, hd, hw, hr⟩
    · rintro ⟨d, hd, hw, hr⟩
      exact ⟨⟨d, hd, hw⟩, hr⟩
  | string label b =>
    rw [produces_singleton, derives_between_texts]
    simp only [derives_stringBody, Field.sharedRule?, Language]
    simp [and_comm]
  | boolean label =>
    simp [produces_cons, Field.sharedRule?, Language]
  | constant label value item hi =>
    rw [scalarLiteral_eq hi]
    simp [Field.sharedRule?, Language, scalarText]
  | choice label options items hi =>
    rw [(mapM_scalarLiteral hi).1]
    have each : Produces rules admits
        ((options.scalars.map fun v => Item.text v.toJson.text).map ([·])) w ↔
        ∃ v ∈ options.scalars, w = scalarText v := by
      simp [Produces, scalarText]
    rw [each, Language]
    simp [Field.sharedRule?]
  | template label pattern b =>
    rw [produces_singleton, derives_between_texts]
    simp only [derives_stringBody, Field.sharedRule?, Language, String.toList_append]
    simp [and_comm]
  | object label fields members hm =>
    rw [produces_singleton, derives_between_texts]
    simp only [derives_objectBody, picks_iff_entries means hm, Field.sharedRule?, Language]
    constructor
    · rintro ⟨⟨v, hw, us, hus, hv⟩, -⟩
      exact ⟨us, hus, by rw [hw, hv]; rfl⟩
    · rintro ⟨us, hus, hw⟩
      exact ⟨⟨_, by rw [hw]; rfl, us, hus, rfl⟩, by simp⟩
  | variant label alternatives names hn =>
    rw [produces_refs means hn, Language]
    simp [Field.sharedRule?]
  | array label element b name hn =>
    rw [produces_singleton, derives_between_texts]
    simp only [derives_arrayBody, means _ _ hn, Field.sharedRule?, Language]
    constructor
    · rintro ⟨⟨v, hw, ws, hl, hh, hws, hv⟩, -⟩
      exact ⟨ws, hl, hh, hws, by rw [hw, hv]; rfl⟩
    · rintro ⟨ws, hl, hh, hws, hw⟩
      exact ⟨⟨_, by rw [hw]; rfl, ws, hl, hh, hws, rfl⟩, by simp⟩
  | optional label inner name hn =>
    rw [produces_cons, produces_singleton, means _ _ hn, derives_text, Language]
    simp [Field.sharedRule?]

end Asks

end FieldSchema.Grammar
