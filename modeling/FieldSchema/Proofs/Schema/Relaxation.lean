import FieldSchema.Proofs.Grammar.Compiled
import FieldSchema.Proofs.Grammar.Refusal
import FieldSchema.Proofs.Validation.Document

/-! Relaxing a schema. A field that asks for less than another one, somewhere in its tree, still
describes all its values and all its texts, so no document is lost. -/
namespace FieldSchema

open Validation (Conforms validate)
open Grammar (Compiled Derivable Entries FixedPoint Span)

/-- Bounds that lie between other bounds. -/
def Bounds.Inside {α : Type} [LE α] (b c : Bounds α) : Prop := c.low ≤ b.low ∧ b.high ≤ c.high

/-- The second field asks for less, or for the same. Bounds are widened, options and alternatives
are added, a value may be missing or null; this at any place of the tree. -/
inductive Relaxes : Field → Field → Prop where
  | refl (f : Field) : Relaxes f f
  | trans {f g h : Field} : Relaxes f g → Relaxes g h → Relaxes f h
  | integer {l m : Label} {b c : Bounds Int} : b.Inside c →
    Relaxes (.integer l b) (.integer m c)
  | real {l m : Label} {b c : Bounds Finite64} : b.Inside c → Relaxes (.real l b) (.real m c)
  | string {l m : Label} {b c : Bounds Nat} : b.Inside c → Relaxes (.string l b) (.string m c)
  | template {l m : Label} {p : Pattern} {b c : Bounds Nat} : b.Inside c →
    Relaxes (.template l p b) (.template m p c)
  | choice {l m : Label} {o p : Options} : o.scalars ⊆ p.scalars →
    Relaxes (.choice l o) (.choice m p)
  | alternatives {l m : Label} (fields more : List Field) :
    Relaxes (.variant l fields) (.variant m (fields ++ more))
  | alternative {l m : Label} (before after : List Field) {f g : Field} : Relaxes f g →
    Relaxes (.variant l (before ++ f :: after)) (.variant m (before ++ g :: after))
  | member {l m : Label} (before after : List Field) {f g : Field} : f.name = g.name →
    Relaxes f g → Relaxes (.object l (before ++ f :: after)) (.object m (before ++ g :: after))
  | array {l m : Label} {f g : Field} {b c : Bounds Nat} : b.Inside c → Relaxes f g →
    Relaxes (.array l f b) (.array m g c)
  | inner {l m : Label} {f g : Field} : Relaxes f g → Relaxes (.optional l f) (.optional m g)
  | optional {l : Label} {f g : Field} : Relaxes f g → Relaxes f (.optional l g)

/-- The second field describes the values and the texts of the first one. -/
structure Includes (f g : Field) : Prop where
  values : ∀ v, Conforms v f → Conforms v g
  texts : ∀ w, Grammar.Language (fun _ _ => True) f w → Grammar.Language (fun _ _ => True) g w

namespace Includes

variable {f g h : Field}

theorem refl (f : Field) : Includes f f := ⟨fun _ hv => hv, fun _ hw => hw⟩

theorem trans (hfg : Includes f g) (hgh : Includes g h) : Includes f h :=
  ⟨fun v hv => hgh.values v (hfg.values v hv), fun w hw => hgh.texts w (hfg.texts w hw)⟩

theorem inner (label : Label) (f : Field) : Includes f (.optional label f) :=
  ⟨fun _ hv => .optional hv, fun _ hw => .inl hw⟩

theorem memberField (f : Field) : Includes f.memberField f := by
  cases f with
  | optional label inner => exact .inner label inner
  | _ => exact .refl _

end Includes

section Kinds

variable {l m : Label}

theorem includes_integer {b c : Bounds Int} (h : b.Inside c) :
    Includes (.integer l b) (.integer m c) := by
  obtain ⟨low, high⟩ := h
  constructor
  · intro v hv
    cases hv with
    | integer hl hh => exact .integer (low.trans hl) (hh.trans high)
  · intro w ⟨n, hl, hh, hw⟩
    exact ⟨n, low.trans hl, hh.trans high, hw⟩

theorem Grammar.FixedPoint.Fits.widen {d : FixedPoint} {b c : Bounds Finite64} (hd : d.Fits b)
    (h : b.Inside c) : d.Fits c := by
  have low : c.low.units ≤ b.low.units := h.1
  have high : b.high.units ≤ c.high.units := h.2
  have ordered : b.low.units ≤ b.high.units := b.ordered
  have magnitude : max b.low.magnitude b.high.magnitude ≤ max c.low.magnitude c.high.magnitude := by
    simp only [← FixedPoint.natAbs_units]
    omega
  obtain ⟨whole, negative, positive⟩ := hd
  refine ⟨whole.trans (Nat.div_le_div_right magnitude), fun hn => ?_, fun hn => ?_⟩
  · exact lt_of_le_of_lt low (negative hn)
  · exact (positive hn).trans high

theorem includes_real {b c : Bounds Finite64} (h : b.Inside c) :
    Includes (.real l b) (.real m c) := by
  have low : c.low.units ≤ b.low.units := h.1
  have high : b.high.units ≤ c.high.units := h.2
  constructor
  · intro v hv
    cases hv with
    | real hl hh => exact .real (Int.le_trans low hl) (Int.le_trans hh high)
    | realOfInt hl hh => exact .realOfInt (low.trans hl) (hh.trans high)
  · intro w ⟨d, hd, hw, _⟩
    exact ⟨d, hd.widen h, hw, trivial⟩

theorem Grammar.Span.widen {b c : Bounds Nat} {s : List Char} (hs : Span b s) (h : b.Inside c) :
    Span c s :=
  ⟨h.1.trans hs.1, hs.2.1.trans h.2, hs.2.2⟩

theorem includes_string {b c : Bounds Nat} (h : b.Inside c) :
    Includes (.string l b) (.string m c) := by
  constructor
  · intro v hv
    cases hv with
    | string hl hh => exact .string (h.1.trans hl) (hh.trans h.2)
  · intro w ⟨s, hs, hw⟩
    exact ⟨s, hs.widen h, hw⟩

theorem includes_template {p : Pattern} {b c : Bounds Nat} (h : b.Inside c) :
    Includes (.template l p b) (.template m p c) := by
  constructor
  · intro v hv
    cases hv with
    | template hl hh => exact .template (h.1.trans hl) (hh.trans h.2)
  · intro w ⟨s, hs, hw⟩
    exact ⟨s, hs.widen h, hw⟩

theorem includes_choice {o p : Options} (h : o.scalars ⊆ p.scalars) :
    Includes (.choice l o) (.choice m p) := by
  constructor
  · intro v hv
    cases hv with
    | choice hm hv => exact .choice (h hm) hv
  · intro w ⟨value, hm, hw⟩
    exact ⟨value, h hm, hw⟩

theorem includes_variant {fields others : List Field}
    (h : ∀ f ∈ fields, ∃ g ∈ others, Includes f g) :
    Includes (.variant l fields) (.variant m others) := by
  constructor
  · intro v hv
    cases hv with
    | variant hf hv =>
      obtain ⟨g, hg, more⟩ := h _ hf
      exact .variant hg (more.values _ hv)
  · intro w hw
    rw [Grammar.Language, Grammar.anyLanguage_iff] at hw ⊢
    obtain ⟨f, hf, hw⟩ := hw
    obtain ⟨g, hg, more⟩ := h f hf
    exact ⟨g, hg, more.texts w hw⟩

theorem includes_array {f g : Field} {b c : Bounds Nat} (h : b.Inside c) (more : Includes f g) :
    Includes (.array l f b) (.array m g c) := by
  constructor
  · intro v hv
    cases hv with
    | array hl hh each =>
      exact .array (h.1.trans hl) (hh.trans h.2) fun v hv => more.values v (each v hv)
  · intro w ⟨ws, hl, hh, each, hw⟩
    exact ⟨ws, h.1.trans hl, hh.trans h.2, fun u hu => more.texts u (each u hu), hw⟩

theorem includes_optional {f g : Field} (more : Includes f g) :
    Includes (.optional l f) (.optional m g) := by
  constructor
  · intro v hv
    cases hv with
    | null => exact .null
    | optional hv => exact .optional (more.values v hv)
  · intro w hw
    exact hw.imp_left (more.texts w)

end Kinds

section Members

variable {f g h : Field}

/-- The same of members, the values of which may be missing. -/
structure IncludesMember (f g : Field) : Prop where
  whole : Includes f g
  optional : f.isOptional → g.isOptional
  value : Includes f.memberField g.memberField

namespace IncludesMember

theorem refl (f : Field) : IncludesMember f f := ⟨.refl f, id, .refl _⟩

theorem trans (hfg : IncludesMember f g) (hgh : IncludesMember g h) : IncludesMember f h :=
  ⟨hfg.whole.trans hgh.whole, hgh.optional ∘ hfg.optional, hfg.value.trans hgh.value⟩

theorem of_required (more : Includes f g) (hf : f.isOptional = false)
    (hg : g.isOptional = false) : IncludesMember f g := by
  have itself : ∀ {f : Field}, f.isOptional = false → f.memberField = f := by
    intro f hf
    cases f with
    | optional => exact absurd hf nofun
    | _ => rfl
  refine ⟨more, fun ho => ?_, ?_⟩
  · rw [hf] at ho
    exact absurd ho nofun
  · rw [itself hf, itself hg]
    exact more

end IncludesMember

theorem entries_member (same : f.name = g.name) (more : IncludesMember f g)
    (before after : List Field) {us : List (List Char)}
    (h : Entries (fun _ _ => True) (before ++ f :: after) us) :
    Entries (fun _ _ => True) (before ++ g :: after) us := by
  induction before generalizing us with
  | nil =>
    rw [List.nil_append, Grammar.entries_cons] at h ⊢
    rcases h with ⟨v, vs, rfl, hv, hvs⟩ | ⟨missing, hus⟩
    · exact .inl ⟨v, vs, by rw [same], more.value.texts v hv, hvs⟩
    · exact .inr ⟨more.optional missing, hus⟩
  | cons first before ih =>
    rw [List.cons_append, Grammar.entries_cons] at h ⊢
    rcases h with ⟨v, vs, rfl, hv, hvs⟩ | ⟨missing, hus⟩
    · exact .inl ⟨v, vs, rfl, hv, ih hvs⟩
    · exact .inr ⟨missing, ih hus⟩

theorem includes_object {l m : Label} (same : f.name = g.name) (more : IncludesMember f g)
    (before after : List Field) :
    Includes (.object l (before ++ f :: after)) (.object m (before ++ g :: after)) := by
  have origin : ∀ k ∈ before ++ g :: after,
      ∃ k' ∈ before ++ f :: after, k'.name = k.name ∧ IncludesMember k' k := by
    refine List.forall_mem_append.2 ⟨fun k hk => ⟨k, by simp [hk], rfl, .refl k⟩, ?_⟩
    refine List.forall_mem_cons.2 ⟨⟨f, by simp, same, more⟩, fun k hk => ?_⟩
    exact ⟨k, by simp [hk], rfl, .refl k⟩
  have names : (before ++ f :: after).map Field.name = (before ++ g :: after).map Field.name := by
    simp [same]
  constructor
  · intro v hv
    cases hv with
    | object required present known =>
      refine .object (fun k hk needed => ?_) (fun k hk v hv => ?_) fun entry hm => ?_
      · obtain ⟨k', hk', name, less⟩ := origin k hk
        rw [← name]
        refine required k' hk' ?_
        by_contra missing
        rw [less.optional (Bool.eq_true_of_not_eq_false missing)] at needed
        exact absurd needed nofun
      · obtain ⟨k', hk', name, less⟩ := origin k hk
        rw [← name] at hv
        exact less.value.values v (present k' hk' v hv)
      · obtain ⟨k, hk, key⟩ := known entry hm
        have other : k.name ∈ (before ++ g :: after).map Field.name := by
          rw [← names]
          exact List.mem_map_of_mem hk
        obtain ⟨k', hk', name⟩ := List.mem_map.1 other
        exact ⟨k', hk', by rw [name, key]⟩
  · intro w ⟨us, hus, hw⟩
    exact ⟨us, entries_member same more before after hus, hw⟩

/-- A relaxed field describes all that the field describes, as a member of an object as well. -/
theorem Relaxes.includesMember (h : Relaxes f g) : IncludesMember f g := by
  induction h with
  | refl f => exact .refl f
  | trans _ _ first second => exact first.trans second
  | integer h => exact .of_required (includes_integer h) rfl rfl
  | real h => exact .of_required (includes_real h) rfl rfl
  | string h => exact .of_required (includes_string h) rfl rfl
  | template h => exact .of_required (includes_template h) rfl rfl
  | choice h => exact .of_required (includes_choice h) rfl rfl
  | alternatives fields more =>
    exact .of_required (includes_variant fun f hf => ⟨f, by simp [hf], .refl f⟩) rfl rfl
  | @alternative _ _ before after f g _ ih =>
    have origin : ∀ k ∈ before ++ f :: after, ∃ k' ∈ before ++ g :: after, Includes k k' := by
      refine List.forall_mem_append.2 ⟨fun k hk => ⟨k, by simp [hk], .refl k⟩, ?_⟩
      exact List.forall_mem_cons.2 ⟨⟨g, by simp, ih.whole⟩, fun k hk => ⟨k, by simp [hk], .refl k⟩⟩
    exact .of_required (includes_variant origin) rfl rfl
  | member before after same _ ih =>
    exact .of_required (includes_object same ih before after) rfl rfl
  | array h _ ih => exact .of_required (includes_array h ih.whole) rfl rfl
  | inner _ ih => exact ⟨includes_optional ih.whole, id, ih.whole⟩
  | @optional l f g _ ih =>
    exact ⟨ih.whole.trans (.inner l g), fun _ => rfl, (Includes.memberField f).trans ih.whole⟩

end Members

/-- A relaxed schema loses no document: not one that was accepted, as long as every integer in it
has a nearest double, and not one that was derived. -/
theorem relaxed_keeps {f g : Field} (hf : Constructed f) (hg : Constructed g) (h : Relaxes f g) :
    (∀ t v, Json.read t = .ok v → (∀ n ∈ v.integers, n.natAbs < 2 ^ 1024 - 2 ^ 970) →
      (validate (.field f) (some t)).findings = .ok [] →
      (validate (.field g) (some t)).findings = .ok []) ∧
    ∀ cf cg t, f.grammar = .ok cf → g.grammar = .ok cg →
      Derivable cf.text (fun _ _ => True) t → Derivable cg.text (fun _ _ => True) t := by
  have more := h.includesMember.whole
  constructor
  · intro t v read small accepted
    obtain ⟨u, read', conforms, -⟩ := (Validation.validate_accepts_iff f (some t)).1.1 accepted
    obtain rfl := Except.ok.inj (read.symm.trans read')
    exact (Validation.validate_accepts_iff g (some t)).1.2
      ⟨v, read, more.values v conforms, Validation.not_overflows_of_small small⟩
  · intro cf cg t compiled compiled' derived
    have language := (Grammar.derivable_free_iff hf.wellFormed compiled).1 derived
    exact (Grammar.derivable_free_iff hg.wellFormed compiled').2 (more.texts t language)

def rowLabel : Label := ⟨"row", none, by decide, by decide⟩

def ticket : Field := .object ⟨"ticket", none, by decide, by decide⟩
  [.integer rowLabel ⟨1, 30, by decide⟩]

def openTicket : Field := .object ⟨"ticket", none, by decide, by decide⟩
  [.optional rowLabel (.integer rowLabel ⟨1, 60, by decide⟩)]

theorem ticket_relaxes : Relaxes ticket openTicket :=
  .member [] [] rfl (.optional (.integer ⟨by decide, by decide⟩))

def seventhRow : List Char :=
  '\x7b' :: Json.commaSeparated [Json.keyText "row" ++ integerText 7] ++ ['\x7d']

theorem read_seventhRow :
    Json.read seventhRow = .ok (.object [(Text.ofString "row", .int 7)]) := by
  let entries : List Json.Entry := [⟨"row", integerText 7, .int 7⟩]
  have each : ∀ m ∈ entries, Json.Spells m.text m.value := by
    simpa [entries] using Json.spells_int (by decide)
  have spelled := Json.spells_object each (List.pairwise_singleton _ _)
  exact spelled.read.trans (Json.within_of_le (by decide) _)

/-- The only member was required and has become optional. -/
theorem seventhRow_kept : Constructed ticket ∧ Constructed openTicket ∧
    Relaxes ticket openTicket ∧
    (validate (.field openTicket) (some seventhRow)).findings = .ok [] ∧
    ∃ cf cg, ticket.grammar = .ok cf ∧ openTicket.grammar = .ok cg ∧
      Derivable cf.text (fun _ _ => True) seventhRow ∧
      Derivable cg.text (fun _ _ => True) seventhRow := by
  have wellFormed : ticket.WellFormed ∧ openTicket.WellFormed := by decide
  have first := wellFormed.1.constructed
  have second := wellFormed.2.constructed
  obtain ⟨cf, compiled⟩ := Grammar.grammar_isOk_iff.2 (show ticket.Spellable by decide)
  obtain ⟨cg, compiled'⟩ := Grammar.grammar_isOk_iff.2 (show openTicket.Spellable by decide)
  obtain ⟨accepted, derived⟩ := relaxed_keeps first second ticket_relaxes
  have language : Grammar.Language (fun _ _ => True) ticket seventhRow :=
    ⟨_, ⟨_, [], rfl, ⟨7, by decide, by decide, rfl⟩, rfl⟩, rfl⟩
  have derivable := (Grammar.derivable_free_iff wellFormed.1 compiled).2 language
  refine ⟨first, second, ticket_relaxes, ?_, cf, cg, compiled, compiled', derivable,
    derived cf cg _ compiled compiled' derivable⟩
  have whole : Json.read ((some seventhRow).getD []) = _ := read_seventhRow
  refine accepted _ _ read_seventhRow (by decide +kernel) ?_
  rw [Validation.validate_of_read whole]
  rfl

end FieldSchema
