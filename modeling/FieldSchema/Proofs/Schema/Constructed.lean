import FieldSchema.Schema.Construct

/-! The fields that can be built. Every check of a constructor has passed where it returns a field,
so all that is built out of built fields is well-formed. -/
namespace FieldSchema

theorem Except.bind_eq_ok {ε α β : Type} {x : Except ε α} {k : α → Except ε β} {b : β} :
    (x >>= k) = .ok b ↔ ∃ a, x = .ok a ∧ k a = .ok b := by
  cases x with
  | error e => exact iff_of_false nofun fun ⟨a, h, _⟩ => absurd h nofun
  | ok a =>
    constructor
    · intro h
      exact ⟨a, rfl, h⟩
    · intro ⟨a', ha, h⟩
      obtain rfl := Except.ok.inj ha
      exact h

/-- A field that the constructors return, from fields that they returned before. -/
inductive Constructed : Field → Prop where
  | integer {name hint low high : Datum} {f : Field} :
    Construct.integer name hint low high = .ok f → Constructed f
  | real {name hint low high : Datum} {f : Field} :
    Construct.real name hint low high = .ok f → Constructed f
  | string {name hint low high : Datum} {f : Field} :
    Construct.string name hint low high = .ok f → Constructed f
  | constant {name hint value : Datum} {f : Field} :
    Construct.constant name hint value = .ok f → Constructed f
  | boolean {name hint : Datum} {f : Field} : Construct.boolean name hint = .ok f → Constructed f
  | choice {name hint : Datum} {values : List Datum} {f : Field} :
    Construct.choice name hint values = .ok f → Constructed f
  | object {name hint : Datum} {values : List Datum} {f : Field} :
    (∀ g, .field g ∈ Datum.spread values → Constructed g) →
    Construct.object name hint values = .ok f → Constructed f
  | variant {name hint : Datum} {values : List Datum} {f : Field} :
    (∀ g, .field g ∈ Datum.spread values → Constructed g) →
    Construct.variant name hint values = .ok f → Constructed f
  | array {name hint low high : Datum} {element f : Field} : Constructed element →
    Construct.array name hint element low high = .ok f → Constructed f
  | optional {name hint : Datum} {inner f : Field} : Constructed inner →
    Construct.optional name hint inner = .ok f → Constructed f
  | template {name hint text low high : Datum} {f : Field} :
    Construct.template name hint text low high = .ok f → Constructed f

namespace Construct

theorem options_valid {name : String} {values : List Datum} {o : Options}
    (h : options name values = .ok o) : o.Valid := by
  unfold options at h
  split at h
  next => exact absurd h nofun
  next =>
    obtain ⟨o', -, h⟩ := Except.bind_eq_ok.1 h
    split at h
    next valid =>
      obtain rfl := Except.ok.inj h
      exact valid
    next => exact absurd h nofun

theorem members_spec {name : String} {seen : List String} {values : List Datum}
    {fields : List Field} (h : members name seen values = .ok fields) :
    (∀ f ∈ fields, .field f ∈ values ∧ f.name ∉ seen) ∧ (fields.map Field.name).Nodup := by
  induction values generalizing seen fields with
  | nil =>
    obtain rfl := Except.ok.inj h
    simp
  | cons d rest ih =>
    cases d with
    | field f =>
      unfold members at h
      split at h
      next => exact absurd h nofun
      next new =>
        obtain ⟨more, hm, h⟩ := Except.bind_eq_ok.1 h
        obtain rfl := Except.ok.inj h
        obtain ⟨each, distinct⟩ := ih hm
        constructor
        · refine List.forall_mem_cons.2 ⟨⟨by simp, new⟩, fun g hg => ?_⟩
          obtain ⟨given, other⟩ := each g hg
          exact ⟨List.mem_cons_of_mem _ given, fun hs => other (List.mem_cons_of_mem _ hs)⟩
        · rw [List.map_cons, List.nodup_cons]
          refine ⟨fun hn => ?_, distinct⟩
          obtain ⟨g, hg, same⟩ := List.mem_map.1 hn
          exact (each g hg).2 (by simp [same])
    | _ => exact absurd h nofun

/-- The alternatives are objects that were given, one for each value. -/
theorem alternatives_spec {name : String} {values : List Datum} {fields : List Field}
    (h : alternatives name values = .ok fields) :
    (∀ f ∈ fields, .field f ∈ values ∧ f.kind = .object) ∧ fields.length = values.length := by
  induction values generalizing fields with
  | nil =>
    obtain rfl := Except.ok.inj h
    simp
  | cons d rest ih =>
    unfold alternatives at h
    split at h
    next =>
      obtain ⟨more, hm, h⟩ := Except.bind_eq_ok.1 h
      obtain rfl := Except.ok.inj h
      obtain ⟨each, length⟩ := ih hm
      refine ⟨List.forall_mem_cons.2 ⟨⟨by simp, rfl⟩, fun g hg => ?_⟩, by simp [length]⟩
      obtain ⟨given, object⟩ := each g hg
      exact ⟨List.mem_cons_of_mem _ given, object⟩
    next => exact absurd h nofun

section Leaves

variable {name hint low high value : Datum} {f : Field}

theorem eq_integer (h : integer name hint low high = .ok f) :
    ∃ label b, f = .integer label b := by
  obtain ⟨label, -, h⟩ := Except.bind_eq_ok.1 h
  split at h
  next =>
    split at h
    next ordered => exact ⟨label, ⟨_, _, ordered⟩, (Except.ok.inj h).symm⟩
    next => exact absurd h nofun
  next => exact absurd h nofun

theorem eq_real (h : real name hint low high = .ok f) : ∃ label b, f = .real label b := by
  obtain ⟨label, -, h⟩ := Except.bind_eq_ok.1 h
  split at h
  next =>
    obtain ⟨x, -, h⟩ := Except.bind_eq_ok.1 h
    cases x with
    | none => exact absurd h nofun
    | some x =>
      obtain ⟨y, -, h⟩ := Except.bind_eq_ok.1 h
      cases y with
      | none => exact absurd h nofun
      | some y =>
        dsimp only at h
        split at h
        next => exact absurd h nofun
        next =>
          split at h
          next ordered => exact ⟨label, ⟨x, y, ordered⟩, (Except.ok.inj h).symm⟩
          next => exact absurd h nofun
  next => exact absurd h nofun

theorem eq_constant (h : constant name hint value = .ok f) : ∃ label v, f = .constant label v := by
  obtain ⟨label, -, h⟩ := Except.bind_eq_ok.1 h
  split at h
  next => exact ⟨label, _, (Except.ok.inj h).symm⟩
  next => exact ⟨label, _, (Except.ok.inj h).symm⟩
  next => exact absurd h nofun
  next => exact ⟨label, _, (Except.ok.inj h).symm⟩
  next => exact absurd h nofun

end Leaves

end Construct

open Construct in
theorem Constructed.wellFormed {f : Field} (h : Constructed f) : f.WellFormed := by
  induction h with
  | integer h =>
    obtain ⟨label, b, rfl⟩ := eq_integer h
    exact .integer _ _
  | real h =>
    obtain ⟨label, b, rfl⟩ := eq_real h
    exact .real _ _
  | string h =>
    obtain ⟨label, -, h⟩ := Except.bind_eq_ok.1 h
    obtain ⟨b, -, h⟩ := Except.bind_eq_ok.1 h
    obtain rfl := Except.ok.inj h
    exact .string _ _
  | constant h =>
    obtain ⟨label, v, rfl⟩ := eq_constant h
    exact .constant _ _
  | boolean h =>
    obtain ⟨label, -, h⟩ := Except.bind_eq_ok.1 h
    obtain rfl := Except.ok.inj h
    exact .boolean _
  | choice h =>
    obtain ⟨label, -, h⟩ := Except.bind_eq_ok.1 h
    obtain ⟨o, ho, h⟩ := Except.bind_eq_ok.1 h
    obtain rfl := Except.ok.inj h
    exact .choice _ _ (options_valid ho)
  | object _ h ih =>
    obtain ⟨label, -, h⟩ := Except.bind_eq_ok.1 h
    obtain ⟨fields, hf, h⟩ := Except.bind_eq_ok.1 h
    obtain rfl := Except.ok.inj h
    obtain ⟨each, distinct⟩ := members_spec hf
    exact .object _ _ (fun g hg => ih g (each g hg).1) distinct
  | variant _ h ih =>
    obtain ⟨label, -, h⟩ := Except.bind_eq_ok.1 h
    split at h
    next => exact absurd h nofun
    next values some =>
      obtain ⟨fields, hf, h⟩ := Except.bind_eq_ok.1 h
      obtain rfl := Except.ok.inj h
      obtain ⟨each, length⟩ := alternatives_spec hf
      refine .variant _ _ ?_ (fun g hg => ih g (each g hg).1) fun g hg => (each g hg).2
      intro hn
      rw [hn] at length
      exact some (List.eq_nil_of_length_eq_zero length.symm)
  | array _ h ih =>
    obtain ⟨label, -, h⟩ := Except.bind_eq_ok.1 h
    obtain ⟨b, -, h⟩ := Except.bind_eq_ok.1 h
    obtain rfl := Except.ok.inj h
    exact .array _ _ _ ih
  | optional _ h ih =>
    obtain ⟨label, -, h⟩ := Except.bind_eq_ok.1 h
    obtain rfl := Except.ok.inj h
    exact .optional _ _ ih
  | template h =>
    obtain ⟨label, -, h⟩ := Except.bind_eq_ok.1 h
    obtain ⟨p, -, h⟩ := Except.bind_eq_ok.1 h
    obtain ⟨b, -, h⟩ := Except.bind_eq_ok.1 h
    obtain rfl := Except.ok.inj h
    exact .template _ _ _

end FieldSchema
