import FieldSchema.Grammar.Production

/-! The texts that a production stands for. A sequence derives a text piece by piece; a rule name
derives what one alternative of its rule derives, provided that `admits` allows the rule to produce
that text, so that a derivation can be held to more than the rules say. -/
namespace FieldSchema.Grammar

def inClass (inside : Bool) (ranges : List (Char × Char)) (c : Char) : Bool :=
  (ranges.any fun range => range.1 ≤ c && c ≤ range.2) == inside

section Derivation

variable (rules : List (String × Production)) (admits : String → List Char → Prop)

inductive Derives : Sequence → List Char → Prop where
  | nil : Derives [] []
  | text {s : String} {rest : Sequence} {w : List Char} : Derives rest w →
      Derives (.text s :: rest) (s.toList ++ w)
  | oneOf {inside : Bool} {ranges : List (Char × Char)} {c : Char} {rest : Sequence}
      {w : List Char} : inClass inside ranges c → Derives rest w →
      Derives (.oneOf inside ranges :: rest) (c :: w)
  | ref {name : String} {p : Production} {s rest : Sequence} {u w : List Char} :
      rules.lookup name = some p → s ∈ p → Derives s u → admits name u → Derives rest w →
      Derives (.ref name :: rest) (u ++ w)
  | group {p : Production} {s rest : Sequence} {u w : List Char} : s ∈ p → Derives s u →
      Derives rest w → Derives (.group p :: rest) (u ++ w)
  | skip {p : Production} {rest : Sequence} {w : List Char} : Derives rest w →
      Derives (.optional p :: rest) w
  | take {p : Production} {s rest : Sequence} {u w : List Char} : s ∈ p → Derives s u →
      Derives rest w → Derives (.optional p :: rest) (u ++ w)

/-- A production derives what one of its alternatives derives. -/
def Produces (p : Production) (w : List Char) : Prop := ∃ s ∈ p, Derives rules admits s w

end Derivation

variable {rules : List (String × Production)} {admits : String → List Char → Prop}
  {s t : Sequence} {p q : Production} {w : List Char}

theorem Derives.mono {admits' : String → List Char → Prop}
    (more : ∀ name u, admits name u → admits' name u) (h : Derives rules admits s w) :
    Derives rules admits' s w := by
  induction h with
  | nil => exact .nil
  | text _ ih => exact .text ih
  | oneOf hc _ ih => exact .oneOf hc ih
  | ref hp hs _ ha _ ih₁ ih₂ => exact .ref hp hs ih₁ (more _ _ ha) ih₂
  | group hs _ _ ih₁ ih₂ => exact .group hs ih₁ ih₂
  | skip _ ih => exact .skip ih
  | take hs _ _ ih₁ ih₂ => exact .take hs ih₁ ih₂

@[simp] theorem derives_nil : Derives rules admits [] w ↔ w = [] := by
  constructor
  · intro h; cases h; rfl
  · rintro rfl; exact .nil

/-- The first item of a sequence derives the front of the text, the others the rest. -/
theorem derives_cons {i : Item} : Derives rules admits (i :: t) w ↔
    ∃ u v, w = u ++ v ∧ Derives rules admits [i] u ∧ Derives rules admits t v := by
  constructor
  · intro h
    cases h with
    | text h => exact ⟨_, _, rfl, by simpa using Derives.text .nil, h⟩
    | @oneOf inside ranges c _ v hc h => exact ⟨[c], v, rfl, .oneOf hc .nil, h⟩
    | ref hp hs hu ha h => exact ⟨_, _, rfl, by simpa using Derives.ref hp hs hu ha .nil, h⟩
    | group hs hu h => exact ⟨_, _, rfl, by simpa using Derives.group hs hu .nil, h⟩
    | skip h => exact ⟨[], w, rfl, .skip .nil, h⟩
    | take hs hu h => exact ⟨_, _, rfl, by simpa using Derives.take hs hu .nil, h⟩
  · rintro ⟨u, v, rfl, hu, hv⟩
    cases hu with
    | text h =>
      obtain rfl := derives_nil.1 h
      simpa using Derives.text hv
    | oneOf hc h =>
      obtain rfl := derives_nil.1 h
      exact .oneOf hc hv
    | ref hp hs hs' ha h =>
      obtain rfl := derives_nil.1 h
      simpa using Derives.ref hp hs hs' ha hv
    | group hs hs' h =>
      obtain rfl := derives_nil.1 h
      simpa using Derives.group hs hs' hv
    | skip h =>
      obtain rfl := derives_nil.1 h
      exact .skip hv
    | take hs hs' h =>
      obtain rfl := derives_nil.1 h
      simpa using Derives.take hs hs' hv

theorem derives_append : Derives rules admits (s ++ t) w ↔
    ∃ u v, w = u ++ v ∧ Derives rules admits s u ∧ Derives rules admits t v := by
  induction s generalizing w with
  | nil =>
    constructor
    · intro h
      exact ⟨[], w, rfl, .nil, h⟩
    · rintro ⟨u, v, rfl, hu, hv⟩
      obtain rfl := derives_nil.1 hu
      exact hv
  | cons i s ih =>
    rw [List.cons_append, derives_cons]
    constructor
    · rintro ⟨u, v, rfl, hu, hv⟩
      obtain ⟨v₁, v₂, rfl, hv₁, hv₂⟩ := ih.1 hv
      exact ⟨u ++ v₁, v₂, by simp, derives_cons.2 ⟨u, v₁, rfl, hu, hv₁⟩, hv₂⟩
    · rintro ⟨u, v, rfl, hu, hv⟩
      obtain ⟨u₁, u₂, rfl, hu₁, hu₂⟩ := derives_cons.1 hu
      exact ⟨u₁, u₂ ++ v, by simp, hu₁, ih.2 ⟨u₂, v, rfl, hu₂, hv⟩⟩

@[simp] theorem derives_text {x : String} : Derives rules admits [.text x] w ↔ w = x.toList := by
  constructor
  · intro h
    cases h with
    | text h => simpa using h
  · rintro rfl
    simpa using Derives.text .nil

@[simp] theorem derives_oneOf {inside : Bool} {ranges : List (Char × Char)} :
    Derives rules admits [.oneOf inside ranges] w ↔ ∃ c, inClass inside ranges c ∧ w = [c] := by
  constructor
  · intro h
    cases h with
    | oneOf hc h => exact ⟨_, hc, by simpa using h⟩
  · rintro ⟨c, hc, rfl⟩
    exact .oneOf hc .nil

theorem derives_ref {name : String} : Derives rules admits [.ref name] w ↔
    ∃ p, rules.lookup name = some p ∧ Produces rules admits p w ∧ admits name w := by
  constructor
  · intro h
    cases h with
    | ref hp hs hu ha h =>
      obtain rfl := derives_nil.1 h
      exact ⟨_, hp, ⟨_, hs, by simpa using hu⟩, by simpa using ha⟩
  · rintro ⟨p, hp, ⟨s, hs, hu⟩, ha⟩
    simpa using Derives.ref hp hs hu ha .nil

@[simp] theorem derives_group : Derives rules admits [.group p] w ↔ Produces rules admits p w := by
  constructor
  · intro h
    cases h with
    | group hs hu h =>
      obtain rfl := derives_nil.1 h
      exact ⟨_, hs, by simpa using hu⟩
  · intro ⟨s, hs, hu⟩
    simpa using Derives.group hs hu .nil

@[simp] theorem derives_optional :
    Derives rules admits [.optional p] w ↔ w = [] ∨ Produces rules admits p w := by
  constructor
  · intro h
    cases h with
    | skip h => exact .inl (by simpa using h)
    | take hs hu h =>
      obtain rfl := derives_nil.1 h
      exact .inr ⟨_, hs, by simpa using hu⟩
  · rintro (rfl | ⟨s, hs, hu⟩)
    · exact .skip .nil
    · simpa using Derives.take hs hu .nil

@[simp] theorem produces_nil : ¬ Produces rules admits [] w := by
  rintro ⟨s, hs, -⟩
  simp at hs

@[simp] theorem produces_singleton :
    Produces rules admits [s] w ↔ Derives rules admits s w := by
  simp [Produces]

theorem produces_cons :
    Produces rules admits (s :: p) w ↔ Derives rules admits s w ∨ Produces rules admits p w := by
  simp [Produces]

theorem produces_append :
    Produces rules admits (p ++ q) w ↔ Produces rules admits p w ∨ Produces rules admits q w := by
  simp [Produces, or_and_right, exists_or]

/-- An item put in front of every alternative derives the front of the text. -/
theorem produces_map_cons {i : Item} : Produces rules admits (p.map (i :: ·)) w ↔
    ∃ u v, w = u ++ v ∧ Derives rules admits [i] u ∧ Produces rules admits p v := by
  constructor
  · rintro ⟨_, hm, h⟩
    obtain ⟨s, hs, rfl⟩ := List.mem_map.1 hm
    obtain ⟨u, v, rfl, hu, hv⟩ := derives_cons.1 h
    exact ⟨u, v, rfl, hu, s, hs, hv⟩
  · rintro ⟨u, v, rfl, hu, s, hs, hv⟩
    exact ⟨i :: s, List.mem_map.2 ⟨s, hs, rfl⟩, derives_cons.2 ⟨u, v, rfl, hu, hv⟩⟩

/-- A text in front of a sequence stands in front of what the sequence derives. -/
theorem derives_text_cons {x : String} : Derives rules admits (.text x :: t) w ↔
    ∃ v, w = x.toList ++ v ∧ Derives rules admits t v := by
  rw [derives_cons]
  constructor
  · rintro ⟨u, v, rfl, hu, hv⟩
    obtain rfl := derives_text.1 hu
    exact ⟨v, rfl, hv⟩
  · rintro ⟨v, rfl, hv⟩
    exact ⟨_, v, rfl, derives_text.2 rfl, hv⟩

/-- A sequence between two texts derives what it derives alone, between the two texts. -/
theorem derives_between_texts {x y : String} :
    Derives rules admits (.text x :: s ++ [.text y]) w ↔
      ∃ v, w = x.toList ++ v ++ y.toList ∧ Derives rules admits s v := by
  rw [List.cons_append, derives_text_cons]
  constructor
  · rintro ⟨_, rfl, h⟩
    obtain ⟨u, v, rfl, hu, hv⟩ := derives_append.1 h
    obtain rfl := derives_text.1 hv
    exact ⟨u, by simp, hu⟩
  · rintro ⟨v, rfl, hv⟩
    exact ⟨v ++ y.toList, by simp, derives_append.2 ⟨v, _, rfl, hv, derives_text.2 rfl⟩⟩

end FieldSchema.Grammar
