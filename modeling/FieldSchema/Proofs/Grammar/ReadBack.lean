import FieldSchema.Proofs.Grammar.Notation
import FieldSchema.Proofs.Number.Digits

/-! The text of a production reads back as the production. The reader comes out of an item's text
where it went in, with the item pushed; so it follows a text of any depth with the same stack. -/
namespace FieldSchema.Grammar.Notation

section Readable

/-- A name of characters that names are made of. -/
def RuleWord (name : String) : Prop := name ≠ "" ∧ ∀ c ∈ name.toList, isRuleChar c

instance : DecidablePred RuleWord := fun name =>
  decidable_of_iff (name ≠ "" ∧ name.toList.all isRuleChar)
    (and_congr_right fun _ => List.all_eq_true)

variable (word : String → Prop)

mutual

/-- What the notation can say: clean literals, the two kinds of class that the patterns use, names
that are words, and groups with at least one alternative. -/
def ReadableItem : Item → Prop
  | .text s => isClean s
  | .oneOf inside ranges => Item.oneOf inside ranges = .stringChar ∨
    ∃ low high, low < 10 ∧ high < 10 ∧ Item.oneOf inside ranges = .digits low high
  | .ref name => word name
  | .group p | .optional p => p ≠ [] ∧ ReadableAlternatives p

def ReadableSequence : List Item → Prop
  | [] => True
  | i :: rest => ReadableItem i ∧ ReadableSequence rest

def ReadableAlternatives : List (List Item) → Prop
  | [] => True
  | s :: rest => ReadableSequence s ∧ ReadableAlternatives rest

end

variable {word}

theorem readableSequence_iff {s : Sequence} :
    ReadableSequence word s ↔ ∀ i ∈ s, ReadableItem word i := by
  induction s with
  | nil => simp [ReadableSequence]
  | cons i s ih => simp [ReadableSequence, ih]

theorem readableAlternatives_iff {p : Production} :
    ReadableAlternatives word p ↔ ∀ s ∈ p, ReadableSequence word s := by
  induction p with
  | nil => simp [ReadableAlternatives]
  | cons s p ih => simp [ReadableAlternatives, ih]

def Readable (word : String → Prop) (p : Production) : Prop :=
  p ≠ [] ∧ ∀ s ∈ p, ∀ i ∈ s, ReadableItem word i

theorem readable_iff {p : Production} :
    Readable word p ↔ p ≠ [] ∧ ReadableAlternatives word p := by
  simp only [Readable, readableAlternatives_iff, readableSequence_iff]

section Mono

variable {word' : String → Prop}

mutual

theorem ReadableItem.mono (more : ∀ name, word name → word' name) (i : Item)
    (h : ReadableItem word i) : ReadableItem word' i := by
  cases i with
  | text | oneOf =>
    rw [ReadableItem] at h ⊢
    exact h
  | ref name =>
    rw [ReadableItem] at h ⊢
    exact more name h
  | group p | optional p =>
    rw [ReadableItem] at h ⊢
    exact ⟨h.1, ReadableAlternatives.mono more p h.2⟩

theorem ReadableSequence.mono (more : ∀ name, word name → word' name) (s : List Item)
    (h : ReadableSequence word s) : ReadableSequence word' s := by
  cases s with
  | nil => trivial
  | cons i rest =>
    rw [ReadableSequence] at h ⊢
    exact ⟨ReadableItem.mono more i h.1, ReadableSequence.mono more rest h.2⟩

theorem ReadableAlternatives.mono (more : ∀ name, word name → word' name) (p : List (List Item))
    (h : ReadableAlternatives word p) : ReadableAlternatives word' p := by
  cases p with
  | nil => trivial
  | cons s rest =>
    rw [ReadableAlternatives] at h ⊢
    exact ⟨ReadableSequence.mono more s h.1, ReadableAlternatives.mono more rest h.2⟩

end

theorem Readable.mono (more : ∀ name, word name → word' name) {p : Production}
    (h : Readable word p) : Readable word' p := by
  rw [readable_iff] at h ⊢
  exact ⟨h.1, ReadableAlternatives.mono more p h.2⟩

end Mono

end Readable

section Quoted

variable {level : Level} {outer : List Level}

theorem run_append (r : Reading) (s t : List Char) :
    run r (s ++ t) = (run r s).bind fun next => run next t := List.foldlM_append

theorem run_cons (r : Reading) (c : Char) (s : List Char) :
    run r (c :: s) = (step r c).bind fun next => run next s := rfl

/-- Whether a mark stays closed to the end, and the last character is not escaped. -/
def shut (mark : Char) : Bool → List Char → Bool
  | escaped, [] => !escaped
  | true, _ :: s => shut mark false s
  | false, c :: s => c != mark && shut mark (c == '\\') s

theorem run_shut {mark : Char} {s : List Char} {escaped : Bool} (h : shut mark escaped s)
    (raw : List Char) : run ⟨.quoted mark raw escaped, level, outer⟩ s =
      some ⟨.quoted mark (s.reverse ++ raw) false, level, outer⟩ := by
  induction s generalizing raw escaped with
  | nil =>
    cases escaped with
    | false => rfl
    | true => simp [shut] at h
  | cons c s ih =>
    cases escaped with
    | true =>
      have next := @ih false h (c :: raw)
      rw [run_cons, List.reverse_cons, List.append_assoc]
      exact next
    | false =>
      obtain ⟨other, rest⟩ := Bool.and_eq_true_iff.1 h
      have open_ : c ≠ mark := by simpa using other
      have next := ih rest (c :: raw)
      have one : step ⟨.quoted mark raw false, level, outer⟩ c =
          some ⟨.quoted mark (c :: raw) (c == '\\'), level, outer⟩ := if_neg open_
      rw [run_cons, one, List.reverse_cons, List.append_assoc]
      exact next

theorem run_quoted {mark : Char} {s : List Char} {i : Item} (h : shut mark false s)
    (hi : item? mark s = some i) :
    run ⟨.quoted mark [] false, level, outer⟩ (s ++ [mark]) =
      some ⟨.plain, level.push i, outer⟩ := by
  have last : step ⟨.quoted mark s.reverse false, level, outer⟩ mark =
      some ⟨.plain, level.push i, outer⟩ := by
    have close : step ⟨.quoted mark s.reverse false, level, outer⟩ mark =
        (item? mark s.reverse.reverse).map fun i => ⟨.plain, level.push i, outer⟩ := if_pos rfl
    rw [close, List.reverse_reverse, hi]
    rfl
  rw [run_append, run_shut h, List.append_nil, Option.bind_some, run_cons, last]
  rfl

theorem shut_literal (s : List Char) : shut '"' false (s.flatMap escapeLiteral) := by
  induction s with
  | nil => rfl
  | cons c s ih =>
    rw [List.flatMap_cons, escapeLiteral]
    by_cases hc : c = '"' ∨ c = '\\'
    · rw [if_pos hc]
      simpa [shut] using ih
    · obtain ⟨quote, backslash⟩ := not_or.1 hc
      have plain : (c == '\\') = false := by simp [backslash]
      rw [if_neg hc]
      simpa [shut, quote, plain] using ih

theorem spelled?_cons {c : Char} (s : List Char) (h : c ≠ '\\') :
    spelled? (c :: s) = (spelled? s).map ((c, false) :: ·) := by
  rw [spelled?]
  · cases spelled? s <;> rfl
  · simp [h]
  · simp [h]
  · simp [h]

theorem spelled?_literal (s : List Char) :
    ∃ marks, spelled? (s.flatMap escapeLiteral) = some marks ∧
    marks.map (·.1) = s := by
  induction s with
  | nil => exact ⟨[], rfl, rfl⟩
  | cons c s ih =>
    obtain ⟨marks, read, same⟩ := ih
    rw [List.flatMap_cons, escapeLiteral]
    by_cases hc : c = '"' ∨ c = '\\'
    · refine ⟨(c, true) :: marks, ?_, by rw [List.map_cons, same]⟩
      rw [if_pos hc]
      rcases hc with rfl | rfl <;> simp [spelled?, escape?, read]
    · refine ⟨(c, false) :: marks, ?_, by rw [List.map_cons, same]⟩
      rw [if_neg hc, List.singleton_append, spelled?_cons _ (not_or.1 hc).2, read]
      rfl

theorem item?_literal (s : String) :
    item? '"' (s.toList.flatMap escapeLiteral) = some (.text s) := by
  obtain ⟨marks, read, same⟩ := spelled?_literal s.toList
  simp [item?, read, same]

end Quoted

section Item

/-- A place where a new item may come. -/
def Waits (mode : Mode) : Prop := mode = .plain ∨ mode = .name

/-- From one level to another, with the groups outside it as they were. -/
def Reads (s : List Char) (first last : Level) : Prop :=
  ∀ outer, ∃ mode, Waits mode ∧ run ⟨.plain, first, outer⟩ s = some ⟨mode, last, outer⟩

variable {level : Level}

theorem step_space {mode : Mode} (h : Waits mode) (outer : List Level) :
    step ⟨mode, level, outer⟩ ' ' = some ⟨.plain, level, outer⟩ := by
  rcases h with rfl | rfl <;> rfl

theorem step_bar {mode : Mode} (h : Waits mode) (outer : List Level) :
    step ⟨mode, level, outer⟩ '|' = some ⟨.plain, level.bar, outer⟩ := by
  rcases h with rfl | rfl <;> rfl

theorem step_close {mode : Mode} {above : Level} (h : Waits mode) (outer : List Level) :
    step ⟨mode, level, above :: outer⟩ ')' =
      some ⟨.plain, above.push (.group level.close), outer⟩ := by
  rcases h with rfl | rfl <;> rfl

theorem reads_literal (s : String) :
    Reads (quoteLiteral s).toList level (level.push (.text s)) := by
  intro outer
  have shape : (quoteLiteral s).toList = '"' :: (s.toList.flatMap escapeLiteral ++ ['"']) := by
    simp [quoteLiteral]
  refine ⟨.plain, .inl rfl, ?_⟩
  rw [shape, run_cons]
  exact run_quoted (shut_literal _) (item?_literal s)

theorem reads_class {inside : Bool} {ranges : List (Char × Char)} {body : List Char}
    (hs : classText inside ranges = '[' :: (body ++ [']'])) (h : shut ']' false body)
    (hi : item? ']' body = some (.oneOf inside ranges)) :
    Reads (classText inside ranges) level (level.push (.oneOf inside ranges)) := by
  intro outer
  refine ⟨.plain, .inl rfl, ?_⟩
  rw [hs, run_cons]
  exact run_quoted h hi

def stringCharBody : List Char :=
  ['^', '"', '\\', '\\', '\\', 'x', '0', '0', '-', '\\', 'x', '1', 'F', '\\', 'x', '7', 'F']

theorem toList_stringChar : Item.stringChar.render.toList = '[' :: (stringCharBody ++ [']']) := by
  rw [Item.stringChar, Item.render, String.toList_ofList]
  decide

theorem reads_stringChar : Reads Item.stringChar.render.toList level (level.push .stringChar) := by
  have text := toList_stringChar
  rw [Item.stringChar, Item.render, String.toList_ofList] at text
  rw [Item.stringChar, Item.render, String.toList_ofList]
  exact reads_class text (by decide) (by decide)

theorem spellInClass_digit {c : Char} (hc : c.isDigit) : spellInClass c = [c] := by
  have marks : ¬ (c = '\\' ∨ c = ']' ∨ c = '^' ∨ c = '-') := by
    simp [isDigit_ne hc (d := '\\') rfl, isDigit_ne hc (d := ']') rfl, isDigit_ne hc (d := '^') rfl,
      isDigit_ne hc (d := '-') rfl]
  have printable : isControl c = false := by
    have digit : 48 ≤ c.toNat ∧ c.toNat ≤ 57 := by
      simpa [Char.isDigit, UInt32.le_iff_toNat_le] using hc
    simp [isControl]
    omega
  rw [spellInClass, if_neg marks, printable, if_neg Bool.false_ne_true]

theorem reads_digits {low high : Nat} (hl : low < 10) (hh : high < 10) :
    Reads (Item.digits low high).render.toList level (level.push (.digits low high)) := by
  have digit : ∀ d < 10, (Nat.digitChar d).isDigit := by decide
  have ha := digit low hl
  have hb := digit high hh
  rw [Item.digits, Item.render, String.toList_ofList]
  generalize Nat.digitChar low = a at *
  generalize Nat.digitChar high = b at *
  have close₁ := isDigit_ne ha (d := ']') rfl
  have close₂ := isDigit_ne hb (d := ']') rfl
  have escape₁ := isDigit_ne ha (d := '\\') rfl
  have escape₂ := isDigit_ne hb (d := '\\') rfl
  have plain₁ : (a == '\\') = false := by simp [escape₁]
  have plain₂ : (b == '\\') = false := by simp [escape₂]
  have caret := isDigit_ne ha (d := '^') rfl
  by_cases hab : a = b
  · subst hab
    have body : classText true [(a, a)] = '[' :: ([a] ++ [']']) := by
      simp [classText, spellRange, spellInClass_digit ha]
    refine reads_class body (by simp [shut, close₁, plain₁]) ?_
    simp [item?, spelled?_cons _ escape₁, spelled?, classOf, caret, ranges]
  · have body : classText true [(a, b)] = '[' :: ([a, '-', b] ++ [']']) := by
      simp [classText, spellRange, hab, spellInClass_digit ha, spellInClass_digit hb]
    refine reads_class body (by simp [shut, close₁, close₂, plain₁, plain₂]) ?_
    simp [item?, spelled?_cons _ escape₁, spelled?_cons _ escape₂,
      spelled?_cons _ (show '-' ≠ '\\' by decide), spelled?, classOf, caret, ranges]

theorem isRuleChar_step {c : Char} (hc : isRuleChar c) (outer : List Level) :
    step ⟨.plain, level, outer⟩ c = some ⟨.name, level.push (.ref (String.singleton c)), outer⟩ ∧
    ∀ name, step ⟨.name, level.push (.ref name), outer⟩ c =
      some ⟨.name, level.push (.ref (name.push c)), outer⟩ := by
  have other : ∀ d, isRuleChar d = false → c ≠ d := by
    intro d hd h
    rw [h, hd] at hc
    exact Bool.false_ne_true hc
  have marks : c ≠ ' ' ∧ c ≠ '"' ∧ c ≠ '[' ∧ c ≠ '(' ∧ c ≠ ')' ∧ c ≠ '|' ∧ c ≠ '?' :=
    ⟨other _ rfl, other _ rfl, other _ rfl, other _ rfl, other _ rfl, other _ rfl, other _ rfl⟩
  constructor
  · simp [step, marks, hc]
  · intro name
    simp [step, marks, hc, Level.push, Level.extend?]

theorem run_name {s : List Char} (hs : ∀ c ∈ s, isRuleChar c) (name : String)
    (outer : List Level) : run ⟨.name, level.push (.ref name), outer⟩ s =
      some ⟨.name, level.push (.ref (name ++ String.ofList s)), outer⟩ := by
  induction s generalizing name with
  | nil => simp [run]
  | cons c s ih =>
    obtain ⟨hc, hs⟩ := List.forall_mem_cons.1 hs
    have text : name ++ String.ofList (c :: s) = name.push c ++ String.ofList s := by
      rw [← String.toList_inj]
      simp
    rw [run_cons, (isRuleChar_step hc outer).2, Option.bind_some, ih hs, text]

theorem reads_name {name : String} (h : RuleWord name) :
    Reads name.toList level (level.push (.ref name)) := by
  intro outer
  obtain ⟨filled, word⟩ := h
  refine ⟨.name, .inr rfl, ?_⟩
  cases hn : name.toList with
  | nil => exact absurd (String.toList_eq_nil_iff.1 hn) filled
  | cons c s =>
    rw [hn] at word
    obtain ⟨hc, hs⟩ := List.forall_mem_cons.1 word
    have text : String.singleton c ++ String.ofList s = name := by
      rw [← String.toList_inj, hn]
      simp
    rw [run_cons, (isRuleChar_step hc outer).1, Option.bind_some, run_name hs, text]

def Level.pushAll (l : Level) (s : Sequence) : Level := { l with items := s.reverse ++ l.items }

@[simp] theorem pushAll_nil (l : Level) : l.pushAll [] = l := rfl

theorem pushAll_cons (l : Level) (i : Item) (s : Sequence) :
    l.pushAll (i :: s) = (l.push i).pushAll s := by
  simp [Level.pushAll, Level.push]

theorem run_then {s t : List Char} {a b : Level} (h : Reads s a b) (outer : List Level)
    {r : Reading} (ht : ∀ mode, Waits mode → run ⟨mode, b, outer⟩ t = some r) :
    run ⟨.plain, a, outer⟩ (s ++ t) = some r := by
  obtain ⟨mode, hmode, hs⟩ := h outer
  rw [run_append, hs, Option.bind_some]
  exact ht mode hmode

theorem reads_space {s t : List Char} {a b c : Level} (h : Reads s a b) (h' : Reads t b c) :
    Reads (s ++ ' ' :: t) a c := by
  intro outer
  obtain ⟨mode, hmode, ht⟩ := h' outer
  refine ⟨mode, hmode, run_then h outer fun m hm => ?_⟩
  rw [run_cons, step_space hm, Option.bind_some, ht]

mutual

theorem reads_item (i : Item) (h : ReadableItem RuleWord i) (level : Level) :
    Reads i.render.toList level (level.push i) := by
  cases i with
  | text s =>
    rw [Item.render]
    exact reads_literal s
  | oneOf inside ranges =>
    rw [ReadableItem] at h
    rcases h with h | ⟨low, high, hl, hh, h⟩
    · rw [h]
      exact reads_stringChar
    · rw [h]
      exact reads_digits hl hh
  | ref name =>
    rw [ReadableItem] at h
    rw [Item.render]
    exact reads_name h
  | group p =>
    rw [ReadableItem] at h
    have inner := reads_group p h.1 h.2 level
    rw [Item.render]
    intro outer
    refine ⟨.plain, .inl rfl, ?_⟩
    simpa using inner outer
  | optional p =>
    rw [ReadableItem] at h
    by_cases hp : p = [[.text "-"]]
    · subst hp
      intro outer
      refine ⟨.plain, .inl rfl, ?_⟩
      rw [Item.render, String.toList_append]
      refine run_then (reads_literal "-") outer fun mode hm => ?_
      rcases hm with rfl | rfl <;> rfl
    · have inner := reads_group p h.1 h.2 level
      intro outer
      refine ⟨.plain, .inl rfl, ?_⟩
      have text : (Item.optional p).render.toList =
          ("(" ++ renderAlternatives p ++ ")").toList ++ ['?'] := by simp [Item.render_optional hp]
      rw [text, run_append, inner outer]
      rfl

theorem reads_group (p : Production) (hp : p ≠ []) (h : ReadableAlternatives RuleWord p)
    (level : Level)
    (outer : List Level) :
    run ⟨.plain, level, outer⟩ ("(" ++ renderAlternatives p ++ ")").toList =
      some ⟨.plain, level.push (.group p), outer⟩ := by
  obtain ⟨last, close, read⟩ := reads_alternatives p hp h []
  have shape : ("(" ++ renderAlternatives p ++ ")").toList =
      '(' :: ((renderAlternatives p).toList ++ [')']) := by simp
  rw [shape, run_cons]
  refine run_then read (level :: outer) fun mode hm => ?_
  rw [run_cons, step_close hm, close]
  rfl

theorem reads_sequence (s : List Item) (h : ReadableSequence RuleWord s) (level : Level) :
    Reads (renderSequence s).toList level (level.pushAll s) := by
  cases s with
  | nil => exact fun outer => ⟨.plain, .inl rfl, by rw [renderSequence]; rfl⟩
  | cons i rest =>
    rw [ReadableSequence] at h
    have first := reads_item i h.1 level
    cases rest with
    | nil =>
      rw [renderSequence, pushAll_cons, pushAll_nil]
      exact first
    | cons j rest =>
      have more := reads_sequence (j :: rest) h.2 (level.push i)
      have shape : (renderSequence (i :: j :: rest)).toList =
          i.render.toList ++ ' ' :: (renderSequence (j :: rest)).toList := by
        rw [renderSequence]
        · simp
        · simp
      rw [shape, pushAll_cons]
      exact reads_space first more

theorem reads_alternatives (p : List (List Item)) (hp : p ≠ [])
    (h : ReadableAlternatives RuleWord p)
    (before : Production) : ∃ last : Level, last.close = before.reverse ++ p ∧
      Reads (renderAlternatives p).toList ⟨before, []⟩ last := by
  cases p with
  | nil => exact absurd rfl hp
  | cons s rest =>
    rw [ReadableAlternatives] at h
    have first := reads_sequence s h.1 ⟨before, []⟩
    cases rest with
    | nil =>
      refine ⟨_, ?_, by rw [renderAlternatives]; exact first⟩
      simp [Level.pushAll, Level.close, Level.bar]
    | cons t rest =>
      obtain ⟨last, close, more⟩ := reads_alternatives (t :: rest) (by simp) h.2 (s :: before)
      refine ⟨last, by rw [close]; simp, ?_⟩
      have shape : (renderAlternatives (s :: t :: rest)).toList =
          (renderSequence s).toList ++
            ' ' :: '|' :: ' ' :: (renderAlternatives (t :: rest)).toList := by
        rw [renderAlternatives]
        · simp
        · simp
      have bar : (Level.pushAll ⟨before, []⟩ s).bar = ⟨s :: before, []⟩ := by
        simp [Level.pushAll, Level.bar]
      intro outer
      obtain ⟨mode, hmode, hmore⟩ := more outer
      refine ⟨mode, hmode, ?_⟩
      rw [shape]
      refine run_then first outer fun m hm => ?_
      rw [run_cons, step_space hm, Option.bind_some, run_cons, step_bar (.inl rfl),
        Option.bind_some,
        run_cons, step_space (.inl rfl), Option.bind_some, bar, hmore]

end

/-- The text of a production reads back as the production. -/
theorem production?_render {p : Production} (h : Readable RuleWord p) :
    production? p.render.toList = some p := by
  obtain ⟨hp, h⟩ := readable_iff.1 h
  obtain ⟨last, close, read⟩ := reads_alternatives p hp h []
  obtain ⟨mode, hmode, read⟩ := read []
  have start : run ⟨.plain, .fresh, []⟩ p.render.toList = some ⟨mode, last, []⟩ := read
  rw [production?, start, Option.bind_some]
  rcases hmode with rfl | rfl <;> simp [finish?, close]

end Item

end FieldSchema.Grammar.Notation
