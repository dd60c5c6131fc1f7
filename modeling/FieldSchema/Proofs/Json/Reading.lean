import FieldSchema.Json.Reader
import FieldSchema.Proofs.Json.Pieces
import FieldSchema.Proofs.Json.Token
import Mathlib.Data.List.Forall2

/-! Texts that spell values. Wherever a value is expected, the reader takes such a text as a whole
and has its value, unless too many containers are open by then. Containers of spelled values are
spelled in turn, and gaps between the tokens do not matter. -/
namespace FieldSchema.Json

open NumberLiteral (Ends)

section Depth

mutual

def depth : Json → Nat
  | array items => itemsDepth items + 1
  | object members => membersDepth members + 1
  | _ => 0

def itemsDepth : List Json → Nat
  | [] => 0
  | v :: rest => max v.depth (itemsDepth rest)

def membersDepth : List (Text × Json) → Nat
  | [] => 0
  | (_, v) :: rest => max v.depth (membersDepth rest)

end

/-- What a reading that opens `n` containers at once comes to. -/
def within (n : Nat) (x : Except ReadError Json) : Except ReadError Json :=
  if n ≤ depthLimit then x else .error .tooDeep

theorem within_of_le {n : Nat} (h : n ≤ depthLimit) (x : Except ReadError Json) :
    within n x = x := if_pos h

theorem within_of_lt {n : Nat} (h : depthLimit < n) (x : Except ReadError Json) :
    within n x = .error .tooDeep := if_neg (Nat.not_le.2 h)

theorem within_within (m n : Nat) (x : Except ReadError Json) :
    within m (within n x) = within (max m n) x := by
  rcases le_or_gt m depthLimit with hm | hm
  · rw [within_of_le hm]
    rcases le_or_gt n depthLimit with hn | hn
    · rw [within_of_le hn, within_of_le (by omega)]
    · rw [within_of_lt hn, within_of_lt (by omega)]
  · rw [within_of_lt hm, within_of_lt (by omega)]

theorem within_congr {n : Nat} {x y : Except ReadError Json} (h : n ≤ depthLimit → x = y) :
    within n x = within n y := by
  rcases le_or_gt n depthLimit with hn | hn
  · rw [h hn]
  · rw [within_of_lt hn, within_of_lt hn]

end Depth

namespace Reading

variable {r next : Reading} {s rest w gap : List Char} {l : Lexeme} {frames : List Frame}

theorem run_startsWith (h : StartsWith l rest s) : run r s =
    match r.step ⟨l, s, rest⟩ with
    | .ok next => run next rest
    | .error e => .error e := by
  rw [StartsWith] at h
  rw [run]
  split
  next hn => exact absurd (h.symm.trans hn) (by simp)
  next t hn =>
    obtain rfl := Option.some.inj (h.symm.trans hn)
    rfl

theorem run_step (h : StartsWith l rest s) (hs : r.step ⟨l, s, rest⟩ = .ok next) :
    run r s = run next rest := by
  rw [run_startsWith h, hs]

/-- Characters that tokens may have between them. -/
def Gap (s : List Char) : Prop := ∀ c ∈ s, isGap c

theorem nextToken?_gap (hg : Gap gap) : nextToken? (gap ++ s) = nextToken? s := by
  rw [nextToken?, nextToken?, List.dropWhile_append_of_pos hg]

theorem gap_of_noToken (h : nextToken? s = none) : Gap s := by
  cases after : s.dropWhile isGap with
  | nil => exact List.dropWhile_eq_nil_iff.1 after
  | cons c rest =>
    rw [nextToken?, after] at h
    exact absurd h (Option.some_ne_none _)

theorem run_gap (hg : Gap gap) : run r (gap ++ s) = run r s := by
  rw [run, run, nextToken?_gap hg]

def AtValue (e : Expected) : Prop := e = .value ∨ e = .firstItem

def AtKey (e : Expected) (members : List (Text × Json)) : Prop :=
  e = .key members ∨ e = .firstKey ∧ members = []

theorem step_begin {e : Expected} {t : Token} (he : AtValue e) (hl : t.lexeme ≠ .closeBracket) :
    step ⟨e, frames⟩ t = begin ⟨e, frames⟩ t := by
  rcases he with rfl | rfl
  · rfl
  · unfold step
    split <;> simp_all

end Reading

open Reading

/-- Where a value may come next, this text is read as that value, and opens so many containers at
once. -/
def SpellsDeep (depth : Nat) (w : List Char) (v : Json) : Prop := ∀ e frames rest, AtValue e →
  frames.length ≤ depthLimit → Ends rest → run ⟨e, frames⟩ (w ++ rest) =
    within (frames.length + depth) (run ⟨.afterValue v, frames⟩ rest)

/-- A text of a value that nests no deeper than the value. -/
def Spells (w : List Char) (v : Json) : Prop := SpellsDeep v.depth w v

/-- Where a key may come next, this text is read as that key with its colon. -/
def SpellsKey (w : List Char) (key : Text) : Prop := ∀ e members frames rest, AtKey e members →
  run ⟨e, frames⟩ (w ++ rest) = run ⟨.value, .member members key :: frames⟩ rest

section Gaps

variable {w gap : List Char} {v : Json} {key : Text}

theorem ends_append (hg : Gap gap) {rest : List Char} (hr : Ends rest) : Ends (gap ++ rest) := by
  have blank : ∀ d, isGap d → ¬ d.isDigit ∧ d ≠ '.' ∧ d ≠ 'e' ∧ d ≠ 'E' := by
    intro d hd
    simp only [isGap, Bool.or_eq_true, beq_iff_eq] at hd
    rcases hd with ((rfl | rfl) | rfl) | rfl <;> decide
  cases gap with
  | nil => exact hr
  | cons c gap =>
    intro d hd
    obtain rfl := Option.some.inj hd
    exact blank _ (hg _ List.mem_cons_self)

theorem SpellsDeep.after_gap {n : Nat} (hg : Gap gap) (h : SpellsDeep n w v) :
    SpellsDeep n (gap ++ w) v := by
  intro e frames rest he hf hr
  rw [List.append_assoc, run_gap hg, h e frames rest he hf hr]

theorem SpellsKey.after_gap (hg : Gap gap) (h : SpellsKey w key) : SpellsKey (gap ++ w) key := by
  intro e members frames rest he
  rw [List.append_assoc, run_gap hg, h e members frames rest he]

end Gaps

section Scalars

variable {w gap : List Char} {v : Json} {s : Text}

theorem spells_of_scalar (hv : v.depth = 0)
    (h : ∀ rest, Ends rest → StartsWith (.scalar v) rest (w ++ rest)) : Spells w v := by
  intro e frames rest he hf hr
  rw [hv, within_of_le (by simpa using hf)]
  refine run_step (h rest hr) ?_
  rw [step_begin he (by simp)]
  rfl

theorem spells_null : Spells "null".toList .null :=
  spells_of_scalar rfl fun _ _ => startsWith_null

theorem spells_bool (b : Bool) : Spells (if b then "true".toList else "false".toList) (.bool b) :=
  spells_of_scalar rfl fun _ _ => startsWith_bool b

theorem spells_int {n : Int} (h : Legible n) : Spells (integerText n) (.int n) := by
  refine spells_of_scalar rfl fun rest hr => ?_
  have text : integerText n =
      (if decide (n < 0) then ['-'] else []) ++ Nat.toDigits 10 n.natAbs := by
    by_cases hn : n < 0
    · have size : (-n).toNat = n.natAbs := by omega
      rw [integerText_of_neg hn, decide_eq_true hn, if_pos rfl, size]
      rfl
    · have size : n.toNat = n.natAbs := by omega
      rw [integerText_of_nonneg (by omega), decide_eq_false hn, if_neg (by simp), size]
      rfl
  have read := NumberLiteral.scan?_integer (decide (n < 0))
    (NumberLiteral.whole_toDigits n.natAbs) hr
  have value : numberLexeme ⟨decide (n < 0), Nat.toDigits 10 n.natAbs, none, none⟩ =
      .scalar (.int n) := by
    have short : ¬ digitLimit < (Nat.toDigits 10 n.natAbs).length := Nat.not_lt.2 h
    have whole : NumberLiteral.isInteger
        ⟨decide (n < 0), Nat.toDigits 10 n.natAbs, none, none⟩ = true := rfl
    rw [numberLexeme, whole, if_pos rfl, if_neg short, NumberLiteral.toInt,
      NumberLiteral.natOfDigits_toDigits]
    by_cases hn : n < 0
    · rw [decide_eq_true hn, if_pos rfl]
      congr 2
      omega
    · rw [decide_eq_false hn, if_neg (by simp)]
      congr 2
      omega
  rw [text, List.append_assoc, ← value]
  exact startsWith_number read

theorem spells_real {x : Binary64} (h : ∀ rest, Ends rest → ∃ l,
    NumberLiteral.scan? (w ++ rest) = some (l, rest) ∧ l.isInteger = false ∧ l.toBinary64 = x) :
    Spells w (.real x) := by
  refine spells_of_scalar rfl fun rest hr => ?_
  obtain ⟨l, read, real, value⟩ := h rest hr
  have lexeme : numberLexeme l = .scalar (.real x) := by
    rw [numberLexeme, real, value]
    rfl
  rw [← lexeme]
  exact startsWith_number read

theorem spells_of_string (h : ∀ rest, StartsWith (.string s) rest (w ++ rest)) :
    Spells w (.string s) := by
  intro e frames rest he hf _
  have flat : (Json.string s).depth = 0 := rfl
  rw [flat, within_of_le (by simpa using hf)]
  refine run_step (h rest) ?_
  rw [step_begin he (by simp)]
  rfl

theorem spellsKey_of_string (h : ∀ rest, StartsWith (.string s) rest (w ++ rest)) (hg : Gap gap) :
    SpellsKey (w ++ ':' :: gap) s := by
  intro e members frames rest he
  have key : run ⟨e, frames⟩ (w ++ (':' :: (gap ++ rest))) =
      run ⟨.colon members s, frames⟩ (':' :: (gap ++ rest)) := by
    refine run_step (h _) ?_
    rcases he with rfl | ⟨rfl, rfl⟩ <;> rfl
  have colon : run ⟨.colon members s, frames⟩ (':' :: (gap ++ rest)) =
      run ⟨.value, .member members s :: frames⟩ (gap ++ rest) :=
    run_step (startsWith_mark (by decide) rfl) rfl
  rw [List.append_assoc, List.cons_append, key, colon, run_gap hg]

theorem startsWith_quoted (s rest : List Char) : StartsWith (.string (Text.ofList s)) rest
    ('"' :: s.flatMap Escape.verbatim ++ ['"'] ++ rest) := by
  have shape : '"' :: s.flatMap Escape.verbatim ++ ['"'] ++ rest =
      '"' :: (s.flatMap Escape.verbatim ++ '"' :: rest) := by simp
  rw [shape]
  exact startsWith_string s

theorem spells_string (s : List Char) :
    Spells ('"' :: s.flatMap Escape.verbatim ++ ['"']) (.string (Text.ofList s)) :=
  spells_of_string (startsWith_quoted s)

theorem spellsKey_keyText (name : String) : SpellsKey (keyText name) (Text.ofString name) := by
  rw [keyText, toList_text_string, Escape.string, String.toList_ofList]
  exact spellsKey_of_string (startsWith_quoted name.toList) (List.forall_mem_nil _)

end Scalars

section Containers

variable {frames : List Frame} {rest gap : List Char}

theorem ends_cons {c : Char} (h : c = ',' ∨ c = ']' ∨ c = '\x7d') : Ends (c :: rest) := by
  intro d hd
  obtain rfl := Option.some.inj hd
  rcases h with rfl | rfl | rfl <;> decide

/-- A value as it is written: its text, how many containers the text opens at once, and what is read
off it. -/
structure Part where
  text : List Char
  depth : Nat
  value : Json

def Part.Sound (p : Part) : Prop := SpellsDeep p.depth p.text p.value

/-- How many containers are open at once in texts one after the other. -/
def deepest : List Part → Nat
  | [] => 0
  | p :: ps => max p.depth (deepest ps)

theorem run_items {ps : List Part} (h : ∀ p ∈ ps, p.Sound) (hf : frames.length < depthLimit)
    (hg : Gap gap) (v : Json) (before : List Json) :
    Ends ((ps.map Part.text).flatMap (',' :: ·) ++ (gap ++ ']' :: rest)) ∧
      run ⟨.afterValue v, .array before :: frames⟩
          ((ps.map Part.text).flatMap (',' :: ·) ++ (gap ++ ']' :: rest)) =
        within (frames.length + 1 + deepest ps)
          (run ⟨.afterValue (.array (before.reverse ++ v :: ps.map Part.value)), frames⟩ rest) := by
  induction ps generalizing v before with
  | nil =>
    have bracket : run ⟨.afterValue v, .array before :: frames⟩ (']' :: rest) =
        run ⟨.afterValue (.array (before.reverse ++ [v])), frames⟩ rest := by
      rw [← List.reverse_cons]
      exact run_step (startsWith_mark (by decide) rfl) rfl
    refine ⟨ends_append hg (ends_cons (by simp)), ?_⟩
    rw [List.map_nil, List.flatMap_nil, List.nil_append, run_gap hg, bracket, deepest,
      within_of_le (by omega), List.map_nil]
  | cons p ps ih =>
    obtain ⟨hp, h⟩ := List.forall_mem_cons.1 h
    obtain ⟨ends, more⟩ := ih h p.value (v :: before)
    have comma : run ⟨.afterValue v, .array before :: frames⟩
        (',' :: (p.text ++ ((ps.map Part.text).flatMap (',' :: ·) ++ (gap ++ ']' :: rest)))) =
        run ⟨.value, .array (v :: before) :: frames⟩
          (p.text ++ ((ps.map Part.text).flatMap (',' :: ·) ++ (gap ++ ']' :: rest))) :=
      run_step (startsWith_mark (by decide) rfl) rfl
    have item := hp .value (.array (v :: before) :: frames) _ (.inl rfl) hf ends
    rw [List.reverse_cons, List.append_assoc] at more
    rw [List.map_cons, List.flatMap_cons, List.cons_append, List.cons_append, List.append_assoc]
    refine ⟨ends_cons (by simp), ?_⟩
    rw [comma, item, more, within_within, deepest, List.length_cons, ← Nat.add_max_add_left]
    rfl

/-- A mark that opens a container is taken unless as many are open as there may be. -/
theorem run_opening {e : Expected} (he : AtValue e) {l : Lexeme} (hl : l ≠ .closeBracket)
    {s : List Char} {next : Reading} (starts : StartsWith l rest s)
    (opens : ∀ t : Token, t.lexeme = l → begin ⟨e, frames⟩ t =
      if depthLimit ≤ frames.length then .error .tooDeep else .ok next) :
    run ⟨e, frames⟩ s = within (frames.length + 1) (run next rest) := by
  rw [run_startsWith starts, step_begin he hl, opens _ rfl, within]
  by_cases deep : depthLimit ≤ frames.length
  · rw [if_pos deep, if_neg (by omega)]
  · rw [if_neg deep, if_pos (by omega)]

theorem run_openBracket {e : Expected} (he : AtValue e) (s : List Char) :
    run ⟨e, frames⟩ ('[' :: s) =
      within (frames.length + 1) (run ⟨.firstItem, .array [] :: frames⟩ s) := by
  refine run_opening he (by simp) (startsWith_mark (l := .openBracket) (by decide) rfl) ?_
  intro t ht
  rw [begin, ht]

theorem spells_items {p : Part} {ps : List Part} (hp : p.Sound) (h : ∀ q ∈ ps, q.Sound)
    (hg : Gap gap) : SpellsDeep (deepest (p :: ps) + 1)
      ('[' :: commaSeparated ((p :: ps).map Part.text) ++ (gap ++ [']']))
      (.array ((p :: ps).map Part.value)) := by
  intro e frames rest he hf _
  have shape : '[' :: commaSeparated ((p :: ps).map Part.text) ++ (gap ++ [']']) ++ rest =
      '[' :: (p.text ++ ((ps.map Part.text).flatMap (',' :: ·) ++ (gap ++ ']' :: rest))) := by
    rw [List.map_cons, commaSeparated_cons]
    simp
  have nesting : frames.length + (deepest (p :: ps) + 1) =
      max (frames.length + 1) (frames.length + 1 + max p.depth (deepest ps)) := by
    rw [deepest]
    omega
  rw [shape, run_openBracket he, nesting, ← within_within]
  refine within_congr fun hd => ?_
  obtain ⟨ends, more⟩ := run_items h hd hg p.value []
  rw [hp .firstItem (.array [] :: frames) _ (.inr rfl) hd ends, more, within_within,
    List.length_cons, Nat.add_max_add_left]
  rfl

theorem spells_noItems : Spells ['[', ']'] (.array []) := by
  intro e frames rest he _ _
  rw [List.cons_append, run_openBracket he]
  exact within_congr fun _ => run_step (startsWith_mark (by decide) rfl) rfl

theorem exists_parts {ws : List (List Char)} {vs : List Json} (h : List.Forall₂ Spells ws vs) :
    ∃ ps : List Part, (∀ p ∈ ps, p.Sound) ∧ ps.map Part.text = ws ∧ ps.map Part.value = vs ∧
      deepest ps = itemsDepth vs := by
  induction h with
  | nil => exact ⟨[], by simp, rfl, rfl, rfl⟩
  | @cons w v ws vs hw _ ih =>
    obtain ⟨ps, sound, rfl, rfl, depth⟩ := ih
    refine ⟨⟨w, v.depth, v⟩ :: ps, List.forall_mem_cons.2 ⟨hw, sound⟩, rfl, rfl, ?_⟩
    rw [deepest, depth, itemsDepth]

theorem spells_array {ws : List (List Char)} {vs : List Json} (h : List.Forall₂ Spells ws vs) :
    Spells ('[' :: commaSeparated ws ++ [']']) (.array vs) := by
  obtain ⟨ps, sound, rfl, rfl, nesting⟩ := exists_parts h
  cases ps with
  | nil => exact spells_noItems
  | cons p ps =>
    obtain ⟨first, others⟩ := List.forall_mem_cons.1 sound
    rw [Spells, depth, ← nesting]
    exact spells_items first others (List.forall_mem_nil _)

/-- A member as it is written: in front of its value its key, with the colon. -/
structure Slot extends Part where
  front : List Char
  key : Text

namespace Slot

def written (m : Slot) : List Char := m.front ++ m.text

def member (m : Slot) : Text × Json := (m.key, m.value)

/-- The parts of the text spell the key and the value. -/
structure Sound (m : Slot) : Prop where
  key : SpellsKey m.front m.key
  value : m.toPart.Sound

theorem Sound.run {m : Slot} (h : m.Sound) {e : Expected} {members : List (Text × Json)}
    (he : AtKey e members) (hf : frames.length < depthLimit) (hr : Ends rest) :
    run ⟨e, frames⟩ (m.written ++ rest) = within (frames.length + 1 + m.depth)
      (run ⟨.afterValue m.value, .member members m.key :: frames⟩ rest) := by
  rw [written, List.append_assoc, h.key e members frames _ he,
    h.value .value (.member members m.key :: frames) rest (.inl rfl) hf hr]
  rfl

end Slot

/-- The members after a number of them have been read. -/
def putAll (more : List (Text × Json)) (members : List (Text × Json)) : List (Text × Json) :=
  more.foldl (fun ms m => put m.1 m.2 ms) members

theorem put_of_notMem {key : Text} {members : List (Text × Json)} (v : Json)
    (h : key ∉ members.map (·.1)) : put key v members = members ++ [(key, v)] := by
  induction members with
  | nil => rfl
  | cons m rest ih =>
    rw [List.map_cons, List.mem_cons, not_or] at h
    rw [put, if_neg (Ne.symm h.1), ih h.2, List.cons_append]

/-- Members with distinct keys stand in the order in which they were read. -/
theorem putAll_eq {more members : List (Text × Json)}
    (h : ((members ++ more).map (·.1)).Nodup) : putAll more members = members ++ more := by
  induction more generalizing members with
  | nil => simp [putAll]
  | cons m more ih =>
    have new : m.1 ∉ members.map (·.1) := by
      intro hm
      rw [List.map_append] at h
      exact (List.nodup_append.1 h).2.2 _ hm _ (by simp) rfl
    have step : putAll (m :: more) members = putAll more (put m.1 m.2 members) := rfl
    rw [step, put_of_notMem _ new, ih (by simpa using h)]
    simp

/-- What comes after a member: the closing brace, or a comma and the next member. -/
theorem run_members {slots : List Slot} (h : ∀ m ∈ slots, m.Sound) (hf : frames.length < depthLimit)
    (hg : Gap gap) (m : Slot) (before : List (Text × Json)) :
    Ends ((slots.map Slot.written).flatMap (',' :: ·) ++ (gap ++ '\x7d' :: rest)) ∧
      run ⟨.afterValue m.value, .member before m.key :: frames⟩
          ((slots.map Slot.written).flatMap (',' :: ·) ++ (gap ++ '\x7d' :: rest)) =
        within (frames.length + 1 + deepest (slots.map Slot.toPart))
          (run ⟨.afterValue (.object (putAll ((m :: slots).map Slot.member) before)), frames⟩
            rest) := by
  induction slots generalizing m before with
  | nil =>
    refine ⟨ends_append hg (ends_cons (by simp)), ?_⟩
    rw [List.map_nil, List.flatMap_nil, List.nil_append, run_gap hg, List.map_nil, deepest,
      within_of_le (by omega)]
    exact run_step (startsWith_mark (by decide) rfl) rfl
  | cons n slots ih =>
    obtain ⟨hn, h⟩ := List.forall_mem_cons.1 h
    obtain ⟨ends, more⟩ := ih h n (put m.key m.value before)
    have comma : run ⟨.afterValue m.value, .member before m.key :: frames⟩
        (',' :: (n.written ++
          ((slots.map Slot.written).flatMap (',' :: ·) ++ (gap ++ '\x7d' :: rest)))) =
        run ⟨.key (put m.key m.value before), frames⟩
          (n.written ++ ((slots.map Slot.written).flatMap (',' :: ·) ++ (gap ++ '\x7d' :: rest))) :=
      run_step (startsWith_mark (by decide) rfl) rfl
    rw [List.map_cons, List.flatMap_cons, List.cons_append, List.cons_append, List.append_assoc]
    refine ⟨ends_cons (by simp), ?_⟩
    rw [comma, hn.run (.inl rfl) hf ends, more, within_within, Nat.add_max_add_left]
    rfl

theorem run_openBrace {e : Expected} (he : AtValue e) (s : List Char) :
    run ⟨e, frames⟩ ('\x7b' :: s) =
      within (frames.length + 1) (run ⟨.firstKey, frames⟩ s) := by
  refine run_opening he (by simp) (startsWith_mark (l := .openBrace) (by decide) rfl) ?_
  intro t ht
  rw [begin, ht]

/-- Members of an object, with a gap before the closing brace. The last value of a key counts. -/
theorem spells_members {m : Slot} {slots : List Slot} (hm : m.Sound) (h : ∀ m ∈ slots, m.Sound)
    (hg : Gap gap) : SpellsDeep (deepest ((m :: slots).map Slot.toPart) + 1)
      ('\x7b' :: commaSeparated ((m :: slots).map Slot.written) ++ (gap ++ ['\x7d']))
      (.object (putAll ((m :: slots).map Slot.member) [])) := by
  intro e frames rest he hf _
  have shape : '\x7b' :: commaSeparated ((m :: slots).map Slot.written) ++ (gap ++ ['\x7d']) ++
        rest =
      '\x7b' :: (m.written ++
        ((slots.map Slot.written).flatMap (',' :: ·) ++ (gap ++ '\x7d' :: rest))) := by
    rw [List.map_cons, commaSeparated_cons]
    simp
  have nesting : frames.length + (deepest ((m :: slots).map Slot.toPart) + 1) =
      max (frames.length + 1)
        (frames.length + 1 + max m.depth (deepest (slots.map Slot.toPart))) := by
    rw [List.map_cons, deepest]
    omega
  rw [shape, run_openBrace he, nesting, ← within_within]
  refine within_congr fun hd => ?_
  obtain ⟨ends, more⟩ := run_members h hd hg m []
  rw [hm.run (.inr ⟨rfl, rfl⟩) hd ends, more, within_within, Nat.add_max_add_left]

theorem spells_noMembers : Spells ['\x7b', '\x7d'] (.object []) := by
  intro e frames rest he _ _
  rw [List.cons_append, run_openBrace he]
  exact within_congr fun _ => run_step (startsWith_mark (by decide) rfl) rfl

/-- A member written without gaps: its key, the text of its value, and the value. -/
structure Entry where
  name : String
  text : List Char
  value : Json

namespace Entry

def key (m : Entry) : Text := Text.ofString m.name

def written (m : Entry) : List Char := keyText m.name ++ m.text

def slot (m : Entry) : Slot := ⟨⟨m.text, m.value.depth, m.value⟩, keyText m.name, m.key⟩

theorem deepest_slots (entries : List Entry) :
    deepest ((entries.map slot).map Slot.toPart) =
      membersDepth (entries.map fun m => (m.key, m.value)) := by
  induction entries with
  | nil => rfl
  | cons m entries ih =>
    rw [List.map_cons, List.map_cons, List.map_cons, deepest, ih, membersDepth]
    rfl

end Entry

theorem spells_object {entries : List Entry} (h : ∀ m ∈ entries, Spells m.text m.value)
    (hn : (entries.map (·.key)).Nodup) :
    Spells ('\x7b' :: commaSeparated (entries.map Entry.written) ++ ['\x7d'])
      (.object (entries.map fun m => (m.key, m.value))) := by
  have members : (entries.map Entry.slot).map Slot.member =
      entries.map fun m => (m.key, m.value) := by
    rw [List.map_map]
    rfl
  have written : (entries.map Entry.slot).map Slot.written = entries.map Entry.written := by
    rw [List.map_map]
    rfl
  have all : putAll (entries.map fun m => (m.key, m.value)) [] =
      entries.map fun m => (m.key, m.value) := by
    refine putAll_eq ?_
    rw [List.nil_append, List.map_map]
    exact hn
  rw [Spells, depth, ← Entry.deepest_slots, ← all, ← members, ← written]
  cases entries with
  | nil => exact spells_noMembers
  | cons m entries =>
    have sound : ∀ n ∈ m :: entries, n.slot.Sound := fun n hn => ⟨spellsKey_keyText n.name, h n hn⟩
    obtain ⟨first, others⟩ := List.forall_mem_cons.1 sound
    exact spells_members first (List.forall_mem_map.2 others) (List.forall_mem_nil _)

end Containers

/-- A text that spells a value is read as that value, or nests too deep. -/
theorem SpellsDeep.read {n : Nat} {w : List Char} {v : Json} (h : SpellsDeep n w v) :
    Json.read w = within n (.ok v) := by
  have done : run ⟨.afterValue v, []⟩ [] = .ok v := by
    rw [run]
    rfl
  have whole := h .value [] [] (.inl rfl) (Nat.zero_le _) (by simp)
  rw [List.append_nil, done, List.length_nil, Nat.zero_add] at whole
  unfold Json.read
  split
  next t =>
    -- No value starts with a byte order mark.
    have stray : StartsWith .stray [] ('\ufeff' :: t) := rfl
    rw [run_startsWith stray, within] at whole
    by_cases hd : n ≤ depthLimit
    · rw [if_pos hd] at whole
      exact absurd whole nofun
    · rw [if_neg hd] at whole
      exact absurd whole nofun
  next => exact whole

theorem Spells.read {w : List Char} {v : Json} (h : Spells w v) :
    Json.read w = within v.depth (.ok v) := SpellsDeep.read h

theorem Spells.read_of_shallow {w : List Char} {v : Json} (h : Spells w v)
    (shallow : Json.read w ≠ .error .tooDeep) : Json.read w = .ok v := by
  rw [h.read, within] at shallow ⊢
  split
  next => rfl
  next deep => exact absurd (if_neg deep) shallow

end FieldSchema.Json
