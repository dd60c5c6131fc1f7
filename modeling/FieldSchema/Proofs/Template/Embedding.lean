import FieldSchema.Proofs.Template.Reveal
import FieldSchema.Template.Placeholder

/-! Revealed text inside other texts. What is revealed on one line has no curly quotes, which would
be straightened once more, and no line breaks. So texts that are joined by a separator with a line
break in front come apart again. -/
namespace FieldSchema

section Splitting

variable {w : Char} {word before rest : List Char}

namespace Search

theorem splitAt?_of_notMem (h : w ∉ before) : splitAt? (w :: word) before = none := by
  induction before with
  | nil => rfl
  | cons c s ih =>
    obtain ⟨hc, hs⟩ := not_or.1 (mt List.mem_cons.2 h)
    simp [splitAt?, after?, hc, ih hs]

theorem splitAt?_first (h : w ∉ before) :
    splitAt? (w :: word) (before ++ (w :: word ++ rest)) = some (before, rest) := by
  induction before with
  | nil =>
    have here := after?_append (w :: word) rest
    rw [List.cons_append] at here
    rw [List.nil_append, List.cons_append, splitAt?, here]
  | cons c s ih =>
    obtain ⟨hc, hs⟩ := not_or.1 (mt List.mem_cons.2 h)
    rw [List.cons_append, splitAt?, ih hs]
    simp [after?, hc]

/-- The texts between the places of a word that starts with `w`, from the left. -/
def split (w : Char) (word s : List Char) : List (List Char) :=
  match _h : splitAt? (w :: word) s with
  | none => [s]
  | some (before, rest) => before :: split w word rest
termination_by s.length
decreasing_by
  rw [eq_append_of_splitAt? _h]
  simp only [List.length_append, List.length_cons]
  omega

/-- Texts without the first character of the word come apart where they were put together. -/
theorem split_intercalate {texts : List (List Char)} (some_text : texts ≠ [])
    (h : ∀ t ∈ texts, w ∉ t) : split w word ((w :: word).intercalate texts) = texts := by
  induction texts with
  | nil => exact absurd rfl some_text
  | cons t texts ih =>
    obtain ⟨here, there⟩ := List.forall_mem_cons.1 h
    cases texts with
    | nil =>
      rw [List.intercalate_singleton, split]
      split
      next => rfl
      next found => simp [splitAt?_of_notMem here] at found
    | cons u texts =>
      rw [List.intercalate_cons_cons, List.append_assoc, split, splitAt?_first here]
      exact congrArg (t :: ·) (ih (by simp) there)

end Search

end Splitting

theorem Json.Layout.blank_inline : Layout.inline.Blank := trivial

namespace Template

open Json

/-- Without curly quotes and line breaks. -/
def Inert (s : List Char) : Prop := ∀ c ∈ s, isCurlyQuote c.toNat = false ∧ c ≠ '\n'

instance : DecidablePred Inert := fun s =>
  List.decidableBAll (fun c : Char => isCurlyQuote c.toNat = false ∧ c ≠ '\n') s

namespace Inert

variable {s t : List Char} {n : Nat}

theorem append (hs : Inert s) (ht : Inert t) : Inert (s ++ t) := List.forall_mem_append.2 ⟨hs, ht⟩

theorem flatMap {α : Type} {f : α → List Char} {l : List α} (h : ∀ a ∈ l, Inert (f a)) :
    Inert (l.flatMap f) := List.forall_mem_flatMap.2 h

theorem of_ascii (h : ∀ c ∈ s, c.toNat < 0x80 ∧ c ≠ '\n') : Inert s := by
  intro c hc
  obtain ⟨small, line⟩ := h c hc
  refine ⟨?_, line⟩
  simp only [isCurlyQuote, Bool.or_eq_false_iff, beq_eq_false_iff_ne]
  omega

/-- Straightening changes nothing. -/
theorem straight (h : Inert s) : s.map straight = s := by
  have each : ∀ c ∈ s, Template.straight c = id c := by
    intro c hc
    rw [Template.straight, (h c hc).1]
    rfl
  rw [List.map_congr_left each, List.map_id]

theorem straight_intercalate {separator : List Char} {texts : List (List Char)}
    (hs : separator.map Template.straight = separator) (h : ∀ t ∈ texts, Inert t) :
    (separator.intercalate texts).map Template.straight = separator.intercalate texts := by
  induction texts with
  | nil => rfl
  | cons t texts ih =>
    obtain ⟨here, there⟩ := List.forall_mem_cons.1 h
    cases texts with
    | nil => rw [List.intercalate_singleton, here.straight]
    | cons u texts =>
      rw [List.intercalate_cons_cons, List.map_append, List.map_append, here.straight, hs, ih there]

theorem newline_notMem (h : Inert s) : '\n' ∉ s := fun hn => (h _ hn).2 rfl

theorem ascii_of_digit? {c : Char} {k : Nat} (h : Hex.digit? c = some k) :
    c.toNat < 0x80 ∧ c ≠ '\n' := by
  have bounds : 0x30 ≤ c.toNat ∧ c.toNat < 0x80 := by
    unfold Hex.digit? at h
    split at h
    next digit =>
      simp only [Char.isDigit, Bool.and_eq_true, decide_eq_true_eq] at digit
      have low : 0x30 ≤ c.toNat := digit.1
      have high : c.toNat ≤ 0x39 := digit.2
      omega
    next =>
      split at h
      next small =>
        have low : 0x61 ≤ c.toNat := small.1
        have high : c.toNat ≤ 0x66 := small.2
        omega
      next =>
        split at h
        next large =>
          have low : 0x41 ≤ c.toNat := large.1
          have high : c.toNat ≤ 0x46 := large.2
          omega
        next => exact absurd h nofun
  refine ⟨bounds.2, ?_⟩
  rintro rfl
  exact absurd bounds.1 (by decide)

theorem number (h : NumberText s) : Inert s := by
  refine of_ascii fun c hc => ?_
  rcases h.chars c hc with digit | rfl | rfl | rfl | rfl
  · exact ascii_of_digit? (k := c.toNat - '0'.toNat) (by simp [Hex.digit?, digit])
  all_goals decide

theorem escapeUnit (h : n < 0x10000) : Inert (Escape.unit n) := by
  obtain ⟨a, b, c, d, text, value⟩ := Hex.unit?_padded h
  obtain ⟨_, ha, value⟩ := Option.bind_eq_some_iff.1 value
  obtain ⟨_, hb, value⟩ := Option.bind_eq_some_iff.1 value
  obtain ⟨_, hc, value⟩ := Option.bind_eq_some_iff.1 value
  obtain ⟨_, hd, -⟩ := Option.bind_eq_some_iff.1 value
  rw [Escape.unit, text]
  refine of_ascii (List.forall_mem_cons.2 ⟨by decide, List.forall_mem_cons.2 ⟨by decide, ?_⟩⟩)
  intro x hx
  simp only [List.mem_cons, List.not_mem_nil, or_false] at hx
  rcases hx with rfl | rfl | rfl | rfl
  exacts [ascii_of_digit? ha, ascii_of_digit? hb, ascii_of_digit? hc, ascii_of_digit? hd]

theorem revealedUnit (h : n < 0x10000) : Inert (revealedUnit n) := by
  unfold Template.revealedUnit
  split
  next => decide
  next plain =>
    split
    next => exact escapeUnit h
    next unescaped =>
      obtain ⟨curly, -⟩ := Bool.or_eq_false_iff.1 (Bool.eq_false_iff.2 plain)
      obtain ⟨valid, printable, -⟩ := valid_of_not_staysEscaped h (Bool.eq_false_iff.2 unescaped)
      have point : (Char.ofNat n).toNat = n := CodePoint.toNat_ofNat valid
      intro c hc
      rw [List.mem_singleton.1 hc, point]
      refine ⟨curly, fun line => ?_⟩
      rw [line] at point
      exact absurd (point ▸ printable) (by decide)

theorem revealedSpelling (p : CodePoint) : Inert (revealedSpelling p) := by
  have units : Inert (p.units.flatMap Template.revealedUnit) :=
    flatMap fun u hu => revealedUnit (p.units_lt u hu)
  cases p with
  | surrogate n => exact units
  | char c =>
    unfold Template.revealedSpelling
    dsimp only
    split
    next l hl =>
      unfold Escape.letter? at hl
      split at hl <;> first
        | exact Option.some.inj hl ▸ (by decide)
        | exact absurd hl nofun
    next =>
      split
      next plain =>
        refine of_ascii fun d hd => ?_
        rw [List.mem_singleton.1 hd]
        refine ⟨by omega, ?_⟩
        rintro rfl
        exact absurd plain.1 (by decide)
      next => exact units

end Inert

section Writing

theorem inert_quoted (s : Text) : Inert ((revealedStyle .inline).quoted s) := by
  have quote : Inert ['"'] := by decide
  exact (quote.append (Inert.flatMap fun p _ => Inert.revealedSpelling p)).append quote

theorem inert_put {s : List Char} (h : Inert s) : Inert ((revealedStyle .inline).put s) := by
  rw [(reads_straight Layout.blank_inline).put_eq]
  exact h

theorem inert_realText (x : Binary64) : Inert (realText x) := by
  cases x with
  | finite x => exact .number (numberText_real x)
  | infinite negative => cases negative <;> decide
  | nan => decide

variable {α : Type} {first : List Char} {more : List α} {text : α → List Char}

theorem inert_bracketed {start stop : Char} (brackets : Inert [start] ∧ Inert [stop]) (depth : Nat)
    (hf : Inert first) (hm : ∀ a ∈ more, Inert (text a)) :
    Inert ((revealedStyle .inline).put (start :: (revealedStyle .inline).layout.lineBreak depth) ++
      (first ++ more.flatMap fun a =>
        (revealedStyle .inline).put ((revealedStyle .inline).layout.separator depth) ++ text a) ++
      (revealedStyle .inline).put
        ((revealedStyle .inline).layout.lineBreak (depth - 1) ++ [stop])) := by
  have separator : Inert [',', ' '] := by decide
  have others := hf.append (Inert.flatMap fun a ha => (inert_put separator).append (hm a ha))
  exact ((inert_put brackets.1).append others).append (inert_put brackets.2)

mutual

/-- A revealed text on one line is inert. -/
theorem inert_write (v : Json) (depth : Nat) : Inert (v.write (revealedStyle .inline) depth) := by
  cases v with
  | null => rw [write]; exact inert_put (by decide)
  | bool b => cases b <;> (rw [write]; exact inert_put (by decide))
  | int n => rw [write]; exact inert_put (.number (numberText_integer n))
  | real x => rw [write]; exact inert_put (inert_realText x)
  | string s => rw [write]; exact inert_quoted s
  | array items =>
    cases items with
    | nil => rw [write]; exact inert_put (by decide)
    | cons v vs =>
      obtain ⟨first, others⟩ := List.forall_mem_cons.1 (inert_writeItems (v :: vs) (depth + 1))
      rw [write, writeItems_cons]
      · exact inert_bracketed ⟨by decide, by decide⟩ (depth + 1) first others
      · exact List.cons_ne_nil v vs
  | object members =>
    cases members with
    | nil => rw [write]; exact inert_put (by decide)
    | cons m ms =>
      obtain ⟨first, others⟩ := List.forall_mem_cons.1 (inert_writeMembers (m :: ms) (depth + 1))
      rw [write, writeMembers_cons]
      · exact inert_bracketed ⟨by decide, by decide⟩ (depth + 1) first others
      · exact List.cons_ne_nil m ms

theorem inert_writeItems (vs : List Json) (depth : Nat) :
    ∀ v ∈ vs, Inert (v.write (revealedStyle .inline) depth) := by
  cases vs with
  | nil => exact List.forall_mem_nil _
  | cons v vs => exact List.forall_mem_cons.2 ⟨inert_write v depth, inert_writeItems vs depth⟩

theorem inert_writeMembers (ms : List (Text × Json)) (depth : Nat) :
    ∀ m ∈ ms, Inert (writeMember (revealedStyle .inline) depth m) := by
  have colon : Inert ((revealedStyle .inline).put [':', ' ']) := inert_put (by decide)
  cases ms with
  | nil => exact List.forall_mem_nil _
  | cons m ms =>
    exact List.forall_mem_cons.2
      ⟨((inert_quoted m.1).append colon).append (inert_write m.2 depth),
        inert_writeMembers ms depth⟩

end

theorem inert_revealed (v : Json) : Inert (revealed .inline v) := by
  rw [revealed, reveal_asciiText Layout.blank_inline]
  exact inert_write v 0

end Writing

end Template
end FieldSchema
