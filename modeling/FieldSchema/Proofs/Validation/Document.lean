import FieldSchema.Proofs.Json.Writing
import FieldSchema.Proofs.Number.Rounding
import FieldSchema.Proofs.Schema.Buildable
import FieldSchema.Proofs.Validation.Decision

/-! The verdict on a document. Of the texts that can be read it accepts those whose values conform,
and it rejects all others, unless the walk ends in an overflow. -/
namespace FieldSchema.Validation

section Walks

variable {w : Walk} {fine large : Prop}

/-- The findings of a walk are none exactly if it passes, and there are no findings at all after an
overflow. -/
theorem findings_verdict (root : String) (h : w.Decides fine large) :
    ((w.verdict root).findings = .ok [] ↔ fine ∧ ¬ large) ∧
      ((w.verdict root).findings = .error .integerTooLarge ↔ large) ∧
      ∀ e, (w.verdict root).findings = .error e → e = .integerTooLarge := by
  rw [← h.passes, ← h.overflows, Walk.Passes, Walk.verdict]
  cases w.overflowed with
  | true => simp [eq_comm]
  | false => simp

end Walks

section Texts

variable {c : Char} {s : List Char}

theorem scanToken_blank (h : Blank.isBlank c) :
    Json.scanToken c s = ⟨.stray, c :: s, []⟩ := by
  have other : ∀ d : Char, Blank.isBlank d = false → c ≠ d := by
    intro d hd he
    rw [he, hd] at h
    exact Bool.false_ne_true h
  have noDigit : ¬ c.isDigit := by
    intro hd
    simp only [Char.isDigit, Bool.and_eq_true, decide_eq_true_eq] at hd
    have low : 48 ≤ c.toNat := hd.1
    have high : c.toNat ≤ 57 := hd.2
    simp [Blank.isBlank, Blank.isWhiteSpace] at h
    omega
  have mark : Json.punctuation? c = none := by
    simp [Json.punctuation?, other '\x7b' rfl, other '\x7d' rfl, other '[' rfl, other ']' rfl,
      other ',' rfl, other ':' rfl]
  have number : NumberLiteral.scan? (c :: s) = none := by
    cases hn : NumberLiteral.scan? (c :: s) with
    | none => rfl
    | some found =>
      obtain ⟨d, t, he, front⟩ := Json.scan?_head hn
      obtain ⟨rfl, -⟩ := List.cons.inj he
      rcases front with hd | ⟨hm, -⟩
      · exact absurd hd noDigit
      · exact absurd hm (other '-' rfl)
  have word := Json.no_keyword (s := s) (other 'n' rfl) (other 't' rfl) (other 'f' rfl)
    (other 'N' rfl) (other 'I' rfl) (Json.after?_eq_none (other '-' rfl).symm)
  rw [Json.scanToken, mark]
  dsimp only
  rw [if_neg (other '"' rfl), Json.scanScalar, word, number]

theorem read_blank (h : s.all Blank.isBlank) (v : Json) : Json.read s ≠ .ok v := by
  unfold Json.read
  split
  next => simp
  next =>
    rw [Json.Reading.run]
    split
    next => simp [Json.Reading.finish]
    next t ht =>
      unfold Json.nextToken? at ht
      split at ht
      next => simp at ht
      next c rest hs =>
        have member : c ∈ s.dropWhile Json.isGap := by simp [hs]
        have blank : Blank.isBlank c :=
          List.all_eq_true.1 h c ((List.dropWhile_sublist _).subset member)
        obtain rfl := Option.some.inj ht
        rw [scanToken_blank blank]
        simp [Json.Reading.step, Json.Reading.begin]

end Texts

section Integers

/-- Every integer below the middle between the largest double and the next power of two has a
nearest double. -/
theorem not_overflows_of_small {v : Json} {f : Field}
    (h : ∀ n ∈ v.integers, n.natAbs < 2 ^ 1024 - 2 ^ 970) : ¬ Overflows v f := by
  intro overflows
  induction overflows with
  | real large | constant large | choice large =>
    obtain ⟨n, rfl, none⟩ := large
    obtain ⟨x, hx⟩ := ofInt?_isSome (h n (by simp [Json.integers]))
    rw [hx] at none
    exact absurd none nofun
  | object _ hv _ ih => exact ih fun n hn => h n (Json.integers_of_lookup hv n hn)
  | variant _ _ ih => exact ih h
  | array hv _ ih => exact ih fun n hn => h n (Json.integers_of_mem hv n hn)
  | optional _ ih => exact ih h

end Integers

section Documents

variable {f : Field} {v : Json} {text : Option (List Char)}

/-- Which values are accepted, and for which ones the walk overflows. -/
theorem findings_checkRoot (f : Field) (v : Json) :
    ((checkRoot v (.field f)).findings = .ok [] ↔ Conforms v f ∧ ¬ Overflows v f) ∧
      ((checkRoot v (.field f)).findings = .error .integerTooLarge ↔ Overflows v f) ∧
      ∀ e, (checkRoot v (.field f)).findings = .error e → e = .integerTooLarge :=
  findings_verdict f.name (check_decides f ⟨f.name, []⟩ v)

theorem validate_of_read (h : Json.read (text.getD []) = .ok v) :
    validate (.field f) text = checkRoot v (.field f) := by
  unfold validate
  dsimp only
  split
  next hb => exact absurd h (read_blank hb v)
  next =>
    split
    next u hu =>
      rw [h] at hu
      rw [Except.ok.inj hu]
    next e he =>
      rw [h] at he
      exact absurd he nofun

theorem findings_of_overflows (h : Json.read (text.getD []) = .ok v) (large : Overflows v f) :
    (validate (.field f) text).findings = .error .integerTooLarge := by
  rw [validate_of_read h]
  exact (findings_checkRoot f v).2.1.2 large

theorem validate_of_unread {e : Json.ReadError} (h : Json.read (text.getD []) = .error e) :
    ∃ fault, (validate (.field f) text).findings = .ok [fault] := by
  unfold validate
  dsimp only
  split
  next => exact ⟨_, rfl⟩
  next =>
    rw [h]
    exact ⟨_, rfl⟩

end Documents

/-- Which documents are accepted, and which ones end in an overflow; all others are rejected. -/
theorem validate_accepts_iff (f : Field) (text : Option (List Char)) :
    ((validate (.field f) text).findings = .ok [] ↔
      ∃ v, Json.read (text.getD []) = .ok v ∧ Conforms v f ∧ ¬ Overflows v f) ∧
    ((validate (.field f) text).findings = .error .integerTooLarge ↔
      ∃ v, Json.read (text.getD []) = .ok v ∧ Overflows v f) ∧
    ∀ e, (validate (.field f) text).findings = .error e → e = .integerTooLarge := by
  cases h : Json.read (text.getD []) with
  | ok v =>
    rw [validate_of_read h]
    simpa using findings_checkRoot f v
  | error e =>
    obtain ⟨fault, hf⟩ := @validate_of_unread f _ _ h
    simp [hf]

@[irreducible] def beyondDoubles : Int := 2 ^ 1024

theorem tooLarge_beyondDoubles : TooLarge (.int beyondDoubles) := ⟨_, rfl, by decide +kernel⟩

theorem beyondDoubles_nonneg : 0 ≤ beyondDoubles := by decide +kernel

/-- An object with this integer as the value of its only key. -/
def largeDocument : List Char :=
  '\x7b' :: Json.commaSeparated [Json.keyText "x" ++ integerText beyondDoubles] ++ ['\x7d']

theorem read_largeDocument :
    Json.read largeDocument = .ok (.object [(Text.ofString "x", .int beyondDoubles)]) := by
  have number : Json.Spells (integerText beyondDoubles) (.int beyondDoubles) :=
    Json.spells_int (by decide +kernel)
  let entries : List Json.Entry := [⟨"x", integerText beyondDoubles, .int beyondDoubles⟩]
  have each : ∀ m ∈ entries, Json.Spells m.text m.value := by simpa [entries] using number
  have spelled := Json.spells_object each (List.pairwise_singleton _ _)
  exact spelled.read.trans (Json.within_of_le (by decide) _)

def countLabel : Label := ⟨"x", none, by decide, by decide⟩

/-- A member of its own, or a count of which no double is as large. -/
def orCount (member : Field) : Field := .variant ⟨"v", none, by decide, by decide⟩
  [.object ⟨"a", none, by decide, by decide⟩ [member],
    .object ⟨"b", none, by decide, by decide⟩
      [.integer countLabel ⟨0, beyondDoubles, beyondDoubles_nonneg⟩]]

def shareOrCount : Field := orCount (.real countLabel ⟨.zero false, .zero false, by decide⟩)

/-- A document that conforms by its second alternative is not accepted: the first one cannot compare
the count with its doubles. -/
theorem shareOrCount_undecided : Constructed shareOrCount ∧ ∃ v, Json.read largeDocument = .ok v ∧
    Conforms v shareOrCount ∧
    (validate (.field shareOrCount) (some largeDocument)).findings = .error .integerTooLarge := by
  refine ⟨Field.WellFormed.constructed (by decide), _, read_largeDocument, ?_, ?_⟩
  · refine .variant (List.mem_cons_of_mem _ (List.mem_singleton_self _)) (.object ?_ ?_ ?_)
    · intro f hf _
      rw [List.mem_singleton.1 hf]
      rfl
    · intro f hf v hv
      rw [List.mem_singleton.1 hf] at hv ⊢
      obtain rfl := Option.some.inj hv
      exact .integer beyondDoubles_nonneg (Int.le_refl _)
    · intro m hm
      rw [List.mem_singleton.1 hm]
      exact ⟨_, List.mem_singleton_self _, rfl⟩
  · refine findings_of_overflows read_largeDocument ?_
    refine Overflows.variant_head (.object (List.mem_singleton_self _) rfl ?_)
    exact .real tooLarge_beyondDoubles

end FieldSchema.Validation
