import FieldSchema.Json.Escape
import FieldSchema.Json.Token
import FieldSchema.Proofs.Number.Scan
import FieldSchema.Proofs.Text.CodePoint
import FieldSchema.Proofs.Text.Hex

/-! The token at the front of a text. It starts right there unless a gap comes first, and it ends
where the string closes or where the number cannot go on. -/
namespace FieldSchema.Json

variable {c : Char} {s rest : List Char}

/-- The text starts with this token, and the rest comes after it. -/
def StartsWith (l : Lexeme) (rest s : List Char) : Prop := nextToken? s = some ⟨l, s, rest⟩

theorem nextToken?_cons (h : isGap c = false) : nextToken? (c :: s) = some (scanToken c s) := by
  simp [nextToken?, h]

theorem startsWith_mark {l : Lexeme} (hg : isGap c = false) (h : punctuation? c = some l) :
    StartsWith l rest (c :: rest) := by
  rw [StartsWith, nextToken?_cons hg, scanToken, h]

theorem of_punctuation {p : Char → Lexeme → Prop} {l : Lexeme} (h : punctuation? c = some l)
    (openBrace : p '\x7b' .openBrace) (closeBrace : p '\x7d' .closeBrace)
    (openBracket : p '[' .openBracket) (closeBracket : p ']' .closeBracket)
    (comma : p ',' .comma) (colon : p ':' .colon) : p c l := by
  unfold punctuation? at h
  split at h
  · exact Option.some.inj h ▸ openBrace
  · exact Option.some.inj h ▸ closeBrace
  · exact Option.some.inj h ▸ openBracket
  · exact Option.some.inj h ▸ closeBracket
  · exact Option.some.inj h ▸ comma
  · exact Option.some.inj h ▸ colon
  · exact absurd h nofun

section Strings

variable {start : List Char} {acc : Text}

theorem unescape?_letter {l : Char} (h : Escape.letter? c = some l) :
    l ≠ 'u' ∧ unescape? l = some c := by
  unfold Escape.letter? at h
  split at h <;> first
    | exact Option.some.inj h ▸ ⟨by decide, rfl⟩
    | simp at h

theorem push_char (c : Char) (acc : Text) : push (.char c) acc = .char c :: acc := by
  cases acc with
  | nil => rfl
  | cons q acc => cases q <;> rfl

theorem scanString_letter {l : Char} (h : Escape.letter? c = some l) :
    scanString start acc ('\\' :: l :: rest) = scanString start (.char c :: acc) rest := by
  obtain ⟨other, back⟩ := unescape?_letter h
  rw [scanString, back]
  all_goals simp [other]

theorem scanString_plain (quote : c ≠ '"') (backslash : c ≠ '\\') (printable : 0x20 ≤ c.toNat) :
    scanString start acc (c :: rest) = scanString start (.char c :: acc) rest := by
  rw [scanString, if_neg (by omega)]
  all_goals simp [quote, backslash]

theorem scanString_unit {n : Nat} (h : n < 0x10000) (hr : rest ≠ []) :
    scanString start acc (Escape.unit n ++ rest) =
      scanString start (push (.ofUnit n) acc) rest := by
  obtain ⟨next, rest, rfl⟩ := List.exists_cons_of_ne_nil hr
  obtain ⟨a, b, c, d, text, value⟩ := Hex.unit?_padded h
  rw [Escape.unit, text]
  dsimp only [List.cons_append, List.nil_append]
  rw [scanString, value]

theorem letter?_ne (h : Escape.letter? c = none) : c ≠ '"' ∧ c ≠ '\\' := by
  constructor <;> rintro rfl <;> exact absurd h (by decide)

theorem scanString_verbatim (hr : rest ≠ []) : scanString start acc (Escape.verbatim c ++ rest) =
    scanString start (.char c :: acc) rest := by
  unfold Escape.verbatim
  cases hl : Escape.letter? c with
  | some l => exact scanString_letter hl
  | none =>
    obtain ⟨quote, backslash⟩ := letter?_ne hl
    dsimp only
    by_cases hc : c.toNat < 0x20
    · rw [if_pos hc, scanString_unit (by omega) hr, CodePoint.ofUnit_toNat, push_char]
    · rw [if_neg hc, List.singleton_append, scanString_plain quote backslash (by omega)]

theorem scanString_text (w : List Char) (acc : Text) :
    scanString start acc (w.flatMap Escape.verbatim ++ '"' :: rest) =
      .ok (acc.reverse ++ Text.ofList w, rest) := by
  induction w generalizing acc with
  | nil => simp [scanString, Text.ofList]
  | cons c w ih =>
    rw [List.flatMap_cons, List.append_assoc, scanString_verbatim (by simp), ih]
    simp [Text.ofList]

/-- A string is one token. -/
theorem startsWith_string (w : List Char) : StartsWith (.string (Text.ofList w)) rest
    ('"' :: (w.flatMap Escape.verbatim ++ '"' :: rest)) := by
  rw [StartsWith, nextToken?_cons (by decide), scanToken]
  have mark : punctuation? '"' = none := by decide
  rw [mark]
  dsimp only
  rw [if_pos rfl, scanString_text]
  rfl

end Strings

section Scalars

theorem after?_eq_none {w : Char} {word : List Char} (h : w ≠ c) :
    Search.after? (w :: word) (c :: s) = none := if_neg h

theorem scan?_head {l : NumberLiteral} (h : NumberLiteral.scan? s = some (l, rest)) :
    ∃ c t, s = c :: t ∧ (c.isDigit ∨ c = '-' ∧ ∃ d u, t = d :: u ∧ d.isDigit) := by
  have digit : ∀ {t w after : List Char}, NumberLiteral.scanWhole? t = some (w, after) →
      ∃ d u, t = d :: u ∧ d.isDigit := by
    intro t w after hw
    cases t with
    | nil => simp [NumberLiteral.scanWhole?, NumberLiteral.scanDigits?] at hw
    | cons d u =>
      refine ⟨d, u, rfl, ?_⟩
      by_contra hd
      have zero : d ≠ '0' := by
        intro he
        subst he
        exact hd rfl
      simp [NumberLiteral.scanWhole?, NumberLiteral.scanDigits?, hd, zero] at hw
  simp only [NumberLiteral.scan?, Option.bind_eq_bind, Option.bind_eq_some_iff] at h
  obtain ⟨⟨whole, after⟩, hw, -⟩ := h
  obtain ⟨d, u, ht, hd⟩ := digit hw
  cases s with
  | nil => simp [NumberLiteral.scanSign] at ht
  | cons c t =>
    refine ⟨c, t, rfl, ?_⟩
    by_cases hc : c = '-'
    · subst hc
      exact .inr ⟨rfl, d, u, ht, hd⟩
    · have unsigned : NumberLiteral.scanSign (c :: t) = (false, c :: t) := by
        simp [NumberLiteral.scanSign, hc]
      rw [unsigned] at ht
      obtain ⟨rfl, -⟩ := List.cons.inj ht
      exact .inl hd

theorem no_keyword (hn : c ≠ 'n') (ht : c ≠ 't') (hf : c ≠ 'f') (hN : c ≠ 'N') (hI : c ≠ 'I')
    (negative : Search.after? "-Infinity".toList (c :: s) = none) :
    keywords.findSome? (fun (word, v) => (Search.after? word.toList (c :: s)).map (v, ·)) =
      none := by
  have null : Search.after? "null".toList (c :: s) = none := after?_eq_none hn.symm
  have yes : Search.after? "true".toList (c :: s) = none := after?_eq_none ht.symm
  have no : Search.after? "false".toList (c :: s) = none := after?_eq_none hf.symm
  have nan : Search.after? "NaN".toList (c :: s) = none := after?_eq_none hN.symm
  have positive : Search.after? "Infinity".toList (c :: s) = none := after?_eq_none hI.symm
  simp only [keywords, List.findSome?_cons, List.findSome?_nil, null, yes, no, nan, positive,
    negative, Option.map_none]

theorem startsWith_number {l : NumberLiteral} (h : NumberLiteral.scan? s = some (l, rest)) :
    StartsWith (numberLexeme l) rest s := by
  obtain ⟨c, t, rfl, front⟩ := scan?_head h
  have head : isGap c = false ∧ punctuation? c = none ∧ c ≠ '"' ∧ c ≠ 'n' ∧ c ≠ 't' ∧ c ≠ 'f' ∧
      c ≠ 'N' ∧ c ≠ 'I' := by
    rcases front with hd | ⟨rfl, -⟩
    · have other : ∀ d : Char, d.isDigit = false → c ≠ d := fun d => isDigit_ne hd
      refine ⟨?_, ?_, other _ rfl, other _ rfl, other _ rfl, other _ rfl, other _ rfl, other _ rfl⟩
      · simp [isGap, other ' ' rfl, other '\t' rfl, other '\n' rfl, other '\r' rfl]
      · simp [punctuation?, other '\x7b' rfl, other '\x7d' rfl, other '[' rfl, other ']' rfl,
          other ',' rfl, other ':' rfl]
    · decide
  obtain ⟨gap, mark, quote, hn, ht, hf, hN, hI⟩ := head
  have infinity : Search.after? "-Infinity".toList (c :: t) = none := by
    rcases front with hd | ⟨rfl, d, u, rfl, hd⟩
    · exact after?_eq_none (isDigit_ne hd rfl).symm
    · exact (if_pos rfl).trans (after?_eq_none (isDigit_ne hd rfl).symm)
  have word := no_keyword hn ht hf hN hI infinity
  rw [StartsWith, nextToken?_cons gap, scanToken, mark]
  dsimp only
  rw [if_neg quote, scanScalar, word, h]

theorem of_mem_keywords {p : String → Json → Prop} {word : String} {v : Json}
    (h : (word, v) ∈ keywords) (null : p "null" .null) (yes : p "true" (.bool true))
    (no : p "false" (.bool false)) (nan : p "NaN" (.real .nan))
    (positive : p "Infinity" (.real (.infinite false)))
    (negative : p "-Infinity" (.real (.infinite true))) : p word v := by
  simp only [keywords, List.mem_cons, Prod.mk.injEq, List.not_mem_nil, or_false] at h
  rcases h with ⟨rfl, rfl⟩ | ⟨rfl, rfl⟩ | ⟨rfl, rfl⟩ | ⟨rfl, rfl⟩ | ⟨rfl, rfl⟩ | ⟨rfl, rfl⟩
  · exact null
  · exact yes
  · exact no
  · exact nan
  · exact positive
  · exact negative

theorem startsWith_keyword {word : String} {v : Json} (h : (word, v) ∈ keywords) :
    StartsWith (.scalar v) rest (word.toList ++ rest) :=
  of_mem_keywords (p := fun word v => StartsWith (.scalar v) rest (word.toList ++ rest)) h
    rfl rfl rfl rfl rfl rfl

theorem startsWith_null : StartsWith (.scalar .null) rest ("null".toList ++ rest) := rfl

theorem startsWith_bool (b : Bool) : StartsWith (.scalar (.bool b)) rest
    ((if b then "true".toList else "false".toList) ++ rest) := by
  cases b <;> rfl

end Scalars

/-- The ways in which a token comes about. -/
inductive Scanned : Token → Prop where
  | mark {c : Char} {l : Lexeme} {rest : List Char} (h : punctuation? c = some l) :
    Scanned ⟨l, c :: rest, rest⟩
  | string {u : Text} {s rest : List Char} (h : scanString ('"' :: s) [] s = .ok (u, rest)) :
    Scanned ⟨.string u, '"' :: s, rest⟩
  | keyword {word : String} {v : Json} {rest : List Char} (h : (word, v) ∈ keywords) :
    Scanned ⟨.scalar v, word.toList ++ rest, rest⟩
  | number {l : NumberLiteral} {s rest : List Char} (h : NumberLiteral.scan? s = some (l, rest)) :
    Scanned ⟨numberLexeme l, s, rest⟩
  | brokenString {e : ReadError} {s : List Char} : Scanned ⟨.brokenString e, s, []⟩
  | stray {s : List Char} : Scanned ⟨.stray, s, []⟩

theorem scanned_scanScalar (s : List Char) : Scanned (scanScalar s) := by
  unfold scanScalar
  split
  next v rest found =>
    obtain ⟨⟨word, u⟩, hm, hw⟩ := List.exists_of_findSome?_eq_some found
    obtain ⟨after, hr, same⟩ := Option.map_eq_some_iff.1 hw
    obtain ⟨rfl, rfl⟩ := Prod.mk.inj same
    rw [Search.eq_append_of_after? hr]
    exact .keyword hm
  next =>
    split
    next hl => exact .number hl
    next => exact .stray

theorem scanned_scanToken (c : Char) (s : List Char) : Scanned (scanToken c s) := by
  unfold scanToken
  split
  next hl => exact .mark hl
  next =>
    split
    next quote =>
      subst quote
      split
      next h => exact .string h
      next => exact .brokenString
    next => exact scanned_scanScalar (c :: s)

theorem source_scanToken (c : Char) (s : List Char) : (scanToken c s).source = c :: s := by
  unfold scanToken scanScalar
  repeat' split
  all_goals rfl

theorem scanned_nextToken? {t : Token} (h : nextToken? s = some t) :
    Scanned t ∧ (s.takeWhile isGap) ++ t.source = s := by
  cases after : s.dropWhile isGap with
  | nil =>
    rw [nextToken?, after] at h
    exact absurd h nofun
  | cons c rest =>
    rw [nextToken?, after] at h
    obtain rfl := Option.some.inj h
    rw [source_scanToken, ← after]
    exact ⟨scanned_scanToken c rest, List.takeWhile_append_dropWhile⟩

theorem scalar_number {l : NumberLiteral} {v : Json} (h : numberLexeme l = .scalar v) :
    (v = .int l.toInt ∧ l.whole.length ≤ digitLimit) ∨ v = .real l.toBinary64 := by
  unfold numberLexeme at h
  split at h
  · split at h
    next => exact absurd h nofun
    next short => exact .inl ⟨(Lexeme.scalar.inj h).symm, Nat.not_lt.1 short⟩
  · exact .inr (Lexeme.scalar.inj h).symm

/-- A scalar is a keyword or a number. -/
theorem scalar_token {t : Token} {v : Json} (ht : nextToken? s = some t)
    (h : t.lexeme = .scalar v) : (∃ word, (word, v) ∈ keywords) ∨
      ∃ l, NumberLiteral.scan? t.source = some (l, t.rest) ∧ numberLexeme l = .scalar v := by
  cases (scanned_nextToken? ht).1 with
  | mark hl =>
    have other := of_punctuation (p := fun _ l => l ≠ .scalar v) hl nofun nofun nofun nofun nofun
      nofun
    exact absurd h other
  | keyword hm => exact .inl ⟨_, Lexeme.scalar.inj h ▸ hm⟩
  | number hl => exact .inr ⟨_, hl, h⟩
  | string | brokenString | stray => exact absurd h nofun

end FieldSchema.Json
