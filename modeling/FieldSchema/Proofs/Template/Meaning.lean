import FieldSchema.Proofs.Json.Pairs
import FieldSchema.Proofs.Template.Reveal

/-! What revealing does to any JSON text. Token by token the revealed text is read as the text was,
but for the curly quotes among its escapes, which count as straight ones. -/
namespace FieldSchema.Template

open Json

section Strings

variable {s rest : List Char}

/-- A string is revealed as a string whose contents have straight quotes for the curly ones among
the escapes. -/
theorem quoted_reveal (h : Quoted rest s) : Quoted (reveal rest) (reveal s) ∧
    ∀ acc, contents id acc (reveal s) = contents CodePoint.straight acc s := by
  induction h with
  | close =>
    rw [reveal_cons (by decide)]
    exact ⟨.close, fun _ => rfl⟩
  | @unit a b c d n s hn hs ih =>
    obtain ⟨quoted, same⟩ := ih
    rw [reveal, hn]
    dsimp only
    -- The unit becomes a quote after a backslash, or keeps its escape, or stands for itself.
    split
    next quote =>
      refine ⟨.letter rfl quoted, fun acc => ?_⟩
      rw [contents_unit hn, straight_quote quote, push_char, ← same, contents_letter rfl]
    next other =>
      obtain ⟨curly, quote⟩ := Bool.or_eq_false_iff.1 (Bool.eq_false_iff.2 other)
      have straight := straight_ofUnit (Hex.unit?_lt hn) curly
      split
      next =>
        refine ⟨.unit hn quoted, fun acc => ?_⟩
        rw [contents_unit hn, contents_unit hn, straight, ← same]
        rfl
      next plain =>
        obtain ⟨point, quote, backslash, printable⟩ :=
          plain_of_not_staysEscaped (Hex.unit?_lt hn) quote (Bool.eq_false_iff.2 plain)
        refine ⟨.plain quote backslash printable quoted, fun acc => ?_⟩
        rw [contents_unit hn, straight, point, push_char, ← same, contents_plain quote backslash]
  | @letter e c s hc hs ih =>
    obtain ⟨quoted, same⟩ := ih
    have revealed : reveal ('\\' :: e :: s) = '\\' :: e :: reveal s :=
      reveals_pair (unescape?_ne hc) s
    rw [revealed]
    refine ⟨.letter hc quoted, fun acc => ?_⟩
    rw [contents_letter hc, contents_letter hc, same]
  | plain quote backslash printable hs ih =>
    obtain ⟨quoted, same⟩ := ih
    rw [reveal_cons backslash]
    refine ⟨.plain quote backslash printable quoted, fun acc => ?_⟩
    rw [contents_plain quote backslash, contents_plain quote backslash, same]

end Strings

section Tokens

variable {R : Reader} {s : List Char} {t : Token}

theorem startsWith_reveal_mark {c : Char} {l : Lexeme} {rest : List Char}
    (h : punctuation? c = some l) : StartsWith l (reveal rest) (reveal (c :: rest)) := by
  have other : isGap c = false ∧ c ≠ '\\' :=
    of_punctuation (p := fun c _ => isGap c = false ∧ c ≠ '\\') h (by decide) (by decide)
      (by decide) (by decide) (by decide) (by decide)
  rw [reveal_cons other.2]
  exact startsWith_mark other.1 h

theorem startsWith_reveal_string {u : Text} {rest : List Char}
    (h : scanString ('"' :: s) [] s = .ok (u, rest)) :
    StartsWith (.string (contents CodePoint.straight [] s)) (reveal rest) (reveal ('"' :: s)) := by
  obtain ⟨quoted, same⟩ := quoted_reveal (quoted_of_scanString h)
  rw [reveal_cons (by decide), StartsWith, nextToken?_cons (by decide), scanToken]
  have mark : punctuation? '"' = none := by decide
  rw [mark]
  dsimp only
  rw [if_pos rfl, quoted.scanString, same]

theorem backslash_notMem_keyword {word : String} {v : Json} (h : (word, v) ∈ keywords) :
    '\\' ∉ word.toList := by
  have plain : ∀ m ∈ keywords, '\\' ∉ m.1.toList := by decide
  exact plain _ h

theorem startsWith_reveal_keyword {word : String} {v : Json} {rest : List Char}
    (h : (word, v) ∈ keywords) :
    StartsWith (.scalar v) (reveal rest) (reveal (word.toList ++ rest)) := by
  rw [reveals_plain (backslash_notMem_keyword h)]
  exact startsWith_keyword h

/-- A token that the reader goes on from is revealed as one that it takes for the same, but for the
curly quotes. -/
theorem exists_revealed {r next : Reading} (h : Scanned t)
    (step : R.step r (R.lexeme id t) = some next)
    (ends : (∃ v, R.lexeme id t = .scalar v) → NumberLiteral.Ends (reveal t.rest)) :
    ∃ l, StartsWith l (reveal t.rest) (reveal t.source) ∧
      R.lexeme id ⟨l, reveal t.source, reveal t.rest⟩ = R.lexeme CodePoint.straight t := by
  obtain ⟨notLong, notBroken, notStray⟩ := Reader.usable_of_step step
  cases h with
  | mark hl =>
    exact ⟨_, startsWith_reveal_mark hl,
      (Reader.lexeme_mark hl).trans (Reader.lexeme_mark hl).symm⟩
  | @string u s rest hs =>
    refine ⟨_, startsWith_reveal_string hs, congrArg Lexeme.string ?_⟩
    dsimp only
    rw [reveal_cons (by decide), List.tail_cons, List.tail_cons]
    exact (quoted_reveal (quoted_of_scanString hs)).2 []
  | keyword hm =>
    refine ⟨_, startsWith_reveal_keyword hm, ?_⟩
    rw [reveals_plain (backslash_notMem_keyword hm)]
    exact Reader.lexeme_keyword hm
  | @number l s rest hl =>
    obtain ⟨w, rfl, numeric, again⟩ := NumberLiteral.scan?_local hl
    have plain : '\\' ∉ w := numeric.notMem rfl (by decide)
    have follow : NumberLiteral.Ends (reveal rest) := by
      rcases Reader.lexeme_numberLexeme hl with scalar | ⟨n, long⟩
      · exact ends scalar
      · exact absurd long (notLong n)
    have scanned := again (reveal rest) follow
    refine ⟨numberLexeme l, ?_, ?_⟩
    · rw [reveals_plain plain]
      exact startsWith_number scanned
    · rw [reveals_plain plain]
      exact Reader.lexeme_number scanned hl
  | @brokenString e s => exact absurd rfl (notBroken e)
  | stray => exact absurd rfl notStray

end Tokens

section Runs

variable {R : Reader} {r r' : Reading} {s : List Char} {v : Json}

theorem delimited_reveal (h : Delimited s) : Delimited (reveal s) := by
  cases s with
  | nil => exact h
  | cons c s =>
    have other : c ≠ '\\' := by
      rintro rfl
      exact absurd (h _ rfl) (by decide)
    rw [reveal_cons other]
    exact h

theorem nextToken?_reveal_gap {w u : List Char} (hg : Reading.Gap w) :
    nextToken? (reveal (w ++ u)) = nextToken? (reveal u) := by
  rw [reveals_plain (backslash_notMem_gap hg), Reading.nextToken?_gap hg]

/-- Two readings that have come equally far stay so when one goes along a text and the other along
the revealed text. The second reads what it would read off the text with straight quotes. -/
theorem run_reveal (hr : r.blank = r'.blank) (h : R.run id r s = some v) :
    ∃ v', R.run CodePoint.straight r' s = some v' ∧ R.run id r' (reveal s) = some v' := by
  fun_induction R.run id r s generalizing r' with
  | case1 r s noToken =>
    obtain ⟨v', last⟩ := Reader.exists_finish hr h
    have revealed : nextToken? (reveal s) = none := by
      rw [← List.append_nil s, nextToken?_reveal_gap (Reading.gap_of_noToken noToken)]
      rfl
    exact ⟨v', (Reader.run_end noToken).trans last, (Reader.run_end revealed).trans last⟩
  | case2 r s t ht next hs ih =>
    obtain ⟨scanned, split⟩ := scanned_nextToken? ht
    -- What is scanned off a number depends on what follows, and there only a mark or a gap can be
    -- read, which revealing leaves in its place.
    have ends : (∃ u, R.lexeme id t = .scalar u) → NumberLiteral.Ends (reveal t.rest) := by
      rintro ⟨u, hu⟩
      rw [hu] at hs
      obtain ⟨frames, rfl⟩ := Reader.step_scalar hs
      exact (delimited_reveal (Reader.delimited_of_run h)).ends
    obtain ⟨l, starts, same⟩ := exists_revealed scanned hs ends
    obtain ⟨next', step, alike⟩ := Reader.exists_step hr (Reader.lexeme_blank t) hs
    obtain ⟨v', straight, revealed⟩ := ih alike h
    have token : nextToken? (reveal s) = some ⟨l, reveal t.source, reveal t.rest⟩ := by
      rw [← split, nextToken?_reveal_gap fun c hc => List.mem_takeWhile_imp hc]
      exact starts
    refine ⟨v', ?_, ?_⟩
    · rw [Reader.run_token ht, step]
      exact straight
    · rw [Reader.run_token token, same, step]
      exact revealed
  | case3 r s t ht hs => cases h

theorem exists_read_reveal (h : R.read id s = some v) :
    ∃ v', R.read CodePoint.straight s = some v' ∧ R.read id (reveal s) = some v' :=
  run_reveal rfl h

/-- Revealing keeps a JSON text valid, with the constants that are no JSON or without them. Member
by member it spells the same value, in which the curly quotes among the escapes have become
straight. The document that it is read as is that value, merged. -/
theorem read_reveal {constants : Bool} (h : (Reader.pairs constants).read id s = some v) :
    ∃ v', (Reader.pairs constants).read CodePoint.straight s = some v' ∧
      (Reader.pairs constants).read id (reveal s) = some v' ∧
      ∀ w, Json.read s = .ok w → v.merged = w ∧ Json.read (reveal s) = .ok v'.merged := by
  obtain ⟨v', straight, revealed⟩ := exists_read_reveal h
  refine ⟨v', straight, revealed, fun w hw => ⟨Reader.merged_pairs h hw, ?_⟩⟩
  obtain ⟨w', -, document⟩ := exists_read_reveal (Reader.read_document.2 hw)
  have read := Reader.read_document.1 document
  rw [Reader.merged_pairs revealed read, read]

/-- A quoted name and a path, with escapes next to each other. -/
def quotedPath : List Char :=
  "\x7b\"\\u201ck\": \"\\\\\\u00e9\\u005c\", \"k\": [\"\\ud83d\\ude00\", 1]\x7d".toList

def quotedPathPairs : Json :=
  object [("“k", .string "\\é\\"), ("k", .array [.string "😀", .int 1])]

theorem read_reveal_path : (Reader.pairs false).read id quotedPath = some quotedPathPairs ∧ ∃ v',
    (Reader.pairs false).read CodePoint.straight quotedPath = some v' ∧
    (Reader.pairs false).read id (reveal quotedPath) = some v' ∧
    ∀ w, Json.read quotedPath = .ok w →
      quotedPathPairs.merged = w ∧ Json.read (reveal quotedPath) = .ok v'.merged := by
  have pairs : (Reader.pairs false).read id quotedPath = some quotedPathPairs := by
    decide +kernel
  exact ⟨pairs, read_reveal pairs⟩

end Runs

end FieldSchema.Template
