import FieldSchema.Proofs.Json.Reading

/-! Readers of JSON texts that differ in what they do with the member of an object, in how many
containers they open, in whether they convert an integer of any length and in whether they know
`NaN` and the infinities. The reader of documents is one of them. For each of them it can be chosen
what the code points that are written as escapes stand for. How far a reader comes in a text does
not depend on that. -/
namespace FieldSchema.Json

section Strings

/-- What stands between the quotes of a string, with the closing quote and the text behind it. -/
inductive Quoted (rest : List Char) : List Char → Prop where
  | close : Quoted rest ('"' :: rest)
  | unit {a b c d : Char} {n : Nat} {s : List Char} (h : Hex.unit? a b c d = some n)
    (hs : Quoted rest s) : Quoted rest ('\\' :: 'u' :: a :: b :: c :: d :: s)
  | letter {e c : Char} {s : List Char} (h : unescape? e = some c) (hs : Quoted rest s) :
    Quoted rest ('\\' :: e :: s)
  | plain {c : Char} {s : List Char} (quote : c ≠ '"') (backslash : c ≠ '\\')
    (printable : 0x20 ≤ c.toNat) (hs : Quoted rest s) : Quoted rest (c :: s)

/-- The code points of a string to its closing quote, after those read so far in reverse. `f` is for
those that are written with `\u`. -/
def contents (f : CodePoint → CodePoint) (acc : Text) : List Char → Text
  | '\\' :: 'u' :: a :: b :: c :: d :: rest =>
    contents f (push (f (.ofUnit ((Hex.unit? a b c d).getD 0))) acc) rest
  | '\\' :: e :: rest => contents f (.char ((unescape? e).getD e) :: acc) rest
  | '"' :: _ | [] => acc.reverse
  | c :: rest => contents f (.char c :: acc) rest

variable {f : CodePoint → CodePoint} {acc : Text} {a b c d e : Char} {n : Nat} {s rest : List Char}

theorem contents_unit (h : Hex.unit? a b c d = some n) :
    contents f acc ('\\' :: 'u' :: a :: b :: c :: d :: s) =
      contents f (push (f (.ofUnit n)) acc) s := by
  rw [contents, h, Option.getD_some]

theorem unescape?_ne (h : unescape? e = some c) : e ≠ 'u' := by
  rintro rfl
  exact absurd h nofun

theorem contents_letter (h : unescape? e = some c) :
    contents f acc ('\\' :: e :: s) = contents f (.char c :: acc) s := by
  rw [contents, h, Option.getD_some]
  simp [unescape?_ne h]

theorem contents_plain (quote : c ≠ '"') (backslash : c ≠ '\\') :
    contents f acc (c :: s) = contents f (.char c :: acc) s := by
  rw [contents] <;> simp [quote, backslash]

theorem Quoted.ne_nil (h : Quoted rest s) : s ≠ [] := by
  cases h <;> exact List.cons_ne_nil _ _

theorem quoted_of_scanString {start : List Char} {u : Text}
    (h : scanString start acc s = .ok (u, rest)) : Quoted rest s := by
  fun_induction scanString start acc s with
  | case3 =>
    obtain ⟨-, rfl⟩ := Prod.mk.inj (Except.ok.inj h)
    exact .close
  | case4 _ _ _ _ _ _ _ _ hn ih => exact .unit hn (ih h)
  | case7 _ _ _ _ _ _ hc ih => exact .letter hc (ih h)
  | case10 acc c s alone quote _ _ escape printable ih =>
    refine .plain quote (fun backslash => ?_) (by omega) (ih h)
    cases s with
    | nil => exact alone backslash rfl
    | cons e s => exact escape e s backslash rfl
  -- What is left are the faults.
  | _ => cases h

theorem Quoted.scanString {start : List Char} (h : Quoted rest s) :
    scanString start acc s = .ok (contents id acc s, rest) := by
  induction h generalizing acc with
  | close => rfl
  | unit hn hs ih =>
    obtain ⟨next, s, rfl⟩ := List.exists_cons_of_ne_nil hs.ne_nil
    rw [Json.scanString, hn, contents_unit hn]
    exact ih
  | letter hc _ ih =>
    rw [Json.scanString, hc, contents_letter hc]
    · exact ih
    all_goals simp [unescape?_ne hc]
  | plain quote backslash printable _ ih =>
    rw [scanString_plain quote backslash printable, contents_plain quote backslash]
    exact ih

theorem contents_id {start : List Char} {u : Text} (h : scanString start acc s = .ok (u, rest)) :
    contents id acc s = u := by
  rw [(quoted_of_scanString h).scanString] at h
  exact (Prod.mk.inj (Except.ok.inj h)).1

end Strings

structure Reader where
  /-- What becomes of the members before one with this key and value. -/
  add : Text → Json → List (Text × Json) → List (Text × Json)
  /-- Whether a container is opened inside so many others. -/
  opens : Nat → Bool
  /-- Whether an integer may have any number of digits. -/
  longIntegers : Bool
  /-- Whether `NaN` and the infinities are values. -/
  constants : Bool

namespace Reader

/-- Of the members with one key the last counts, and what is too deep or too long is refused. -/
def document : Reader := ⟨put, fun n => n < depthLimit, false, true⟩

/-- Every member stays where it stands, at any depth and with integers of any length. -/
def pairs (constants : Bool) : Reader :=
  ⟨fun key v members => members ++ [(key, v)], fun _ => true, true, constants⟩

variable (R : Reader) (f : CodePoint → CodePoint)

/-- What the reader takes a token for. -/
def lexeme (t : Token) : Lexeme :=
  match t.lexeme with
  | .string _ => .string (contents f [] t.source.tail)
  | .longInteger digits =>
    match R.longIntegers, NumberLiteral.scan? t.source with
    | true, some (l, _) => .scalar (.int l.toInt)
    | _, _ => .longInteger digits
  | .scalar (.real x) =>
    match R.constants, NumberLiteral.scan? t.source with
    | false, none => .stray
    | _, _ => .scalar (.real x)
  | l => l

def beginValue (frames : List Frame) : Lexeme → Option Reading
  | .scalar v => some ⟨.afterValue v, frames⟩
  | .string s => some ⟨.afterValue (.string s), frames⟩
  | .openBracket => if R.opens frames.length then some ⟨.firstItem, .array [] :: frames⟩ else none
  | .openBrace => if R.opens frames.length then some ⟨.firstKey, frames⟩ else none
  | _ => none

def beginKey (members : List (Text × Json)) (frames : List Frame) : Lexeme → Option Reading
  | .string s => some ⟨.colon members s, frames⟩
  | _ => none

def step (r : Reading) (l : Lexeme) : Option Reading :=
  match r.expected, r.frames, l with
  | .value, _, _ => R.beginValue r.frames l
  | .firstItem, .array items :: frames, .closeBracket => some ⟨.afterValue (.array items), frames⟩
  | .firstItem, _, _ => R.beginValue r.frames l
  | .firstKey, frames, .closeBrace => some ⟨.afterValue (.object []), frames⟩
  | .firstKey, _, _ => beginKey [] r.frames l
  | .key members, _, _ => beginKey members r.frames l
  | .colon members key, frames, .colon => some ⟨.value, .member members key :: frames⟩
  | .afterValue v, .array items :: frames, .comma => some ⟨.value, .array (v :: items) :: frames⟩
  | .afterValue v, .array items :: frames, .closeBracket =>
    some ⟨.afterValue (.array (v :: items).reverse), frames⟩
  | .afterValue v, .member members key :: frames, .comma =>
    some ⟨.key (R.add key v members), frames⟩
  | .afterValue v, .member members key :: frames, .closeBrace =>
    some ⟨.afterValue (.object (R.add key v members)), frames⟩
  | _, _, _ => none

def finish (r : Reading) : Option Json :=
  match r.expected, r.frames with
  | .afterValue v, [] => some v
  | _, _ => none

def run (r : Reading) (s : List Char) : Option Json :=
  match _h : nextToken? s with
  | none => finish r
  | some t =>
    match R.step r (R.lexeme f t) with
    | some next => run next t.rest
    | none => none
termination_by s.length
decreasing_by exact length_nextToken? _h

/-- The value of a text for which code points written with `\u` stand for what `f` makes of them. -/
def read (s : List Char) : Option Json := R.run f ⟨.value, []⟩ s

section Steps

variable {R f} {r : Reading} {s rest : List Char} {t : Token} {l : Lexeme}

theorem run_token (h : nextToken? s = some t) : R.run f r s =
    match R.step r (R.lexeme f t) with
    | some next => R.run f next t.rest
    | none => none := by
  rw [run]
  split
  next none => exact absurd (h.symm.trans none) nofun
  next u some =>
    obtain rfl := Option.some.inj (h.symm.trans some)
    rfl

theorem step_of_run {v : Json} (ht : nextToken? s = some t) (h : R.run f r s = some v) :
    ∃ next, R.step r (R.lexeme f t) = some next ∧ R.run f next t.rest = some v := by
  rw [run_token ht] at h
  split at h
  next following step => exact ⟨following, step, h⟩
  next => exact absurd h nofun

theorem run_end (h : nextToken? s = none) : R.run f r s = finish r := by
  rw [run]
  split
  next => rfl
  next some => exact absurd (h.symm.trans some) nofun

/-- What cannot be read, and an integer that the reader does not convert, end the reading. -/
theorem usable_of_step {next : Reading} (h : R.step r l = some next) :
    (∀ n, l ≠ .longInteger n) ∧ (∀ e, l ≠ .brokenString e) ∧ l ≠ .stray := by
  cases l with
  | longInteger | brokenString | stray =>
    obtain ⟨expected, frames⟩ := r
    cases expected with
    | firstItem | afterValue =>
      rcases frames with _ | ⟨items | ⟨members, key⟩, frames⟩ <;> exact absurd h nofun
    | _ => exact absurd h nofun
  | _ => simp

theorem lexeme_mark {c : Char} (h : punctuation? c = some l) : R.lexeme f ⟨l, s, rest⟩ = l :=
  of_punctuation (p := fun _ l => R.lexeme f ⟨l, s, rest⟩ = l) h rfl rfl rfl rfl rfl rfl

theorem lexeme_longInteger {n : NumberLiteral} (h : NumberLiteral.scan? s = some (n, rest))
    (digits : Nat) : R.lexeme f ⟨.longInteger digits, s, rest⟩ =
      if R.longIntegers then .scalar (.int n.toInt) else .longInteger digits := by
  unfold lexeme
  dsimp only
  rw [h]
  cases R.longIntegers <;> rfl

theorem lexeme_real {n : NumberLiteral} (h : NumberLiteral.scan? s = some (n, rest))
    (x : Binary64) : R.lexeme f ⟨.scalar (.real x), s, rest⟩ = .scalar (.real x) := by
  unfold lexeme
  dsimp only
  rw [h]
  cases R.constants <;> rfl

/-- A scalar is taken as it is, unless it is a constant that the reader does not know. -/
theorem lexeme_scalar (v : Json) (s rest : List Char) :
    R.lexeme f ⟨.scalar v, s, rest⟩ = .scalar v ∨ R.lexeme f ⟨.scalar v, s, rest⟩ = .stray := by
  cases v with
  | real x =>
    unfold lexeme
    dsimp only
    split
    · exact .inr rfl
    · exact .inl rfl
  | _ => exact .inl rfl

theorem lexeme_number {g : CodePoint → CodePoint} {n : NumberLiteral} {s' rest' : List Char}
    (h : NumberLiteral.scan? s = some (n, rest)) (h' : NumberLiteral.scan? s' = some (n, rest')) :
    R.lexeme f ⟨numberLexeme n, s, rest⟩ = R.lexeme g ⟨numberLexeme n, s', rest'⟩ := by
  unfold numberLexeme
  split
  · split
    · rw [lexeme_longInteger h, lexeme_longInteger h']
    · rfl
  · rw [lexeme_real h, lexeme_real h']

/-- A number is a scalar unless it is an integer that the reader does not convert. -/
theorem lexeme_numberLexeme {n : NumberLiteral} (h : NumberLiteral.scan? s = some (n, rest)) :
    (∃ v, R.lexeme f ⟨numberLexeme n, s, rest⟩ = .scalar v) ∨
      ∃ k, R.lexeme f ⟨numberLexeme n, s, rest⟩ = .longInteger k := by
  unfold numberLexeme
  split
  · split
    · rw [lexeme_longInteger h]
      split
      · exact .inl ⟨_, rfl⟩
      · exact .inr ⟨_, rfl⟩
    · exact .inl ⟨_, rfl⟩
  · exact .inl ⟨_, lexeme_real h _⟩

theorem lexeme_keyword {g : CodePoint → CodePoint} {word : String} {v : Json} {rest' : List Char}
    (h : (word, v) ∈ keywords) : R.lexeme f ⟨.scalar v, word.toList ++ rest, rest⟩ =
      R.lexeme g ⟨.scalar v, word.toList ++ rest', rest'⟩ :=
  of_mem_keywords (p := fun word v => R.lexeme f ⟨.scalar v, word.toList ++ rest, rest⟩ =
    R.lexeme g ⟨.scalar v, word.toList ++ rest', rest'⟩) h rfl rfl rfl rfl rfl rfl

end Steps

section Document

variable {s : List Char} {t : Token}

theorem lexeme_document (h : nextToken? s = some t) : document.lexeme id t = t.lexeme := by
  cases (scanned_nextToken? h).1 with
  | mark hl => exact lexeme_mark hl
  | string hs => exact congrArg Lexeme.string (contents_id hs)
  | number =>
    unfold numberLexeme
    split
    · split <;> rfl
    · rfl
  | @keyword word v rest hm =>
    exact of_mem_keywords (p := fun word v => document.lexeme id ⟨.scalar v, word.toList ++ rest,
      rest⟩ = .scalar v) hm rfl rfl rfl rfl rfl rfl
  | brokenString | stray => rfl

theorem beginValue_document (r : Reading) (t : Token) :
    document.beginValue r.frames t.lexeme = (r.begin t).toOption := by
  obtain ⟨l, source, rest⟩ := t
  have opens : document.opens r.frames.length = decide (¬ depthLimit ≤ r.frames.length) := by
    simp [document]
  unfold beginValue Reading.begin
  cases l with
  | openBracket | openBrace =>
    dsimp only
    rw [opens]
    by_cases deep : depthLimit ≤ r.frames.length
    · rw [if_pos deep, if_neg (by simp [deep])]
      rfl
    · rw [if_neg deep, if_pos (by simp [deep])]
      rfl
  | _ => rfl

theorem beginKey_document (members : List (Text × Json)) (r : Reading) (t : Token) :
    beginKey members r.frames t.lexeme = (r.beginKey members t).toOption := by
  obtain ⟨l, source, rest⟩ := t
  cases l <;> rfl

theorem step_document (r : Reading) (t : Token) :
    document.step r t.lexeme = (r.step t).toOption := by
  have value := beginValue_document r t
  have key := fun members => beginKey_document members r t
  obtain ⟨expected, frames⟩ := r
  obtain ⟨l, source, rest⟩ := t
  cases expected with
  | value => exact value
  | firstItem =>
    rcases frames with _ | ⟨items | ⟨members, key⟩, frames⟩ <;> cases l <;> first
      | rfl
      | exact value
  | firstKey => cases l <;> rfl
  | key members => exact key members
  | colon members name => cases l <;> rfl
  | afterValue v =>
    rcases frames with _ | ⟨items | ⟨members, key⟩, frames⟩ <;> cases l <;> rfl

theorem finish_document (r : Reading) : finish r = r.finish.toOption := by
  obtain ⟨expected, frames⟩ := r
  cases expected <;> cases frames <;> rfl

theorem run_document (r : Reading) (s : List Char) :
    document.run id r s = (r.run s).toOption := by
  fun_induction Reading.run r s with
  | case1 r s none => rw [run_end none, finish_document]
  | case2 r s t ht next hs ih =>
    rw [run_token ht, lexeme_document ht, step_document, hs]
    exact ih
  | case3 r s t ht e hs =>
    rw [run_token ht, lexeme_document ht, step_document, hs]
    rfl

theorem read_document {w : Json} : document.read id s = some w ↔ Json.read s = .ok w := by
  have whole : document.read id s = (Json.read s).toOption := by
    unfold Json.read
    split
    next s =>
      -- No value starts with a byte order mark.
      have stray : StartsWith .stray [] ('\ufeff' :: s) := rfl
      rw [read, run_document, Reading.run_startsWith stray]
      rfl
    next => exact run_document _ s
  rw [whole]
  cases Json.read s <;> simp [Except.toOption]

end Document

end Reader

section Blank

def Lexeme.blank : Lexeme → Lexeme
  | .string _ => .string []
  | l => l

def Frame.blank : Frame → Frame
  | .array _ => .array []
  | .member _ _ => .member [] []

def Expected.blank : Expected → Expected
  | .key _ => .key []
  | .colon _ _ => .colon [] []
  | .afterValue _ => .afterValue .null
  | e => e

/-- How far a reading has come, without what it has read. -/
def Reading.blank (r : Reading) : Reading := ⟨r.expected.blank, r.frames.map Frame.blank⟩

namespace Reader

variable {R : Reader} {f g : CodePoint → CodePoint} {r r' next : Reading} {l l' : Lexeme}
  {s : List Char} {v : Json}

theorem lexeme_blank (t : Token) : (R.lexeme f t).blank = (R.lexeme g t).blank := by
  obtain ⟨l, source, rest⟩ := t
  cases l with
  | scalar v => cases v <;> rfl
  | _ => rfl

theorem map_blank_blank (frames : List Frame) :
    frames.map Frame.blank = (frames.map Frame.blank).map Frame.blank := by
  have once : Frame.blank ∘ Frame.blank = Frame.blank := by
    funext frame
    cases frame <;> rfl
  rw [List.map_map, once]

theorem beginValue_blank (frames : List Frame) (l : Lexeme) :
    (R.beginValue frames l).map Reading.blank =
      (R.beginValue (frames.map Frame.blank) l.blank).map Reading.blank := by
  have same := map_blank_blank frames
  cases l with
  | openBracket =>
    unfold beginValue
    dsimp only [Lexeme.blank]
    rw [List.length_map]
    split
    · exact congrArg (fun fs => some (Reading.mk .firstItem (.array [] :: fs))) same
    · rfl
  | openBrace =>
    unfold beginValue
    dsimp only [Lexeme.blank]
    rw [List.length_map]
    split
    · exact congrArg (fun fs => some (Reading.mk .firstKey fs)) same
    · rfl
  | scalar | string => exact congrArg (fun fs => some (Reading.mk _ fs)) same
  | _ => rfl

theorem step_blank (r : Reading) (l : Lexeme) :
    (R.step r l).map Reading.blank = (R.step r.blank l.blank).map Reading.blank := by
  have value := beginValue_blank (R := R) r.frames l
  obtain ⟨expected, frames⟩ := r
  have same := map_blank_blank frames
  -- What a step does with the frames depends on the last one alone, where it looks at them.
  cases expected with
  | value => exact value
  | firstItem =>
    rcases frames with _ | ⟨items | ⟨members, key⟩, frames⟩ <;> cases l <;> first
      | exact value
      | exact congrArg (fun fs => some (Reading.mk _ fs)) (map_blank_blank frames)
  | firstKey | key | colon =>
    cases l <;> first
      | rfl
      | exact congrArg (fun fs => some (Reading.mk _ fs)) same
      | exact congrArg (fun fs => some (Reading.mk _ (_ :: fs))) same
  | afterValue v =>
    rcases frames with _ | ⟨items | ⟨members, key⟩, frames⟩ <;> cases l <;> first
      | rfl
      | exact congrArg (fun fs => some (Reading.mk _ fs)) (map_blank_blank frames)
      | exact congrArg (fun fs => some (Reading.mk _ (_ :: fs))) (map_blank_blank frames)

theorem exists_step (hr : r.blank = r'.blank) (hl : l.blank = l'.blank)
    (h : R.step r l = some next) :
    ∃ next', R.step r' l' = some next' ∧ next.blank = next'.blank := by
  have same : (R.step r' l').map Reading.blank = some next.blank := by
    rw [step_blank, ← hr, ← hl, ← step_blank, h, Option.map_some]
  obtain ⟨next', step, alike⟩ := Option.map_eq_some_iff.1 same
  exact ⟨next', step, alike.symm⟩

theorem exists_finish (hr : r.blank = r'.blank) (h : finish r = some v) :
    ∃ v', finish r' = some v' := by
  have ends : ∀ r : Reading, (finish r).isSome = (finish r.blank).isSome := by
    rintro ⟨expected, frames⟩
    cases expected <;> cases frames <;> rfl
  refine Option.isSome_iff_exists.1 ?_
  rw [ends, ← hr, ← ends, h, Option.isSome_some]

end Reader

end Blank

section Delimiters

/-- At most a gap, a comma or a closing bracket comes next. -/
def Delimited (s : List Char) : Prop :=
  ∀ c ∈ s.head?, isGap c ∨ c = ',' ∨ c = ']' ∨ c = '\x7d'

theorem Delimited.ends {s : List Char} (h : Delimited s) : NumberLiteral.Ends s := by
  cases s with
  | nil => exact NumberLiteral.ends_nil
  | cons c s =>
    rcases h c rfl with gap | mark
    · have blank : Reading.Gap [c] := List.forall_mem_singleton.2 gap
      -- Only the first character counts.
      have first : NumberLiteral.Ends ([c] ++ []) := ends_append blank NumberLiteral.ends_nil
      exact first
    · exact ends_cons mark

namespace Reader

variable {R : Reader} {f : CodePoint → CodePoint} {frames : List Frame} {s : List Char} {u v : Json}
  {l : Lexeme}

theorem step_afterValue {next : Reading} (h : R.step ⟨.afterValue u, frames⟩ l = some next) :
    l = .comma ∨ l = .closeBracket ∨ l = .closeBrace := by
  cases l with
  | comma | closeBracket | closeBrace => simp
  | _ => rcases frames with _ | ⟨items | ⟨members, key⟩, frames⟩ <;> exact absurd h nofun

theorem step_scalar {next : Reading} {r : Reading} (h : R.step r (.scalar u) = some next) :
    ∃ frames, next = ⟨.afterValue u, frames⟩ := by
  obtain ⟨expected, frames⟩ := r
  cases expected with
  | value => exact ⟨frames, (Option.some.inj h).symm⟩
  | firstItem =>
    rcases frames with _ | ⟨items | ⟨members, key⟩, frames⟩ <;>
      exact ⟨_, (Option.some.inj h).symm⟩
  | afterValue => rcases frames with _ | ⟨items | ⟨members, key⟩, frames⟩ <;> exact absurd h nofun
  | _ => exact absurd h nofun

theorem mark_of_lexeme {c : Char} (h : R.lexeme f (scanToken c s) = .comma ∨
      R.lexeme f (scanToken c s) = .closeBracket ∨ R.lexeme f (scanToken c s) = .closeBrace) :
    c = ',' ∨ c = ']' ∨ c = '\x7d' := by
  have scanned := scanned_scanToken c s
  have source := source_scanToken c s
  generalize scanToken c s = t at h scanned source
  cases scanned with
  | mark hl =>
    obtain ⟨rfl, -⟩ := List.cons.inj source
    rw [lexeme_mark hl] at h
    exact of_punctuation (p := fun c l => l = .comma ∨ l = .closeBracket ∨ l = .closeBrace →
      c = ',' ∨ c = ']' ∨ c = '\x7d') hl (by simp) (by simp) (by simp) (by simp) (by simp)
      (by simp) h
  | number hl =>
    rcases lexeme_numberLexeme (R := R) (f := f) hl with ⟨v, hv⟩ | ⟨n, hn⟩
    · simp [hv] at h
    · simp [hn] at h
  | @keyword word v rest hm =>
    rcases lexeme_scalar (R := R) (f := f) v (word.toList ++ rest) rest with scalar | stray
    · simp [scalar] at h
    · simp [stray] at h
  | string | brokenString | stray => simp [lexeme] at h

theorem delimited_of_run (h : R.run f ⟨.afterValue u, frames⟩ s = some v) : Delimited s := by
  intro c hc
  obtain ⟨s, rfl⟩ := List.head?_eq_some_iff.1 hc
  by_cases gap : isGap c
  · exact .inl gap
  · right
    have token := nextToken?_cons (s := s) (Bool.eq_false_iff.2 gap)
    obtain ⟨next, step, -⟩ := step_of_run token h
    exact mark_of_lexeme (step_afterValue step)

end Reader

end Delimiters

end FieldSchema.Json
