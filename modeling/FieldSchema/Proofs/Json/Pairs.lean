import FieldSchema.Proofs.Json.Readers

/-! Reading every member of every object, in order. The members of one key, merged, are what a
document has, so a text that can be read as a document spells a value with all its members, and that
value merged is the document. -/
namespace FieldSchema.Json

mutual

/-- The value in which the members of an object that have one key have become one. -/
def merged : Json → Json
  | array items => array (mergedItems items)
  | object members => object (putAll (mergedMembers members) [])
  | v => v

def mergedItems : List Json → List Json
  | [] => []
  | v :: rest => merged v :: mergedItems rest

def mergedMembers : List (Text × Json) → List (Text × Json)
  | [] => []
  | (key, v) :: rest => (key, merged v) :: mergedMembers rest

end

def Frame.merged : Frame → Frame
  | .array items => .array (mergedItems items)
  | .member members key => .member (putAll (mergedMembers members) []) key

def Expected.merged : Expected → Expected
  | .key members => .key (putAll (mergedMembers members) [])
  | .colon members name => .colon (putAll (mergedMembers members) []) name
  | .afterValue v => .afterValue v.merged
  | e => e

def Reading.merged (r : Reading) : Reading := ⟨r.expected.merged, r.frames.map Frame.merged⟩

theorem mergedItems_eq_map (items : List Json) : mergedItems items = items.map merged := by
  induction items with
  | nil => rfl
  | cons v items ih => rw [mergedItems, ih, List.map_cons]

theorem mergedItems_reverse (items : List Json) :
    mergedItems items.reverse = (mergedItems items).reverse := by
  rw [mergedItems_eq_map, mergedItems_eq_map, List.map_reverse]

theorem mergedMembers_concat (key : Text) (v : Json) (members : List (Text × Json)) :
    mergedMembers (members ++ [(key, v)]) = mergedMembers members ++ [(key, v.merged)] := by
  induction members with
  | nil => rfl
  | cons m members ih => rw [List.cons_append, mergedMembers, ih, mergedMembers, List.cons_append]

theorem putAll_concat (key : Text) (v : Json) (members : List (Text × Json)) :
    putAll (mergedMembers (members ++ [(key, v)])) [] =
      put key v.merged (putAll (mergedMembers members) []) := by
  rw [mergedMembers_concat, putAll, List.foldl_append]
  rfl

theorem merged_keyword {word : String} {v : Json} (h : (word, v) ∈ keywords) : v.merged = v :=
  of_mem_keywords (p := fun _ v => v.merged = v) h rfl rfl rfl rfl rfl rfl

theorem merged_number {l : NumberLiteral} {v : Json} (h : numberLexeme l = .scalar v) :
    v.merged = v := by
  rcases scalar_number h with ⟨rfl, -⟩ | rfl <;> rfl

theorem merged_token {s : List Char} {t : Token} {v : Json} (ht : nextToken? s = some t)
    (h : t.lexeme = .scalar v) : v.merged = v := by
  rcases scalar_token ht h with ⟨word, hm⟩ | ⟨l, -, hv⟩
  · exact merged_keyword hm
  · exact merged_number hv

namespace Reader

variable {r : Reading} {l : Lexeme} {s : List Char} {w : Json}

theorem beginValue_merged {frames : List Frame} {next : Reading}
    (scalar : ∀ v, l = .scalar v → v.merged = v)
    (h : document.beginValue (frames.map Frame.merged) l = some next) :
    ((pairs true).beginValue frames l).map Reading.merged = some next := by
  cases l with
  | scalar v =>
    rw [beginValue] at h ⊢
    rw [← h, Option.map_some, Reading.merged, Expected.merged, scalar v rfl]
  | openBracket | openBrace =>
    unfold beginValue at h
    dsimp only at h
    split at h
    next => exact h
    next => exact absurd h nofun
  | string | longInteger | brokenString | stray | closeBrace | closeBracket | comma | colon =>
    exact h

theorem step_merged {next : Reading} (scalar : ∀ v, l = .scalar v → v.merged = v)
    (h : document.step r.merged l = some next) :
    ((pairs true).step r l).map Reading.merged = some next := by
  obtain ⟨expected, frames⟩ := r
  have value : document.beginValue (frames.map Frame.merged) l = some next → _ :=
    beginValue_merged scalar
  cases expected with
  | value => exact value h
  | firstItem =>
    rcases frames with _ | ⟨items | ⟨members, key⟩, frames⟩ <;> cases l <;> first
      | exact h
      | exact value h
  | firstKey => cases l <;> exact h
  | key members => cases l <;> exact h
  | colon members name => cases l <;> exact h
  | afterValue v =>
    rcases frames with _ | ⟨items | ⟨members, key⟩, frames⟩
    · cases l <;> exact h
    · have whole : (array (v :: items).reverse).merged =
          array (v.merged :: mergedItems items).reverse :=
        congrArg array (mergedItems_reverse (v :: items))
      cases l with
      | closeBracket =>
        refine Eq.trans ?_ h
        exact congrArg (fun u => some (Reading.mk (.afterValue u) _)) whole
      | _ => exact h
    · have more := putAll_concat key v members
      cases l with
      | comma =>
        refine Eq.trans ?_ h
        exact congrArg (fun ms => some (Reading.mk (.key ms) _)) more
      | closeBrace =>
        refine Eq.trans ?_ h
        exact congrArg (fun ms => some (Reading.mk (.afterValue (object ms)) _)) more
      | _ => exact h

theorem finish_merged (r : Reading) : finish r.merged = (finish r).map merged := by
  obtain ⟨expected, frames⟩ := r
  cases expected <;> cases frames <;> rfl

/-- A long integer is nothing that the reader of documents goes on from. -/
theorem lexeme_pairs {t : Token} {next : Reading}
    (h : document.step r (document.lexeme id t) = some next) :
    (pairs true).lexeme id t = document.lexeme id t := by
  obtain ⟨l, source, rest⟩ := t
  cases l with
  | longInteger n => exact absurd rfl ((usable_of_step h).1 n)
  | scalar v => cases v <;> rfl
  | _ => rfl

theorem step_pairs {t : Token} {next : Reading} (ht : nextToken? s = some t)
    (h : document.step r.merged (document.lexeme id t) = some next) :
    ((pairs true).step r ((pairs true).lexeme id t)).map Reading.merged = some next := by
  rw [lexeme_pairs h]
  refine step_merged (fun v hv => merged_token ht ?_) h
  rw [← lexeme_document ht, hv]

theorem run_merged (h : document.run id r.merged s = some w) :
    ((pairs true).run id r s).map merged = some w := by
  fun_induction (pairs true).run id r s with
  | case1 r s none =>
    rw [run_end none] at h
    rw [← finish_merged, h]
  | case2 r s t ht next hs ih =>
    obtain ⟨last, step, more⟩ := step_of_run ht h
    have same := step_pairs ht step
    rw [hs] at same
    obtain rfl := Option.some.inj same
    exact ih more
  | case3 r s t ht hs =>
    obtain ⟨last, step, -⟩ := step_of_run ht h
    have same := step_pairs ht step
    rw [hs] at same
    exact absurd same nofun

/-- A text that is read as a document is read as pairs, and the document is the pairs merged. -/
theorem exists_pairs (h : Json.read s = .ok w) :
    ∃ v, (pairs true).read id s = some v ∧ v.merged = w := by
  have whole : document.run id (Reading.merged ⟨.value, []⟩) s = some w := read_document.2 h
  exact Option.map_eq_some_iff.1 (run_merged whole)

/-- A constant is nothing that a reader goes on from who does not know it. -/
theorem lexeme_constants {constants : Bool} {t : Token} {next : Reading}
    (h : (pairs constants).step r ((pairs constants).lexeme id t) = some next) :
    (pairs constants).lexeme id t = (pairs true).lexeme id t := by
  obtain ⟨-, -, notStray⟩ := usable_of_step h
  obtain ⟨l, source, rest⟩ := t
  cases l with
  | scalar v =>
    rcases lexeme_scalar v source rest with scalar | stray
    · rw [scalar]
      cases v <;> rfl
    · exact absurd stray notStray
  | _ => rfl

theorem run_constants {constants : Bool} (h : (pairs constants).run id r s = some w) :
    (pairs true).run id r s = some w := by
  fun_induction (pairs constants).run id r s with
  | case1 r s none => rw [run_end none, h]
  | case2 r s t ht next hs ih =>
    have step : (pairs true).step r ((pairs constants).lexeme id t) = some next := hs
    rw [run_token ht, ← lexeme_constants hs, step]
    exact ih h
  | case3 r s t ht hs => exact absurd h nofun

/-- The pairs of a text that can be read as a document are that document, once merged. -/
theorem merged_pairs {constants : Bool} {v : Json} (h : (pairs constants).read id s = some v)
    (hw : Json.read s = .ok w) : v.merged = w := by
  obtain ⟨u, hu, merged⟩ := exists_pairs hw
  obtain rfl := Option.some.inj (hu.symm.trans (run_constants h))
  exact merged

end Reader

end FieldSchema.Json
