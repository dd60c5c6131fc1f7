import FieldSchema.Json.OfScalar

/-! The pieces that JSON texts are made of: strings between quotes, keys in front of a colon, and
words with commas between them. -/
namespace FieldSchema.Json

theorem toList_text_ofList (s : List Char) : (Json.string (Text.ofList s)).text.toList =
    '"' :: s.flatMap Escape.verbatim ++ ['"'] := by
  have spelled : (Text.ofList s).flatMap Style.characters.spell = s.flatMap Escape.verbatim := by
    rw [Text.ofList, List.flatMap_map]
    rfl
  have quoted : (Json.string (Text.ofList s)).write .characters 0 =
      '"' :: (Text.ofList s).flatMap Style.characters.spell ++ ['"'] := by
    rw [write]
    rfl
  rw [text, String.toList_ofList, quoted, spelled]

theorem toList_text_string (s : String) :
    (Json.string s).text.toList = '"' :: (Escape.string s).toList ++ ['"'] := by
  rw [Escape.string, String.toList_ofList, ← toList_text_ofList]
  rfl

theorem toList_text_int (n : Int) : (Json.int n).text.toList = (toString n).toList := by
  rw [text, String.toList_ofList, write]
  exact List.map_id _

theorem toList_text_null : Json.null.text.toList = "null".toList := by
  rw [text, String.toList_ofList]
  rfl

theorem toList_text_bool (b : Bool) :
    (Json.bool b).text.toList = if b then "true".toList else "false".toList := by
  rw [text, String.toList_ofList]
  cases b <;> rfl

theorem toList_text_real (x : Finite64) : (Json.real x).text.toList = x.text := by
  rw [text, String.toList_ofList, write]
  exact List.map_id _

def keyText (name : String) : List Char := (Json.string name).text.toList ++ [':']

/-- What a string spells is printable, apart from delete, which stands for itself. -/
theorem isControl_verbatim {c d : Char} (h : d ∈ Escape.verbatim c) :
    isControl d = true ↔ c = '\x7f' := by
  have letters : ∀ c l, Escape.letter? c = some l → isControl l = false ∧ c ≠ '\x7f' := by
    intro c l hl
    unfold Escape.letter? at hl
    split at hl <;> first
      | exact Option.some.inj hl ▸ (by decide)
      | simp at hl
  have backslash : isControl '\\' = false := by decide
  have digits : ∀ n < 0x20, (Escape.unit n).all (!isControl ·) := by decide
  unfold Escape.verbatim at h
  split at h
  next l hl =>
    obtain ⟨clean, other⟩ := letters c l hl
    rcases List.mem_cons.1 h with rfl | h
    · simp [backslash, other]
    · rw [List.mem_singleton.1 h]
      simp [clean, other]
  next =>
    split at h
    next low =>
      have other : c ≠ '\x7f' := by
        intro hc
        rw [hc] at low
        exact absurd low (by decide)
      have clean : isControl d = false := by simpa using List.all_eq_true.1 (digits _ low) d h
      simp [clean, other]
    next high =>
      have point : d = '\x7f' ↔ d.toNat = 0x7f := Char.toNat_inj.symm
      obtain rfl := List.mem_singleton.1 h
      simp [isControl, high, point]

theorem isClean_escape_iff {s : String} : isClean (Escape.string s) ↔ '\x7f' ∉ s.toList := by
  have delete : '\x7f' ∈ Escape.verbatim '\x7f' := by decide
  simp only [isClean_iff, Escape.string, String.toList_ofList, List.mem_flatMap]
  constructor
  · intro h hs
    exact absurd (h _ ⟨_, hs, delete⟩) (by decide)
  · intro h d ⟨c, hc, hd⟩
    rw [Bool.eq_false_iff, ne_eq, isControl_verbatim hd]
    exact fun he => h (he ▸ hc)

theorem isClean_escape {s : String} (h : isClean s) : isClean (Escape.string s) := by
  refine isClean_escape_iff.2 fun hs => ?_
  exact absurd (isClean_iff.1 h _ hs) (by decide)

/-- Words with a comma between each two. -/
def commaSeparated (ws : List (List Char)) : List Char := [','].intercalate ws

@[simp] theorem commaSeparated_nil : commaSeparated [] = [] := rfl

theorem commaSeparated_cons (u : List Char) (ws : List (List Char)) :
    commaSeparated (u :: ws) = u ++ ws.flatMap (',' :: ·) := by
  induction ws generalizing u with
  | nil => simp [commaSeparated]
  | cons v ws ih =>
    have step : commaSeparated (u :: v :: ws) = u ++ ',' :: commaSeparated (v :: ws) := by
      simp [commaSeparated, List.intercalate]
    rw [step, ih, List.flatMap_cons, List.cons_append]

theorem commaSeparated_cons_of_ne_nil (u : List Char) {ws : List (List Char)} (h : ws ≠ []) :
    commaSeparated (u :: ws) = u ++ ',' :: commaSeparated ws := by
  obtain ⟨v, ws, rfl⟩ := List.exists_cons_of_ne_nil h
  rw [commaSeparated_cons, commaSeparated_cons, List.flatMap_cons, List.cons_append]

end FieldSchema.Json
