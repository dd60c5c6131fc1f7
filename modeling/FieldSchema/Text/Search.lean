/-! Looking for a word in a text. -/
namespace FieldSchema.Search

def after? : List Char → List Char → Option (List Char)
  | [], s => some s
  | w :: word, c :: s => if w = c then after? word s else none
  | _ :: _, [] => none

theorem eq_append_of_after? {word s rest : List Char} (h : after? word s = some rest) :
    s = word ++ rest := by
  fun_induction after? word s <;> simp_all

theorem after?_append (word rest : List Char) : after? word (word ++ rest) = some rest := by
  induction word with
  | nil => rfl
  | cons w word ih => simp [after?, ih]

def occurrences (word : List Char) : List Char → Nat
  | [] => if word = [] then 1 else 0
  | c :: s => (if (after? word (c :: s)).isSome then 1 else 0) + occurrences word s

/-- The text before the first occurrence of the word and the text after it. -/
def splitAt? (word : List Char) : List Char → Option (List Char × List Char)
  | [] => if word = [] then some ([], []) else none
  | c :: s =>
    match after? word (c :: s) with
    | some rest => some ([], rest)
    | none => (splitAt? word s).map fun (before, rest) => (c :: before, rest)

theorem eq_append_of_splitAt? {word s before rest : List Char}
    (h : splitAt? word s = some (before, rest)) : s = before ++ word ++ rest := by
  induction s generalizing before with
  | nil => grind [splitAt?]
  | cons c s ih =>
    unfold splitAt? at h
    split at h
    · rename_i r hr
      obtain ⟨rfl, rfl⟩ := by simpa using h
      simpa using eq_append_of_after? hr
    · obtain ⟨⟨b, r⟩, hb, he⟩ := Option.map_eq_some_iff.1 h
      obtain ⟨rfl, rfl⟩ := by simpa using he
      simpa using ih hb

theorem isSome_splitAt? {word s : List Char} (h : 0 < occurrences word s) :
    (splitAt? word s).isSome := by
  induction s with
  | nil => grind [occurrences, splitAt?]
  | cons c s ih =>
    unfold splitAt?
    split
    · rfl
    · rename_i hn
      simp only [occurrences, hn, Option.isSome_none] at h
      simpa using ih (by simpa using h)

end FieldSchema.Search
