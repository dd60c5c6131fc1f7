import FieldSchema.Json.Written
import FieldSchema.Proofs.Json.Reading
import FieldSchema.Proofs.Number.Layout

/-! Written values are read back. Two surrogates side by side come back as the character that they
make, and of members with the same key the last one counts; apart from that a value comes back as it
is, up to what the style writes for its code points. -/
namespace FieldSchema.Json

section Strings

variable {start rest : List Char} {acc : Text}

theorem push_units (p : CodePoint) (acc : Text) :
    p.units.foldl (fun acc u => push (.ofUnit u) acc) acc = push p acc := by
  cases p with
  | surrogate n =>
    rw [CodePoint.units, List.foldl_cons, List.foldl_nil, CodePoint.ofUnit_half]
  | char c =>
    rcases lt_or_ge c.toNat 0x10000 with small | large
    · rw [CodePoint.units, if_pos small, List.foldl_cons, List.foldl_nil,
        CodePoint.ofUnit_toNat]
    · obtain ⟨high, low, halves⟩ := CodePoint.exists_halves large
      have first : push (.surrogate high) acc = .surrogate high :: acc := by
        cases acc with
        | nil => rfl
        | cons q acc => rw [push, CodePoint.joined?_high q halves.first]
      rw [halves.units, List.foldl_cons, List.foldl_cons, List.foldl_nil, CodePoint.ofUnit_half,
        CodePoint.ofUnit_half, first, push, halves.joined, push_char]

theorem reverse_foldl_push (t : Text) :
    (t.foldl (fun acc p => push p acc) []).reverse = t.joinPairs := by
  have after : ∀ (t : Text) q acc,
      (t.foldl (fun acc p => push p acc) (q :: acc)).reverse =
        acc.reverse ++ Text.joinPairs (q :: t) := by
    intro t
    induction t with
    | nil => simp [Text.joinPairs]
    | cons p t ih =>
      intro q acc
      rw [List.foldl_cons, push, Text.joinPairs]
      cases q.joined? p with
      | some c =>
        dsimp only
        rw [ih, Text.joinPairs_char]
      | none =>
        dsimp only
        rw [ih, List.reverse_cons, List.append_assoc, List.singleton_append]
  cases t with
  | nil => rfl
  | cons p t => exact after t p []

end Strings

namespace Layout

/-- A layout that puts nothing but gaps between the tokens. -/
def Blank : Layout → Prop
  | inline => True
  | indented unit => Reading.Gap unit

def gap (depth : Nat) : Layout → List Char
  | inline => [' ']
  | indented unit => (indented unit).lineBreak depth

theorem separator_eq (depth : Nat) (layout : Layout) :
    layout.separator depth = ',' :: layout.gap depth := by
  cases layout <;> rfl

theorem blank_spaces (n : Nat) : (indented (List.replicate n ' ')).Blank := fun c hc => by
  rw [List.eq_of_mem_replicate hc]
  rfl

variable {layout : Layout}

theorem Blank.lineBreak (h : layout.Blank) (depth : Nat) :
    Reading.Gap (layout.lineBreak depth) := by
  cases layout with
  | inline => exact List.forall_mem_nil _
  | indented unit =>
    refine List.forall_mem_cons.2 ⟨by decide, fun c hc => ?_⟩
    obtain ⟨s, hs, hc⟩ := List.mem_flatten.1 hc
    exact h c (List.eq_of_mem_replicate hs ▸ hc)

theorem Blank.gap (h : layout.Blank) (depth : Nat) : Reading.Gap (layout.gap depth) := by
  cases layout with
  | inline => exact List.forall_mem_singleton.2 (by decide)
  | indented unit => exact h.lineBreak depth

end Layout

/-- What the style spells for a code point `p` in a string is read as `f p`. -/
structure Style.Reads (style : Style Char) (f : CodePoint → CodePoint) : Prop where
  embed : style.embed = id
  layout : style.layout.Blank
  spell : ∀ p start acc rest, rest ≠ [] →
    scanString start acc (style.spell p ++ rest) = scanString start (push (f p) acc) rest

section Values

variable (f : CodePoint → CodePoint)

/-- A string read back, with `f` applied to its code points. -/
def rereadText (s : Text) : Text := Text.joinPairs (s.map f)

mutual

/-- A value read back, with `f` applied to the code points of its strings and keys. -/
def reread : Json → Json
  | string s => string (rereadText f s)
  | array items => array (rereadItems items)
  | object members => object (putAll (rereadMembers members) [])
  | v => v

def rereadItems : List Json → List Json
  | [] => []
  | v :: rest => reread v :: rereadItems rest

def rereadMembers : List (Text × Json) → List (Text × Json)
  | [] => []
  | (key, v) :: rest => (rereadText f key, reread v) :: rereadMembers rest

end

end Values

mutual

def integers : Json → List Int
  | int n => [n]
  | array items => itemIntegers items
  | object members => memberIntegers members
  | _ => []

def itemIntegers : List Json → List Int
  | [] => []
  | v :: rest => integers v ++ itemIntegers rest

def memberIntegers : List (Text × Json) → List Int
  | [] => []
  | (_, v) :: rest => integers v ++ memberIntegers rest

end

theorem integers_of_mem {items : List Json} {v : Json} (h : v ∈ items) :
    ∀ n ∈ v.integers, n ∈ (array items).integers := by
  rw [integers]
  induction h with
  | head rest => exact fun n hn => List.mem_append_left _ hn
  | tail first _ ih => exact fun n hn => List.mem_append_right _ (ih n hn)

theorem integers_of_lookup {members : List (Text × Json)} {key : Text} {v : Json}
    (h : members.lookup key = some v) : ∀ n ∈ v.integers, n ∈ (object members).integers := by
  rw [integers]
  induction members with
  | nil => exact absurd h nofun
  | cons entry rest ih =>
    obtain ⟨other, u⟩ := entry
    rw [List.lookup_cons] at h
    rw [memberIntegers]
    split at h
    next =>
      rw [Option.some.inj h]
      exact fun n hn => List.mem_append_left _ hn
    next => exact fun n hn => List.mem_append_right _ (ih h n hn)

section Writing

variable {style : Style Char} {f : CodePoint → CodePoint}

namespace Style.Reads

theorem put_eq (h : style.Reads f) (s : List Char) : style.put s = s := by
  rw [Style.put, h.embed, List.map_id]

theorem scanString_spell (h : style.Reads f) (s : Text) {start rest : List Char} {acc : Text} :
    scanString start acc (s.flatMap style.spell ++ '"' :: rest) =
      .ok (((s.map f).foldl (fun acc p => push p acc) acc).reverse, rest) := by
  induction s generalizing acc with
  | nil => rw [List.flatMap_nil, List.nil_append, scanString]; rfl
  | cons p s ih =>
    rw [List.flatMap_cons, List.append_assoc, h.spell p _ _ _ (by simp), ih, List.map_cons,
      List.foldl_cons]

theorem startsWith_quoted (h : style.Reads f) (s : Text) (rest : List Char) :
    StartsWith (.string (rereadText f s)) rest (style.quoted s ++ rest) := by
  have shape : style.quoted s ++ rest = '"' :: (s.flatMap style.spell ++ '"' :: rest) := by
    simp [quoted, h.embed]
  rw [shape, StartsWith, nextToken?_cons (by decide), scanToken]
  have mark : punctuation? '"' = none := by decide
  rw [mark]
  dsimp only
  rw [if_pos rfl, h.scanString_spell, reverse_foldl_push]
  rfl

end Style.Reads

theorem spells_realText (x : Binary64) : Spells (realText x) (.real x) := by
  cases x with
  | finite x => exact spells_real fun rest hr => x.scan?_text hr
  | infinite negative => cases negative <;> exact spells_of_scalar rfl fun _ _ => rfl
  | nan => exact spells_of_scalar rfl fun _ _ => rfl

theorem writeItems_cons (depth : Nat) (v : Json) (vs : List Json) :
    writeItems style depth (v :: vs) = v.write style depth ++
      vs.flatMap fun u => style.put (style.layout.separator depth) ++ u.write style depth := by
  induction vs generalizing v with
  | nil => simp [writeItems]
  | cons u vs ih =>
    rw [writeItems, ih, List.flatMap_cons]
    · simp only [List.append_assoc]
    · exact List.cons_ne_nil u vs

def writeMember (style : Style Char) (depth : Nat) (m : Text × Json) : List Char :=
  style.quoted m.1 ++ style.put [':', ' '] ++ m.2.write style depth

theorem writeMembers_cons (depth : Nat) (m : Text × Json) (ms : List (Text × Json)) :
    writeMembers style depth (m :: ms) = writeMember style depth m ++
      ms.flatMap fun n =>
        style.put (style.layout.separator depth) ++ writeMember style depth n := by
  induction ms generalizing m with
  | nil => simp [writeMembers, writeMember]
  | cons n ms ih =>
    rw [writeMembers, ih, List.flatMap_cons]
    · simp only [writeMember, List.append_assoc]
    · exact List.cons_ne_nil n ms

def item (style : Style Char) (f : CodePoint → CodePoint) (depth : Nat) (gap : List Char)
    (v : Json) : Part :=
  ⟨gap ++ v.write style depth, v.depth, v.reread f⟩

def slot (style : Style Char) (f : CodePoint → CodePoint) (depth : Nat) (gap : List Char)
    (m : Text × Json) : Slot :=
  ⟨item style f depth [] m.2, gap ++ (style.quoted m.1 ++ [':', ' ']), rereadText f m.1⟩

theorem deepest_items (depth : Nat) (gap : List Char) (vs : List Json) :
    deepest (vs.map (item style f depth gap)) = itemsDepth vs := by
  induction vs with
  | nil => rfl
  | cons v vs ih => rw [List.map_cons, deepest, ih, itemsDepth, item]

theorem deepest_members (depth : Nat) (gap : List Char) (ms : List (Text × Json)) :
    deepest ((ms.map (slot style f depth gap)).map Slot.toPart) = membersDepth ms := by
  induction ms with
  | nil => rfl
  | cons m ms ih => rw [List.map_cons, List.map_cons, deepest, ih, membersDepth, slot, item]

theorem rereadItems_eq (depth : Nat) (gap : List Char) (vs : List Json) :
    rereadItems f vs = (vs.map (item style f depth gap)).map Part.value := by
  induction vs with
  | nil => rfl
  | cons v vs ih => rw [rereadItems, ih, List.map_cons, List.map_cons, item]

theorem rereadMembers_eq (depth : Nat) (gap : List Char) (ms : List (Text × Json)) :
    rereadMembers f ms = (ms.map (slot style f depth gap)).map Slot.member := by
  induction ms with
  | nil => rfl
  | cons m ms ih => rw [rereadMembers, ih, List.map_cons, List.map_cons, Slot.member, slot, item]

theorem write_array (h : style.Reads f) (depth : Nat) (v : Json) (vs : List Json) :
    (array (v :: vs)).write style depth = '[' :: commaSeparated
      ((item style f (depth + 1) (style.layout.lineBreak (depth + 1)) v ::
        vs.map (item style f (depth + 1) (style.layout.gap (depth + 1)))).map Part.text) ++
      (style.layout.lineBreak depth ++ [']']) := by
  have more : (vs.flatMap fun u =>
      style.put (style.layout.separator (depth + 1)) ++ u.write style (depth + 1)) =
      ((vs.map (item style f (depth + 1) (style.layout.gap (depth + 1)))).map Part.text).flatMap
        (',' :: ·) := by
    rw [List.map_map, List.flatMap_map]
    refine List.flatMap_congr fun u _ => ?_
    rw [h.put_eq, Layout.separator_eq]
    rfl
  rw [write, writeItems_cons, more, List.map_cons, commaSeparated_cons, h.put_eq, h.put_eq, item]
  · simp
  · exact List.cons_ne_nil v vs

theorem write_object (h : style.Reads f) (depth : Nat) (m : Text × Json) (ms : List (Text × Json)) :
    (object (m :: ms)).write style depth = '\x7b' :: commaSeparated
      ((slot style f (depth + 1) (style.layout.lineBreak (depth + 1)) m ::
        ms.map (slot style f (depth + 1) (style.layout.gap (depth + 1)))).map Slot.written) ++
      (style.layout.lineBreak depth ++ ['\x7d']) := by
  have more : (ms.flatMap fun n =>
      style.put (style.layout.separator (depth + 1)) ++ writeMember style (depth + 1) n) =
      ((ms.map (slot style f (depth + 1) (style.layout.gap (depth + 1)))).map Slot.written).flatMap
        (',' :: ·) := by
    rw [List.map_map, List.flatMap_map]
    refine List.flatMap_congr fun n _ => ?_
    rw [h.put_eq, Layout.separator_eq, writeMember, h.put_eq]
    simp [Slot.written, slot, item]
  rw [write, writeMembers_cons, more, List.map_cons, commaSeparated_cons, h.put_eq, h.put_eq,
    writeMember, h.put_eq, Slot.written, slot, item]
  · simp
  · exact List.cons_ne_nil m ms

theorem sound_item {depth : Nat} {gap : List Char} (hg : Reading.Gap gap)
    {v : Json} (hv : SpellsDeep v.depth (v.write style depth) (v.reread f)) :
    (item style f depth gap v).Sound := SpellsDeep.after_gap hg hv

theorem sound_slot (h : style.Reads f) {depth : Nat} {gap : List Char} (hg : Reading.Gap gap)
    {m : Text × Json} (hv : SpellsDeep m.2.depth (m.2.write style depth) (m.2.reread f)) :
    (slot style f depth gap m).Sound := by
  have colon : Reading.Gap [' '] := List.forall_mem_singleton.2 (by decide)
  refine ⟨?_, sound_item (List.forall_mem_nil _) hv⟩
  exact (spellsKey_of_string (h.startsWith_quoted m.1) colon).after_gap hg

mutual

/-- A written value is read back. -/
theorem spells_write (h : style.Reads f) (v : Json) (hl : ∀ n ∈ v.integers, Legible n)
    (depth : Nat) : SpellsDeep v.depth (v.write style depth) (v.reread f) := by
  cases v with
  | null => rw [write, h.put_eq]; exact spells_null
  | bool b =>
    have text : (bool b).write style depth = if b then "true".toList else "false".toList := by
      cases b <;> exact h.put_eq _
    rw [text]
    exact spells_bool b
  | int n => rw [write, h.put_eq]; exact spells_int (hl n (by simp [integers]))
  | real x => rw [write, h.put_eq]; exact spells_realText x
  | string s => rw [write]; exact spells_of_string (h.startsWith_quoted s)
  | array items =>
    cases items with
    | nil => rw [write, h.put_eq]; exact spells_noItems
    | cons v vs =>
      have each := spells_writeItems h (v :: vs) hl (depth + 1)
      obtain ⟨first, others⟩ := List.forall_mem_cons.1 each
      have spelled := spells_items (sound_item (h.layout.lineBreak (depth + 1)) first)
        (List.forall_mem_map.2 fun u hu => sound_item (h.layout.gap (depth + 1)) (others u hu))
        (h.layout.lineBreak depth)
      rw [deepest, deepest_items] at spelled
      rw [write_array h, reread, rereadItems, rereadItems_eq (depth + 1)]
      exact spelled
  | object members =>
    cases members with
    | nil => rw [write, h.put_eq]; exact spells_noMembers
    | cons m ms =>
      have each := spells_writeMembers h (m :: ms) hl (depth + 1)
      obtain ⟨first, others⟩ := List.forall_mem_cons.1 each
      have spelled := spells_members (sound_slot h (h.layout.lineBreak (depth + 1)) first)
        (List.forall_mem_map.2 fun n hn => sound_slot h (h.layout.gap (depth + 1)) (others n hn))
        (h.layout.lineBreak depth)
      rw [List.map_cons, deepest, deepest_members] at spelled
      rw [write_object h, reread, rereadMembers, rereadMembers_eq (depth + 1)]
      exact spelled

theorem spells_writeItems (h : style.Reads f) (vs : List Json)
    (hl : ∀ n ∈ itemIntegers vs, Legible n) (depth : Nat) :
    ∀ v ∈ vs, SpellsDeep v.depth (v.write style depth) (v.reread f) := by
  cases vs with
  | nil => exact List.forall_mem_nil _
  | cons v vs =>
    rw [itemIntegers] at hl
    exact List.forall_mem_cons.2
      ⟨spells_write h v (fun n hn => hl n (List.mem_append_left _ hn)) depth,
        spells_writeItems h vs (fun n hn => hl n (List.mem_append_right _ hn)) depth⟩

theorem spells_writeMembers (h : style.Reads f) (ms : List (Text × Json))
    (hl : ∀ n ∈ memberIntegers ms, Legible n) (depth : Nat) :
    ∀ m ∈ ms, SpellsDeep m.2.depth (m.2.write style depth) (m.2.reread f) := by
  cases ms with
  | nil => exact List.forall_mem_nil _
  | cons m ms =>
    rw [memberIntegers] at hl
    exact List.forall_mem_cons.2
      ⟨spells_write h m.2 (fun n hn => hl n (List.mem_append_left _ hn)) depth,
        spells_writeMembers h ms (fun n hn => hl n (List.mem_append_right _ hn)) depth⟩

end

end Writing

end FieldSchema.Json
