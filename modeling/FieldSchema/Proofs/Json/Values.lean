import FieldSchema.Json.Reader
import FieldSchema.Proofs.Json.Token
import Mathlib.Data.List.Nodup

/-! What holds of every value that is read. A property of values is passed on from the tokens to the
whole if it is passed on from items to arrays, and from members to objects, whose keys are distinct:
every step keeps it of the values read so far, those of the containers still open among them. -/
namespace FieldSchema.Json

section Members

variable {members : List (Text × Json)} {key : Text} {v : Json}

theorem keys_put (key : Text) (v : Json) (members : List (Text × Json)) :
    (put key v members).map (·.1) =
      if key ∈ members.map (·.1) then members.map (·.1) else members.map (·.1) ++ [key] := by
  induction members with
  | nil => rfl
  | cons m rest ih => grind [put]

theorem nodup_put (h : (members.map (·.1)).Nodup) : ((put key v members).map (·.1)).Nodup := by
  rw [keys_put]
  split
  next => exact h
  next new => simpa using h.concat new

theorem forall_mem_put {p : Json → Prop} (hv : p v) (h : ∀ m ∈ members, p m.2) :
    ∀ m ∈ put key v members, p m.2 := by
  induction members with
  | nil => simpa [put] using hv
  | cons m rest ih =>
    obtain ⟨k, u⟩ := m
    obtain ⟨hu, hrest⟩ := List.forall_mem_cons.1 h
    rw [put]
    split
    next => exact List.forall_mem_cons.2 ⟨hv, hrest⟩
    next => exact List.forall_mem_cons.2 ⟨hu, ih hrest⟩

theorem lookup_isSome_iff_mem_keys :
    (members.lookup key).isSome ↔ key ∈ members.map (·.1) := by
  rw [List.lookup_isSome_iff, List.mem_map]
  simp only [beq_iff_eq, eq_comm (a := key)]

theorem lookup_iff_mem (distinct : (members.map (·.1)).Nodup) :
    members.lookup key = some v ↔ (key, v) ∈ members := by
  constructor
  · intro h
    obtain ⟨before, after, rfl, -⟩ := List.lookup_eq_some_iff.1 h
    simp
  · intro h
    obtain ⟨before, after, rfl⟩ := List.append_of_mem h
    refine List.lookup_eq_some_iff.2 ⟨before, after, rfl, fun m hm => ?_⟩
    rw [List.map_append, List.map_cons, List.nodup_append] at distinct
    have other := distinct.2.2 m.1 (List.mem_map_of_mem hm) key (by simp)
    simpa using other.symm

/-- What is said of the members of an object that is read. -/
structure Members (p : Json → Prop) (members : List (Text × Json)) : Prop where
  distinct : (members.map (·.1)).Nodup
  each : ∀ m ∈ members, p m.2

namespace Members

variable {p : Json → Prop}

theorem nil : Members p [] := ⟨List.nodup_nil, List.forall_mem_nil _⟩

theorem put (h : Members p members) (hv : p v) : Members p (put key v members) :=
  ⟨nodup_put h.distinct, forall_mem_put hv h.each⟩

end Members

end Members

/-- A property that reading passes on. -/
structure Hereditary (p : Json → Prop) : Prop where
  scalar {s : List Char} {t : Token} {v : Json} : nextToken? s = some t → t.lexeme = .scalar v → p v
  string (s : Text) : p (.string s)
  array {items : List Json} : (∀ v ∈ items, p v) → p (.array items)
  object {members : List (Text × Json)} : Members p members → p (.object members)

section Reading

variable (p : Json → Prop)

def Frame.Holds : Frame → Prop
  | .array items => ∀ v ∈ items, p v
  | .member members _ => Members p members

def Expected.Holds : Expected → Prop
  | .key members | .colon members _ => Members p members
  | .afterValue v => p v
  | _ => True

def Reading.Holds (r : Reading) : Prop := r.expected.Holds p ∧ ∀ f ∈ r.frames, f.Holds p

variable {p} {s : List Char} {t : Token} {r next : Reading}

namespace Reading

theorem run_invariant {p : Reading → Prop} {s : List Char} {r : Reading} {v : Json}
    (keep : ∀ {s : List Char} {t : Token} {r next : Reading}, nextToken? s = some t →
      r.step t = .ok next → p r → p next)
    (start : p r) (h : r.run s = .ok v) : ∃ last, p last ∧ last.finish = .ok v := by
  fun_induction run r s with
  | case1 r s none => exact ⟨r, start, h⟩
  | case2 r s t ht next hs ih => exact ih (keep ht hs start) h
  | case3 r s t ht e hs => exact absurd h nofun

theorem Holds.begin (hp : Hereditary p) (ht : nextToken? s = some t) (h : r.begin t = .ok next)
    (hr : ∀ f ∈ r.frames, f.Holds p) : next.Holds p := by
  unfold Reading.begin at h
  split at h
  next v hv => exact Except.ok.inj h ▸ ⟨hp.scalar ht hv, hr⟩
  next => exact Except.ok.inj h ▸ ⟨hp.string _, hr⟩
  next =>
    split at h
    next => exact absurd h nofun
    next =>
      exact Except.ok.inj h ▸ ⟨trivial, List.forall_mem_cons.2 ⟨List.forall_mem_nil _, hr⟩⟩
  next =>
    split at h
    next => exact absurd h nofun
    next => exact Except.ok.inj h ▸ ⟨trivial, hr⟩
  next => exact absurd h nofun
  next => exact absurd h nofun
  next => exact absurd h nofun

theorem Holds.beginKey {members : List (Text × Json)} (h : r.beginKey members t = .ok next)
    (hm : Members p members) (hr : ∀ f ∈ r.frames, f.Holds p) : next.Holds p := by
  unfold Reading.beginKey at h
  split at h
  next => exact Except.ok.inj h ▸ ⟨hm, hr⟩
  next => exact absurd h nofun
  next => exact absurd h nofun

theorem Holds.step (hp : Hereditary p) (ht : nextToken? s = some t) (h : r.step t = .ok next)
    (hr : r.Holds p) : next.Holds p := by
  obtain ⟨expected, frames⟩ := r
  obtain ⟨he, hf⟩ := hr
  unfold Reading.step at h
  split at h
  next => exact .begin hp ht h hf
  next _ hx hfr _ =>
    subst hx hfr
    obtain ⟨hitems, hrest⟩ := List.forall_mem_cons.1 hf
    exact Except.ok.inj h ▸ ⟨hp.array hitems, hrest⟩
  next => exact .begin hp ht h hf
  next => exact Except.ok.inj h ▸ ⟨hp.object .nil, hf⟩
  next => exact .beginKey h .nil hf
  next hx =>
    subst hx
    exact .beginKey h he hf
  next hx _ =>
    subst hx
    exact Except.ok.inj h ▸ ⟨trivial, List.forall_mem_cons.2 ⟨he, hf⟩⟩
  next hx hfr _ =>
    subst hx hfr
    obtain ⟨hitems, hrest⟩ := List.forall_mem_cons.1 hf
    exact Except.ok.inj h ▸
      ⟨trivial, List.forall_mem_cons.2 ⟨List.forall_mem_cons.2 ⟨he, hitems⟩, hrest⟩⟩
  next v items frames hx hfr _ =>
    subst hx hfr
    obtain ⟨hitems, hrest⟩ := List.forall_mem_cons.1 hf
    have all : ∀ u ∈ v :: items, p u := List.forall_mem_cons.2 ⟨he, hitems⟩
    exact Except.ok.inj h ▸ ⟨hp.array fun u hu => all u (List.mem_reverse.1 hu), hrest⟩
  next hx hfr _ =>
    subst hx hfr
    obtain ⟨hmembers, hrest⟩ := List.forall_mem_cons.1 hf
    exact Except.ok.inj h ▸ ⟨hmembers.put he, hrest⟩
  next hx hfr _ =>
    subst hx hfr
    obtain ⟨hmembers, hrest⟩ := List.forall_mem_cons.1 hf
    exact Except.ok.inj h ▸ ⟨hp.object (hmembers.put he), hrest⟩
  next => exact absurd h nofun

end Reading

theorem Hereditary.of_read (hp : Hereditary p) {v : Json} (h : read s = .ok v) : p v := by
  have start : Reading.Holds p ⟨.value, []⟩ := ⟨trivial, List.forall_mem_nil _⟩
  unfold read at h
  split at h
  next => exact absurd h nofun
  next =>
    obtain ⟨last, ⟨he, -⟩, hv⟩ := Reading.run_invariant (Reading.Holds.step hp) start h
    unfold Reading.finish at hv
    split at hv
    next hx _ =>
      rw [hx] at he
      exact Except.ok.inj hv ▸ he
    next => exact absurd hv nofun

end Reading

section Keys

/-- No object in the value has a key twice. -/
inductive KeysDistinct : Json → Prop where
  | null : KeysDistinct .null
  | bool (b : Bool) : KeysDistinct (.bool b)
  | int (n : Int) : KeysDistinct (.int n)
  | real (x : Binary64) : KeysDistinct (.real x)
  | string (s : Text) : KeysDistinct (.string s)
  | array {items : List Json} : (∀ v ∈ items, KeysDistinct v) → KeysDistinct (.array items)
  | object {members : List (Text × Json)} : (members.map (·.1)).Nodup →
    (∀ m ∈ members, KeysDistinct m.2) → KeysDistinct (.object members)

theorem hereditary_keysDistinct : Hereditary KeysDistinct where
  scalar ht h := by
    rcases scalar_token ht h with ⟨word, hm⟩ | ⟨l, -, hl⟩
    · exact of_mem_keywords (p := fun _ v => KeysDistinct v) hm .null (.bool _) (.bool _) (.real _)
        (.real _) (.real _)
    · rcases scalar_number hl with ⟨rfl, -⟩ | rfl
      · exact .int _
      · exact .real _
  string := .string
  array := .array
  object h := .object h.distinct h.each

theorem keysDistinct_of_read {s : List Char} {v : Json} (h : read s = .ok v) : v.KeysDistinct :=
  hereditary_keysDistinct.of_read h

end Keys

end FieldSchema.Json
