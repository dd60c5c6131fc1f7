import FieldSchema.Files.Tree
import Mathlib.Data.List.Infix
import Mathlib.Data.List.TakeWhile

/-! Files that are written one after the other. A file is written where no directory is and below
one that is there, so the directories stay as they are and every path leads where it led before;
what was written last at a place is what it holds, and all other files are left alone. -/
namespace FieldSchema.Files.Tree

variable {t t' made : Tree} {p : Path} {place q : Place} {c : Content}

section Places

theorem isDirectory_iff : t.isDirectory q ↔ q <+: t.current ∨ (∃ d ∈ t.directories, q <+: d) ∨
    ∃ f ∈ t.files, q <+: f.1 ∧ q ≠ f.1 := by
  simp [isDirectory, or_assoc]

theorem isDirectory_of_below (h : t.isDirectory place) (hq : q <+: place) : t.isDirectory q := by
  rw [isDirectory_iff] at h ⊢
  rcases h with h | ⟨d, hd, h⟩ | ⟨f, hf, h, other⟩
  · exact .inl (hq.trans h)
  · exact .inr (.inl ⟨d, hd, hq.trans h⟩)
  · refine .inr (.inr ⟨f, hf, hq.trans h, fun he => other ?_⟩)
    exact h.eq_of_length_le (he ▸ hq.length_le)

def Attached (t : Tree) (place : Place) : Prop := ∀ q, q <+: place → q ≠ place → t.isDirectory q

theorem attached_of_isDirectory (h : t.isDirectory place) : t.Attached place :=
  fun _ hq _ => isDirectory_of_below h hq

theorem attached_enter (h : t.isDirectory place) (part : String) :
    t.Attached (enter place part) := by
  unfold enter
  split
  · exact attached_of_isDirectory (isDirectory_of_below h place.dropLast_prefix)
  · intro q hq other
    exact isDirectory_of_below h (List.prefix_concat_iff.1 hq |>.resolve_left other)

theorem attached_follow {parts : List String} {last : Place} (h : t.follow place parts = .ok last)
    (hp : t.Attached place) : t.Attached last := by
  induction parts generalizing place with
  | nil => exact Except.ok.inj h ▸ hp
  | cons part rest ih =>
    rw [follow] at h
    split_ifs at h with _ missing
    exact ih h (attached_enter (by simpa using missing) part)

theorem follow_of_locate (h : t.locate p = .ok place) :
    t.follow (t.start p) p.parts = .ok place := by
  unfold locate at h
  split_ifs at h
  exact h

/-- A path leads to nothing but what a directory contains, or to one. -/
theorem attached_of_locate (h : t.locate p = .ok place) : t.Attached place := by
  refine attached_follow (follow_of_locate h) (attached_of_isDirectory ?_)
  rw [isDirectory_iff, start]
  split
  · exact .inl List.nil_prefix
  · exact .inl (List.prefix_refl _)

theorem follow_concat {parts : List String} {name : String} {last : Place}
    (h : t.follow place (parts ++ [name]) = .ok last) : ∃ q, last = enter q name := by
  induction parts generalizing place with
  | nil =>
    rw [List.nil_append, follow, follow] at h
    split_ifs at h
    exact ⟨place, (Except.ok.inj h).symm⟩
  | cons part rest ih =>
    rw [List.cons_append, follow] at h
    split_ifs at h
    exact ih h

theorem getLast?_of_locate_child {name : String} (hn : name ≠ "..")
    (h : t.locate (p.child name) = .ok place) : place.getLast? = some name := by
  obtain ⟨q, rfl⟩ := follow_concat (follow_of_locate h)
  rw [enter, if_neg hn, List.getLast?_concat]

end Places

section Agreement

/-- The second tree has the directories of the first, and no file more or less in place of one. -/
structure Agrees (t t' : Tree) : Prop where
  current : t'.current = t.current
  directory : ∀ q, t'.isDirectory q = t.isDirectory q
  file : ∀ q, t.isDirectory q → t'.isFile q = t.isFile q

theorem Agrees.refl (t : Tree) : t.Agrees t := ⟨rfl, fun _ => rfl, fun _ _ => rfl⟩

theorem Agrees.trans {t₁ t₂ t₃ : Tree} (h : t₁.Agrees t₂) (h' : t₂.Agrees t₃) : t₁.Agrees t₃ where
  current := h'.current.trans h.current
  directory q := (h'.directory q).trans (h.directory q)
  file q hq := (h'.file q ((h.directory q).trans hq)).trans (h.file q hq)

theorem Agrees.follow_iff (h : t.Agrees t') {parts : List String} {last : Place} :
    t'.follow place parts = .ok last ↔ t.follow place parts = .ok last := by
  induction parts generalizing place with
  | nil => exact Iff.rfl
  | cons part rest ih =>
    rw [follow, follow, h.directory place]
    cases hd : t.isDirectory place with
    | false =>
      -- Either way the path is of no use; only the complaint may differ.
      exact iff_of_false (by split_ifs <;> simp_all) (by split_ifs <;> simp_all)
    | true =>
      rw [h.file place hd]
      split_ifs <;> first | exact ih | exact Iff.rfl

theorem Agrees.locate_iff (h : t.Agrees t') : t'.locate p = .ok place ↔ t.locate p = .ok place := by
  rw [locate, locate, start, start, h.current]
  split_ifs <;> first | exact h.follow_iff | exact Iff.rfl

end Agreement

section Writing

def put (t : Tree) (place : Place) (c : Content) : Tree :=
  { t with files := t.files.filter (·.1 ≠ place) ++ [(place, c)] }

theorem lookup_filter_ne (files : List (Place × Content)) (h : q ≠ place) :
    (files.filter (·.1 ≠ place)).lookup q = files.lookup q := by
  induction files with
  | nil => rfl
  | cons f rest ih =>
    obtain ⟨other, c⟩ := f
    rw [List.filter_cons, List.lookup_cons]
    split_ifs with kept
    · rw [List.lookup_cons, ih]
    · obtain rfl : other = place := by simpa using kept
      rw [beq_false_of_ne h, ih]

@[simp] theorem content?_put_self (t : Tree) (place : Place) (c : Content) :
    (t.put place c).content? place = some c := by
  have gone : (t.files.filter (·.1 ≠ place)).lookup place = none := by
    refine List.lookup_eq_none_iff.2 fun f hf => bne_iff_ne.2 fun same => ?_
    exact of_decide_eq_true (List.mem_filter.1 hf).2 same.symm
  rw [content?, put, List.lookup_append, gone, Option.none_or, List.lookup_cons_self]

theorem content?_put_of_ne (c : Content) (h : q ≠ place) :
    (t.put place c).content? q = t.content? q := by
  rw [content?, put, List.lookup_append, lookup_filter_ne t.files h, List.lookup_cons,
    beq_false_of_ne h, List.lookup_nil, Option.or_none, content?]

theorem isFile_eq (t : Tree) (q : Place) : t.isFile q = (t.content? q).isSome := by
  rw [Bool.eq_iff_iff, content?, List.lookup_isSome_iff, isFile, List.any_eq_true]
  exact exists_congr fun f => and_congr_right fun _ => by rw [Bool.beq_comm]

def isWritable (t : Tree) (p : Path) : Bool :=
  match t.locate p with
  | .ok place => !t.isDirectory place
  | .error _ => false

theorem isWritable_iff :
    t.isWritable p ↔ ∃ place, t.locate p = .ok place ∧ t.isDirectory place = false := by
  unfold isWritable
  cases t.locate p <;> simp

theorem Agrees.isWritable (h : t.Agrees t') (p : Path) : t'.isWritable p = t.isWritable p := by
  rw [Bool.eq_iff_iff, isWritable_iff, isWritable_iff]
  simp only [h.locate_iff, h.directory]

theorem write_eq_ok_iff : t.write p c = .ok t' ↔
    ∃ place, t.locate p = .ok place ∧ t.isDirectory place = false ∧ t' = t.put place c := by
  unfold write
  cases hl : t.locate p with
  | error fault => simp [bind, Except.bind]
  | ok place =>
    simp only [bind, Except.bind, pure, Except.pure]
    cases hd : t.isDirectory place with
    | true => simp [hd, throw, throwThe, MonadExceptOf.throw]
    | false =>
      rw [if_neg Bool.false_ne_true]
      constructor
      · exact fun h => ⟨place, rfl, hd, (Except.ok.inj h).symm⟩
      · rintro ⟨_, same, _, rfl⟩
        obtain rfl := Except.ok.inj same
        rfl

theorem write_of_isWritable (h : t.isWritable p) (c : Content) : ∃ t', t.write p c = .ok t' := by
  obtain ⟨place, located, free⟩ := isWritable_iff.1 h
  exact ⟨_, write_eq_ok_iff.2 ⟨place, located, free, rfl⟩⟩

theorem write_of_not_isWritable (h : t.isWritable p = false) (c : Content) :
    ∃ fault, t.write p c = .error fault := by
  cases hw : t.write p c with
  | error fault => exact ⟨fault, rfl⟩
  | ok t' =>
    obtain ⟨place, located, free, -⟩ := write_eq_ok_iff.1 hw
    rw [isWritable_iff.2 ⟨place, located, free⟩] at h
    exact absurd h nofun

theorem agrees_put (located : t.locate p = .ok place) (free : t.isDirectory place = false)
    (c : Content) : t.Agrees (t.put place c) where
  current := rfl
  directory q := by
    rw [Bool.eq_iff_iff, isDirectory_iff]
    constructor
    · rintro (h | h | ⟨f, hf, h, other⟩)
      · exact isDirectory_iff.2 (.inl h)
      · exact isDirectory_iff.2 (.inr (.inl h))
      · rcases List.mem_append.1 hf with hf | hf
        · exact isDirectory_iff.2 (.inr (.inr ⟨f, (List.mem_filter.1 hf).1, h, other⟩))
        · obtain rfl := List.mem_singleton.1 hf
          exact attached_of_locate located q h other
    · rw [isDirectory_iff]
      rintro (h | h | ⟨f, hf, h, other⟩)
      · exact .inl h
      · exact .inr (.inl h)
      · refine .inr (.inr ?_)
        by_cases hp : f.1 = place
        · exact ⟨_, List.mem_append_right _ (List.mem_singleton_self _), hp ▸ h, hp ▸ other⟩
        · exact ⟨f, List.mem_append_left _ (List.mem_filter.2 ⟨hf, by simpa using hp⟩), h, other⟩
  file q hq := by
    have other : q ≠ place := by
      rintro rfl
      rw [hq] at free
      exact absurd free nofun
    rw [isFile_eq, isFile_eq, content?_put_of_ne c other]

end Writing

section Directories

theorem follow_of_more (h : ∀ q, t.isDirectory q → t'.isDirectory q)
    (files : ∀ q, t'.isFile q = t.isFile q) {parts : List String} {last : Place}
    (led : t.follow place parts = .ok last) : t'.follow place parts = .ok last := by
  induction parts generalizing place with
  | nil => exact led
  | cons part rest ih =>
    rw [follow] at led
    split_ifs at led with file missing long
    have there : t'.isDirectory place := h place (by simpa using missing)
    rw [follow, files, if_neg file, there, if_neg (by simp), if_neg long]
    exact ih led

theorem exists_of_makeLast (h : t.makeLast p = .ok made) :
    ∃ place, made.locate p = .ok place ∧ made.isDirectory place := by
  obtain ⟨place, located, ⟨hd, rfl⟩ | rfl⟩ := exists_of_makeLast_eq_ok h
  · exact ⟨place, located, hd⟩
  · have more : ∀ q, t.isDirectory q →
        ({ t with directories := place :: t.directories } : Tree).isDirectory q := by
      intro q hq
      rw [isDirectory_iff] at hq ⊢
      rcases hq with hq | ⟨d, hd, hq⟩ | hq
      · exact .inl hq
      · exact .inr (.inl ⟨d, List.mem_cons_of_mem _ hd, hq⟩)
      · exact .inr (.inr hq)
    have led := follow_of_more more (fun _ => rfl) (follow_of_locate located)
    refine ⟨place, ?_, isDirectory_iff.2 (.inr (.inl ⟨place, List.mem_cons_self,
      List.prefix_refl _⟩))⟩
    unfold locate at located ⊢
    split_ifs at located ⊢
    exact led

theorem exists_of_makeDirectory (h : t.makeDirectory p = .ok made) :
    ∃ place, made.locate p = .ok place ∧ made.isDirectory place := by
  obtain ⟨above, -, last⟩ := exists_of_makeUpTo_eq_ok h
  rw [List.take_length] at last
  exact exists_of_makeLast last

theorem makeLast_of_isDirectory (located : t.locate p = .ok place) (h : t.isDirectory place) :
    t.makeLast p = .ok t := by
  simp [makeLast, located, h, bind, Except.bind, pure, Except.pure]

theorem makeDirectory_of_isDirectory (located : t.locate p = .ok place) (h : t.isDirectory place) :
    t.makeDirectory p = .ok t := by
  have last := makeLast_of_isDirectory located h
  unfold makeDirectory
  cases hn : p.parts.length with
  | zero =>
    rw [makeUpTo, ← List.eq_nil_of_length_eq_zero hn]
    exact last
  | succ n =>
    rw [makeUpTo, ← hn, List.take_length, last]

theorem Agrees.makeDirectory (h : t.makeDirectory p = .ok made) (agrees : made.Agrees t') :
    t'.makeDirectory p = .ok t' := by
  obtain ⟨place, located, there⟩ := exists_of_makeDirectory h
  exact makeDirectory_of_isDirectory (agrees.locate_iff.2 located)
    ((agrees.directory place).trans there)

end Directories

section Drafts

/-- A file that is to be written. -/
structure Draft where
  path : Path
  content : Content

/-- Writes files one after the other, up to the first that cannot be written. -/
def writeAll (t : Tree) : List Draft → Tree
  | [] => t
  | d :: rest =>
    match t.write d.path d.content with
    | .ok t' => t'.writeAll rest
    | .error _ => t

def writable (t : Tree) (drafts : List Draft) : List Draft :=
  drafts.takeWhile (t.isWritable ·.path)

variable {d : Draft} {drafts : List Draft}

theorem Agrees.writable (h : t.Agrees t') (drafts : List Draft) :
    t'.writable drafts = t.writable drafts := by
  simp only [Tree.writable, h.isWritable]

theorem writable_cons (h : t.isWritable d.path) (drafts : List Draft) :
    t.writable (d :: drafts) = d :: t.writable drafts := List.takeWhile_cons_of_pos h

theorem writeAll_of_not_isWritable (h : t.isWritable d.path = false) (drafts : List Draft) :
    t.writeAll (d :: drafts) = t := by
  obtain ⟨fault, hw⟩ := write_of_not_isWritable h d.content
  rw [writeAll, hw]

theorem exists_writeAll_cons (h : t.isWritable d.path) :
    ∃ place, t.locate d.path = .ok place ∧ t.Agrees (t.put place d.content) ∧
      ∀ drafts, t.writeAll (d :: drafts) = (t.put place d.content).writeAll drafts := by
  obtain ⟨place, located, free⟩ := isWritable_iff.1 h
  refine ⟨place, located, agrees_put located free _, fun drafts => ?_⟩
  rw [writeAll, write_eq_ok_iff.2 ⟨place, located, free, rfl⟩]

theorem agrees_writeAll (t : Tree) (drafts : List Draft) : t.Agrees (t.writeAll drafts) := by
  induction drafts generalizing t with
  | nil => exact .refl t
  | cons d rest ih =>
    cases h : t.isWritable d.path with
    | false =>
      rw [writeAll_of_not_isWritable h]
      exact .refl t
    | true =>
      obtain ⟨place, -, agrees, whole⟩ := exists_writeAll_cons h
      rw [whole]
      exact agrees.trans (ih _)

theorem writeAll_append (t : Tree) (drafts more : List Draft) :
    t.writeAll (drafts ++ more) =
      if drafts.all (t.isWritable ·.path) then (t.writeAll drafts).writeAll more
      else t.writeAll drafts := by
  induction drafts generalizing t with
  | nil => rfl
  | cons d rest ih =>
    rw [List.cons_append, List.all_cons]
    cases h : t.isWritable d.path with
    | false =>
      rw [writeAll_of_not_isWritable h, writeAll_of_not_isWritable h]
      rfl
    | true =>
      obtain ⟨place, -, agrees, whole⟩ := exists_writeAll_cons h
      rw [whole, whole, ih, Bool.true_and]
      simp only [agrees.isWritable]

theorem content?_writeAll_of_ne (h : ∀ d ∈ t.writable drafts, t.locate d.path ≠ .ok q) :
    (t.writeAll drafts).content? q = t.content? q := by
  induction drafts generalizing t with
  | nil => rfl
  | cons d rest ih =>
    cases hd : t.isWritable d.path with
    | false => rw [writeAll_of_not_isWritable hd]
    | true =>
      obtain ⟨place, located, agrees, whole⟩ := exists_writeAll_cons hd
      rw [writable_cons hd] at h
      obtain ⟨first, later⟩ := List.forall_mem_cons.1 h
      have other : q ≠ place := fun he => first (he ▸ located)
      rw [whole, ih, content?_put_of_ne _ other]
      rw [agrees.writable]
      exact fun d hm hl => later d hm (agrees.locate_iff.1 hl)

theorem content?_writeAll (some : ∃ d ∈ t.writable drafts, t.locate d.path = .ok q)
    (same : ∀ d ∈ drafts, t.locate d.path = .ok q → d.content = c) :
    (t.writeAll drafts).content? q = .some c := by
  induction drafts generalizing t with
  | nil => exact absurd some nofun
  | cons d rest ih =>
    obtain ⟨sameFirst, sameLater⟩ := List.forall_mem_cons.1 same
    cases hd : t.isWritable d.path with
    | false =>
      obtain ⟨_, hm, -⟩ := some
      rw [writable, List.takeWhile_cons_of_neg (by simp [hd])] at hm
      exact absurd hm List.not_mem_nil
    | true =>
      obtain ⟨place, located, agrees, whole⟩ := exists_writeAll_cons hd
      have later : ∀ d' ∈ rest, (t.put place d.content).locate d'.path = .ok q → d'.content = c :=
        fun d' hm hl => sameLater d' hm (agrees.locate_iff.1 hl)
      rw [whole]
      by_cases again : ∃ d' ∈ (t.put place d.content).writable rest,
          (t.put place d.content).locate d'.path = .ok q
      · exact ih again later
      · -- The first file is the last one that is written here.
        have here : t.locate d.path = .ok q := by
          obtain ⟨d', hm, hl⟩ := some
          rw [writable_cons hd] at hm
          rcases List.mem_cons.1 hm with rfl | hm
          · exact hl
          · rw [← agrees.writable] at hm
            exact absurd ⟨d', hm, agrees.locate_iff.2 hl⟩ again
        obtain rfl : place = q := Except.ok.inj (located.symm.trans here)
        rw [content?_writeAll_of_ne fun d' hm hl => again ⟨d', hm, hl⟩, content?_put_self,
          sameFirst here]

/-- Files that are to be written at the same place are the same. -/
def Coherent (t : Tree) (drafts : List Draft) : Prop := ∀ d ∈ drafts, ∀ d' ∈ drafts, ∀ place,
  t.locate d.path = .ok place → t.locate d'.path = .ok place → d.content = d'.content

theorem mem_of_mem_writable (h : d ∈ t.writable drafts) : d ∈ drafts :=
  (List.takeWhile_sublist _).subset h

theorem isWritable_of_mem_writable (h : d ∈ t.writable drafts) : t.isWritable d.path :=
  List.mem_takeWhile_imp (p := fun d : Draft => t.isWritable d.path) h

theorem Coherent.read_writeAll (coherent : t.Coherent drafts) (h : d ∈ t.writable drafts) :
    (t.writeAll drafts).read d.path = .ok d.content := by
  obtain ⟨place, located, free⟩ := isWritable_iff.1 (isWritable_of_mem_writable h)
  have agrees := agrees_writeAll t drafts
  have held : (t.writeAll drafts).content? place = some d.content :=
    content?_writeAll ⟨d, h, located⟩ fun d' hm hl =>
      coherent d' hm d (mem_of_mem_writable h) place hl located
  simp [read, agrees.locate_iff.2 located, agrees.directory, free, held, bind, Except.bind, pure,
    Except.pure]

theorem Coherent.content?_writeAll_again (coherent : t.Coherent drafts) (q : Place) :
    ((t.writeAll drafts).writeAll drafts).content? q = (t.writeAll drafts).content? q := by
  have agrees := agrees_writeAll t drafts
  by_cases written : ∃ d ∈ t.writable drafts, t.locate d.path = .ok q
  · have again := written
    rw [← agrees.writable drafts] at again
    obtain ⟨d, hm, hl⟩ := written
    have same : ∀ d' ∈ drafts, t.locate d'.path = .ok q → d'.content = d.content :=
      fun d' hm' hl' => coherent d' hm' d (mem_of_mem_writable hm) q hl' hl
    rw [content?_writeAll ⟨d, hm, hl⟩ same]
    obtain ⟨d', hm', hl'⟩ := again
    refine content?_writeAll ⟨d', hm', agrees.locate_iff.2 (?_)⟩ fun d hm hl =>
      same d hm (agrees.locate_iff.1 hl)
    exact hl'
  · refine content?_writeAll_of_ne fun d hm hl => written ⟨d, ?_, agrees.locate_iff.1 hl⟩
    exact agrees.writable drafts ▸ hm

end Drafts

end FieldSchema.Files.Tree
