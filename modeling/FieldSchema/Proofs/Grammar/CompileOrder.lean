import FieldSchema.Proofs.Grammar.Sharing
import Mathlib.Data.List.Perm.Basic

/-! The order in which the fields of a schema are compiled: each after those below it, and of an
optional member of an object the field inside alone. What has been asked for when a compilation ends
are these fields, so there is a rule or a shared reference for each of them. -/
namespace FieldSchema

namespace Field

def compiledChildren : Field → List Field
  | object _ members => members.map memberField
  | f => f.children

mutual

/-- The fields that are compiled for a field, which is the last of them. -/
def compileOrder (f : Field) : List Field :=
  match f with
  | object _ members => memberOrder members ++ [f]
  | variant _ alternatives => allOrder alternatives ++ [f]
  | array _ element _ => compileOrder element ++ [f]
  | optional _ inner => compileOrder inner ++ [f]
  | _ => [f]

def memberOrder : List Field → List Field
  | [] => []
  | .optional _ inner :: rest => compileOrder inner ++ memberOrder rest
  | f :: rest => compileOrder f ++ memberOrder rest

def allOrder : List Field → List Field
  | [] => []
  | f :: rest => compileOrder f ++ allOrder rest

end

def optionalMembers : Field → List Field
  | object _ members => members.filter isOptional
  | _ => []

/-- The optional fields of a tree that are members of objects. -/
def allOptionalMembers (f : Field) : List Field := f.preorder.flatMap optionalMembers

section Order

theorem memberOrder_eq (members : List Field) :
    memberOrder members = (members.map memberField).flatMap compileOrder := by
  induction members with
  | nil => rfl
  | cons f rest ih => cases f <;> simp [memberOrder, memberField, ih]

theorem allOrder_eq (fields : List Field) : allOrder fields = fields.flatMap compileOrder := by
  induction fields with
  | nil => rfl
  | cons f rest ih => rw [allOrder, ih, List.flatMap_cons]

theorem compileOrder_eq (f : Field) :
    f.compileOrder = f.compiledChildren.flatMap compileOrder ++ [f] := by
  cases f <;> simp [compileOrder, compiledChildren, children, memberOrder_eq, allOrder_eq]

theorem allOptionalMembers_eq (f : Field) : f.allOptionalMembers =
    f.optionalMembers ++ f.children.flatMap allOptionalMembers := by
  rw [allOptionalMembers, preorder_eq, List.flatMap_cons, List.flatMap_assoc]
  rfl

theorem filter_isOptional (members : List Field) : members.filter isOptional =
    members.flatMap fun m => if m.isOptional then [m] else [] := by
  induction members with
  | nil => rfl
  | cons f rest ih =>
    rw [List.flatMap_cons, ← ih, List.filter_cons]
    cases f.isOptional <;> rfl

/-- The fields that are compiled for a field and the optional members that are left out are the
fields of its tree. -/
def OrderComplete (f : Field) : Prop :=
  (f.compileOrder ++ f.allOptionalMembers).Perm f.preorder

theorem OrderComplete.member {m : Field} (h : m.OrderComplete) (hm : m.memberField.OrderComplete) :
    (m.memberField.compileOrder ++
      ((if m.isOptional then [m] else []) ++ m.allOptionalMembers)).Perm m.preorder := by
  cases m with
  | optional label inner =>
    rw [allOptionalMembers_eq, preorder_eq]
    simpa [isOptional, memberField, optionalMembers, children] using
      List.perm_middle.trans (hm.cons _)
  | _ => exact h

theorem perm_children {f : Field}
    (below : ∀ g ∈ f.children, g.OrderComplete ∧ g.memberField.OrderComplete) :
    (f.compiledChildren.flatMap compileOrder ++
      (f.optionalMembers ++ f.children.flatMap allOptionalMembers)).Perm
        (f.children.flatMap preorder) := by
  have plain : (f.children.flatMap compileOrder ++ f.children.flatMap allOptionalMembers).Perm
      (f.children.flatMap preorder) :=
    (List.flatMap_append_perm _ _ _).trans (List.Perm.flatMap_left _ fun g hg => (below g hg).1)
  cases f with
  | object label members =>
    have members := List.Perm.flatMap_left members fun m hm => (below m hm).1.member (below m hm).2
    refine .trans ?_ members
    rw [compiledChildren, optionalMembers, children, filter_isOptional, List.flatMap_map]
    refine .trans (.append_left _ (List.flatMap_append_perm _ _ _)) ?_
    exact List.flatMap_append_perm _ _ _
  | _ => exact plain

/-- The fields that are compiled and the optional members of objects are those of the tree, each as
often as it occurs there. -/
theorem orderComplete (f : Field) : f.OrderComplete := by
  induction f using induct_members with
  | step f ih =>
    rw [OrderComplete, compileOrder_eq, allOptionalMembers_eq, preorder_eq, List.append_assoc,
      List.singleton_append]
    exact List.perm_middle.trans ((perm_children ih).cons f)

end Order

end Field

namespace Grammar

section Collection

variable {σ α β : Type} (seen : σ → List Field)

/-- If this ends in a result, it has added the fields to those seen before. -/
def Collects (x : Emit σ α) (fields : List Field) : Prop :=
  ∀ s a, (x.run s).1 = .ok a → seen (x.run s).2 = seen s ++ fields

variable {seen}

namespace Collects

theorem pure (a : α) : Collects seen (Pure.pure a : Emit σ α) [] :=
  fun s _ _ => (List.append_nil (seen s)).symm

theorem lift (e : Except GrammarError α) :
    Collects seen (ExceptT.mk (Pure.pure e) : Emit σ α) [] :=
  fun s _ _ => (List.append_nil (seen s)).symm

theorem bind {x : Emit σ α} {k : α → Emit σ β} {fields more : List Field}
    (hx : Collects seen x fields) (hk : ∀ a, Collects seen (k a) more) :
    Collects seen (x >>= k) (fields ++ more) := by
  intro s b hb
  rw [run_bind] at hb ⊢
  have first := hx s
  rcases hr : x.run s with ⟨e | a, s'⟩
  · rw [hr] at hb
    exact absurd hb nofun
  · rw [hr] at hb first
    rw [hk a s' b hb, first a rfl, List.append_assoc]

end Collects

variable {ask : Field → Production → σ → String × σ}

mutual

theorem compileField_collects (h : ∀ f p, Collects seen (emit ask f p) [f]) (f : Field) :
    Collects seen (compileField ask f) f.compileOrder := by
  cases f with
  | real | string | boolean | template => exact h _ _
  | integer | constant | choice => exact .bind (.lift _) fun _ => h _ _
  | object label fields => exact .bind (compileMembers_collects h fields) fun _ => h _ _
  | variant label alternatives => exact .bind (compileAll_collects h alternatives) fun _ => h _ _
  | array label element => exact .bind (compileField_collects h element) fun _ => h _ _
  | optional label inner => exact .bind (compileField_collects h inner) fun _ => h _ _

theorem compileMembers_collects (h : ∀ f p, Collects seen (emit ask f p) [f])
    (fields : List Field) :
    Collects seen (compileMembers ask fields) (Field.memberOrder fields) := by
  cases fields with
  | nil => exact .pure _
  | cons f rest =>
    have later : ∀ k : List Member → List Member, Collects seen
        (do return k (← compileMembers ask rest)) (Field.memberOrder rest) := fun k =>
      List.append_nil (Field.memberOrder rest) ▸
        .bind (compileMembers_collects h rest) fun _ => .pure _
    cases f with
    | optional label inner =>
      exact .bind (compileField_collects h inner) fun _ => later _
    | _ => exact .bind (compileField_collects h _) fun _ => later _

theorem compileAll_collects (h : ∀ f p, Collects seen (emit ask f p) [f]) (fields : List Field) :
    Collects seen (compileAll ask fields) (Field.allOrder fields) := by
  cases fields with
  | nil => exact .pure _
  | cons f rest =>
    refine .bind (compileField_collects h f) fun _ => ?_
    exact List.append_nil (Field.allOrder rest) ▸
      .bind (compileAll_collects h rest) fun _ => .pure _

end

end Collection

section Requests

variable {f : Field} {g : Compiled}

/-- A request is answered by a new rule or by one more use of an earlier one. -/
theorem count_request (f : Field) (p : Production) (r : Rules) :
    (Rules.request f p r).2.size + (Rules.request f p r).2.reused = r.size + r.reused + 1 := by
  have answer := answered_request f p r
  generalize Rules.request f p r = answered at answer ⊢
  cases answer with
  | known | found => rfl
  | shared | fresh =>
    rw [RuleSet.size_define, Nat.add_right_comm]
    rfl

theorem Linked.count {log : List Request} {r : Rules} (h : Linked log r) :
    r.size + r.reused = log.length := by
  induction h with
  | start => rfl
  | next f p _ ih => rw [count_request, ih, List.length_append, List.length_singleton]

theorem fields_requests (h : f.grammar = .ok g) :
    (requests f).map Request.field = f.compileOrder := by
  have one : ∀ f p, Collects (fun s : Rules × List Request => s.2.map Request.field)
      (emit record f p) [f] := fun _ _ _ _ _ => List.map_append
  have same : ∀ g p, Follows Prod.fst (emit record g p) (emit Rules.request g p) :=
    fun _ _ _ => rfl
  have plain := compileField_follows same f (.empty, [])
  rw [run_of_grammar h] at plain
  exact compileField_collects one f (.empty, []) g.top (congrArg Prod.fst plain).symm

/-- Each field is compiled exactly once. Of an optional member of an object the field inside stands
for both; so the rules of a grammar and the shared references are together as many as the fields of
the schema without the optional members of its objects. -/
theorem compiled_each_once (h : f.grammar = .ok g) :
    ((requests f).map Request.field ++ f.allOptionalMembers).Perm f.preorder ∧
    g.rules.size + g.rules.reused = (requests f).length ∧
    g.rules.size + g.rules.reused + f.allOptionalMembers.length = f.preorder.length := by
  have linked := requests_linked f
  rw [run_of_grammar h] at linked
  have complete := f.orderComplete
  rw [Field.OrderComplete, ← fields_requests h] at complete
  refine ⟨complete, linked.count, ?_⟩
  rw [linked.count, ← complete.length_eq, List.length_append, List.length_map]

/-- An optional field in an optional member, one as the element of an array that is always empty,
and fields that share rules with others. -/
def locker : Field := .object ⟨"locker", none, by decide, by decide⟩
  [.optional ⟨"note", none, by decide, by decide⟩
      (.optional ⟨"note", none, by decide, by decide⟩
        (.string ⟨"note", none, by decide, by decide⟩ ⟨0, 40, by decide⟩)),
    .array ⟨"labels", none, by decide, by decide⟩
      (.optional ⟨"label", none, by decide, by decide⟩
        (.string ⟨"label", none, by decide, by decide⟩ ⟨0, 40, by decide⟩)) ⟨0, 0, by decide⟩,
    .variant ⟨"lock", none, by decide, by decide⟩
      [.object ⟨"key", none, by decide, by decide⟩
        [.optional ⟨"lined", none, by decide, by decide⟩
          (.boolean ⟨"lined", none, by decide, by decide⟩)],
      .object ⟨"latch", none, by decide, by decide⟩
        [.optional ⟨"lined", none, by decide, by decide⟩
          (.boolean ⟨"lined", none, by decide, by decide⟩)]]]

/-- Seven rules and four shared references: eleven of the fourteen fields. -/
theorem locker_compiled_once : ∃ g, locker.grammar = .ok g ∧ g.rules.size = 7 ∧
    g.rules.reused = 4 ∧ locker.allOptionalMembers.length = 3 ∧
    g.rules.size + g.rules.reused + locker.allOptionalMembers.length = locker.preorder.length := by
  have counts : (locker.grammar.toOption.map fun g => (g.rules.size, g.rules.reused)) =
      some (7, 4) := by
    decide +kernel
  cases h : locker.grammar with
  | error e => exact absurd (h ▸ counts) nofun
  | ok g =>
    rw [h] at counts
    obtain ⟨size, reused⟩ := Prod.mk.inj (Option.some.inj counts)
    exact ⟨g, rfl, size, reused, by decide +kernel, (compiled_each_once h).2.2⟩

end Requests

end Grammar
end FieldSchema
