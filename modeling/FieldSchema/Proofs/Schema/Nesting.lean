import FieldSchema.Proofs.Schema.Members
import FieldSchema.Schema.Limits

/-! The calls that a walk down a tree of fields nests: they are those at the top and then as many as
the deepest of the fields below nests. -/
namespace FieldSchema.Field

variable {own : Bool → Field → Nat} {f g : Field}

/-- Whether the fields directly below a field are its members. -/
def hasMembers (f : Field) : Bool := f.kind = .object

theorem nestedCalls_eq (own : Bool → Field → Nat) (member : Bool) (f : Field) :
    f.nestedCalls own member = own member f + nestedCallsBelow own f.hasMembers f.children := by
  cases f <;> simp [nestedCalls, nestedCallsBelow, children, hasMembers, kind]

theorem nestedCalls_le_below {member : Bool} {fields : List Field} (hg : g ∈ fields) :
    g.nestedCalls own member ≤ nestedCallsBelow own member fields := by
  induction fields with
  | nil => exact absurd hg List.not_mem_nil
  | cons f rest ih =>
    rw [nestedCallsBelow]
    rcases List.mem_cons.1 hg with rfl | hg
    · exact Nat.le_max_left _ _
    · exact Nat.le_trans (ih hg) (Nat.le_max_right _ _)

/-- Where it is the same for a member, fewer calls are nested for the fields below. -/
theorem nestedCalls_child_le {own : Field → Nat} (hg : g ∈ f.children) (member : Bool) :
    g.nestedCalls (fun _ => own) member ≤ f.nestedCalls (fun _ => own) member := by
  have below : g.nestedCalls (fun _ => own) f.hasMembers ≤ _ := nestedCalls_le_below hg
  have same : g.nestedCalls (fun _ => own) member = g.nestedCalls (fun _ => own) f.hasMembers := by
    rw [nestedCalls_eq, nestedCalls_eq]
  rw [nestedCalls_eq _ _ f, same]
  omega

/-- With few calls for each field, and some more where there are no fields below, few calls are
nested for the whole tree. -/
theorem nestedCalls_le {k n : Nat} (h : ∀ g ∈ f.preorder, ∀ member,
      own member g ≤ if g.children = [] then k + n else k) (member : Bool) :
    f.nestedCalls own member ≤ k * f.preorder.length + n := by
  induction f using induct_children generalizing member with
  | step f ih =>
    have top := h f f.mem_preorder_self member
    have below := closed_preorder _ f h
    have all : ∀ fields ⊆ f.children, nestedCallsBelow own f.hasMembers fields ≤
        k * (fields.flatMap preorder).length + n := by
      intro fields sub
      induction fields with
      | nil => exact Nat.zero_le _
      | cons g rest ih' =>
        obtain ⟨hg, hrest⟩ := List.cons_subset.1 sub
        have first := ih g hg (below g hg) f.hasMembers
        have others := ih' hrest
        rw [nestedCallsBelow, List.flatMap_cons, List.length_append, Nat.mul_add]
        exact Nat.max_le.2 ⟨by omega, by omega⟩
    have children := all f.children (List.Subset.refl _)
    rw [nestedCalls_eq, preorder_eq, List.length_cons, Nat.mul_succ]
    -- Only a field without fields below may nest the further calls, and none follow there.
    split at top
    next none =>
      rw [none, nestedCallsBelow]
      omega
    next => omega

end FieldSchema.Field
