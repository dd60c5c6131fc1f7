/-! The rules emitted so far. A shared rule is found again by its name, any other by its production;
so every name is defined once, and equal structures end up under one name. -/
namespace FieldSchema.Grammar

def reserved : List String := ["root", "boolean"]

structure RuleSet (P : Type) where
  /-- Names with their productions, in the order of emission. -/
  rules : List (String × P)
  /-- How many requests an earlier rule answered. -/
  reused : Nat

namespace RuleSet

variable {P : Type}

def empty : RuleSet P := ⟨[], 0⟩

def size (r : RuleSet P) : Nat := r.rules.length

def defines (r : RuleSet P) (name : String) : Bool := r.rules.any (·.1 == name)

def define (r : RuleSet P) (name : String) (p : P) : RuleSet P :=
  { r with rules := r.rules ++ [(name, p)] }

def reuse (r : RuleSet P) : RuleSet P := { r with reused := r.reused + 1 }

@[simp] theorem size_define (r : RuleSet P) (name : String) (p : P) :
    (r.define name p).size = r.size + 1 := by
  simp [size, define]

/-- The first rule with this production. -/
def nameOf? [DecidableEq P] (r : RuleSet P) (p : P) : Option String :=
  (r.rules.find? (·.2 = p)).map (·.1)

def isTaken (r : RuleSet P) (name : String) : Bool := r.defines name || reserved.contains name

def suffixed (name : String) (n : Nat) : String := s!"{name}-{n}"

/-- The preferred name, or else the first of `name-2`, `name-3`, … that is free. Each of the names
tried in vain is a rule or reserved, which bounds the search. -/
def freeName (r : RuleSet P) (preferred : String) : String :=
  if r.isTaken preferred then
    let tries := r.size + reserved.length
    let candidates := (List.range tries).map fun n => suffixed preferred (n + 2)
    (candidates.find? (!r.isTaken ·)).getD (suffixed preferred (tries + 2))
  else preferred

/-- The rule of this name, defined now unless it is there already. -/
def shared (r : RuleSet P) (name : String) (p : P) : String × RuleSet P :=
  if r.defines name then (name, r.reuse) else (name, r.define name p)

/-- A rule with this production: an earlier one, or a new one under a free name. -/
def add [DecidableEq P] (r : RuleSet P) (preferred : String) (p : P) : String × RuleSet P :=
  match r.nameOf? p with
  | some name => (name, r.reuse)
  | none => (r.freeName preferred, r.define (r.freeName preferred) p)

/-- The rules as text, each production written by `render`. -/
def lines (render : P → String) (r : RuleSet P) : List String :=
  r.rules.map fun (name, p) => s!"{name} ::= {render p}"

end RuleSet
end FieldSchema.Grammar
