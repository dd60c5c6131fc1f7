import FieldSchema.Tool.Run

/-! What the steps of a run leave: the files, and the result or the exit code. A run that is asked
for a command reads its settings and takes the steps of that command. -/
namespace FieldSchema.Tool

open Files (Tree)

def Stop.code : Stop → Nat
  | exit code => code
  | breakdown _ => 1

/-- Whether markup can be printed. -/
def Platform.isShown (p : Platform) (markup : Text) : Bool := (p.shown markup).toOption.isSome

variable {p : Platform} {α β : Type} {t t₁ t₂ : Tree}

theorem Platform.Documented.isShown (h : p.Documented) {markup : Text}
    (plain : .char '[' ∉ markup) : p.isShown markup := by
  obtain ⟨shown, hs⟩ := h.shows plain
  rw [Platform.isShown, hs]
  rfl

theorem Action.run_bind (x : Action α) (k : α → Action β) (s : State) : (x >>= k).run s =
    match x.run s with
    | (.ok a, s') => (k a).run s'
    | (.error e, s') => (.error e, s') := by
  change (ExceptT.bindCont k (x.run s).1) (x.run s).2 = _
  rcases x.run s with ⟨_ | _, _⟩ <;> rfl

theorem Action.run_changeFiles (f : Tree → Except Files.Fault Tree) (s : State) :
    (changeFiles f).run s = match f s.tree with
      | .ok tree => (.ok (), { s with tree := tree })
      | .error fault => (.error (.breakdown (.files fault)), s) := by
  have run : (changeFiles f).run s = (onFiles (f s.tree) >>= fun tree =>
      modify fun s => { s with tree := tree }).run s := rfl
  rw [run]
  cases f s.tree <;> rfl

/-- From any state with the files `t` this leads to the files `t'` and to the result, or to exit
code 1 if there is none. -/
def Leaves (x : Action α) (t : Tree) (result : Option α) (t' : Tree) : Prop :=
  ∀ s, s.tree = t → (x.run s).2.tree = t' ∧ match result with
    | some a => (x.run s).1 = .ok a
    | none => ∃ stop, (x.run s).1 = .error stop ∧ stop.code = 1

namespace Leaves

theorem pure (a : α) : Leaves (Pure.pure a) t (some a) t := fun _ hs => ⟨hs, rfl⟩

theorem fail (b : Breakdown) : Leaves (Action.fail b : Action α) t none t :=
  fun _ hs => ⟨hs, _, rfl, rfl⟩

theorem bind {x : Action α} {k : α → Action β} {a : α} {result : Option β}
    (hx : Leaves x t (some a) t₁) (hk : Leaves (k a) t₁ result t₂) :
    Leaves (x >>= k) t result t₂ := by
  intro s hs
  obtain ⟨tree, ok⟩ := hx s hs
  rw [Action.run_bind]
  rcases hr : x.run s with ⟨_, s'⟩
  rw [hr] at tree ok
  obtain rfl : _ = Except.ok a := ok
  exact hk s' tree

theorem bind_none {x : Action α} (hx : Leaves x t none t₁) (k : α → Action β) :
    Leaves (x >>= k) t none t₁ := by
  intro s hs
  obtain ⟨tree, stop, error, code⟩ := hx s hs
  rw [Action.run_bind]
  rcases hr : x.run s with ⟨_, s'⟩
  rw [hr] at tree error
  obtain rfl : _ = Except.error stop := error
  exact ⟨tree, stop, rfl, code⟩

theorem stop : Leaves (Action.stop (.exit 1) : Action α) t none t := fun _ hs => ⟨hs, _, rfl, rfl⟩

theorem report (events : List Event) : Leaves (Action.report events) t (some ()) t :=
  fun _ hs => ⟨hs, rfl⟩

theorem printMarkup (p : Platform) (markup : Text) : Leaves (Action.printMarkup p markup) t
    (if p.isShown markup then some () else none) t := by
  unfold Action.printMarkup Platform.isShown
  cases p.shown markup with
  | ok shown => exact fun _ hs => ⟨hs, rfl⟩
  | error fault => exact .fail _

theorem printError (p : Platform) (text : Text) : Leaves (Action.printError p text) t
    (if p.isShown (p.styled "red" text) then some () else none) t := .printMarkup p _

theorem andStop {x : Action Unit} {result : Option Unit} (hx : Leaves x t result t) :
    Leaves (x >>= fun _ => (Action.stop (.exit 1) : Action α)) t none t := by
  cases result with
  | none => exact .bind_none hx _
  | some _ => exact .bind hx .stop

theorem changeFiles {f : Tree → Except Files.Fault Tree} (h : f t = .ok t₁) :
    Leaves (Action.changeFiles f) t (some ()) t₁ := by
  rintro s rfl
  rw [Action.run_changeFiles, h]
  exact ⟨rfl, rfl⟩

theorem changeFiles_none {f : Tree → Except Files.Fault Tree} {fault : Files.Fault}
    (h : f t = .error fault) : Leaves (Action.changeFiles f) t none t := by
  rintro s rfl
  rw [Action.run_changeFiles, h]
  exact ⟨rfl, _, rfl, rfl⟩

end Leaves

section Runs

variable {env : Environment} {args : List String} {tree left : Tree} {settings : Settings}
  {c : Command}

theorem runArguments_of_commandOf? (h : p.commandOf? args = some c) :
    runArguments p env args = prepare p env >>= fun settings => c.run p settings := by
  unfold Platform.commandOf? at h
  unfold runArguments
  split at h
  next verb rest opening =>
    split at h
    next asked request =>
      obtain rfl := Option.some.inj h
      rw [opening]
      simp only [request]
    next => exact absurd h nofun
  next => exact absurd h nofun

theorem Leaves.prepare (valid : Settings.read? p env = some settings) (t : Tree) :
    Leaves (Tool.prepare p env) t (if settings.threshold?.isSome then some settings else none)
      t := by
  unfold Tool.prepare
  rw [valid]
  dsimp only
  split
  · exact .pure settings
  · exact .fail _

def resultCode : Except Stop Unit → Nat
  | .ok _ => 0
  | .error stop => stop.code

theorem exitCode_run : (run p env tree args).exitCode =
    resultCode ((runArguments p env args).run ⟨tree, [], []⟩).1 := by
  unfold run
  change _ = resultCode ((runArguments p env args).run.run ⟨tree, [], []⟩).1
  rcases (runArguments p env args).run.run ⟨tree, [], []⟩ with ⟨(_ | _) | _, _⟩ <;> rfl

theorem run_of_leaves {result : Option Unit}
    (h : Leaves (runArguments p env args) tree result left) :
    (run p env tree args).tree = left ∧
      (run p env tree args).exitCode = if result.isSome then 0 else 1 := by
  obtain ⟨files, ended⟩ := h ⟨tree, [], []⟩ rfl
  refine ⟨files, ?_⟩
  rw [exitCode_run]
  cases result with
  | some _ =>
    rw [ended]
    rfl
  | none =>
    obtain ⟨stop, error, code⟩ := ended
    rw [error]
    exact code

/-- A run that is asked for a command leaves what the steps of the command leave. -/
theorem run_of_command {result : Option Unit} (valid : Settings.read? p env = some settings)
    (level : settings.threshold?.isSome) (command : p.commandOf? args = some c)
    (h : Leaves (c.run p settings) tree result left) :
    (run p env tree args).tree = left ∧
      (run p env tree args).exitCode = if result.isSome then 0 else 1 := by
  have ready := Leaves.prepare valid tree
  rw [if_pos level] at ready
  refine run_of_leaves ?_
  rw [runArguments_of_commandOf? command]
  exact .bind ready h

/-- Without a log level of a known name a run ends before its command has done anything. -/
theorem run_of_level_none (valid : Settings.read? p env = some settings)
    (level : settings.threshold? = none) (command : p.commandOf? args = some c) (tree : Tree) :
    (run p env tree args).tree = tree ∧ (run p env tree args).exitCode = 1 := by
  have unready := Leaves.prepare valid tree
  rw [level] at unready
  have steps : Leaves (runArguments p env args) tree none tree := by
    rw [runArguments_of_commandOf? command]
    exact .bind_none unready _
  exact run_of_leaves steps

end Runs

end FieldSchema.Tool
