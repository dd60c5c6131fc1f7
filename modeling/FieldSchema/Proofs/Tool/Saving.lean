import FieldSchema.Proofs.Files.Tree
import FieldSchema.Proofs.Grammar.Refusal
import FieldSchema.Proofs.Tool.Steps
import FieldSchema.Terminal.Platform

/-! Saving schemas of the catalogue. A run goes through the names that it is given and writes two
files for each, up to the first name that is unknown or the first file that cannot be written. The
name of a file says what it holds, so names may be repeated, and a second run writes the same again.
-/
namespace FieldSchema.Tool

open Files (Tree Path Place)
open Files.Tree (Draft)

section Writing

/-- From any files, this writes these files up to the first that cannot be written. It fails there,
and after all of them if it is not said to be complete. -/
def Writes (x : Action Unit) (drafts : List Draft) (complete : Bool) : Prop :=
  ∀ t, Leaves x t (if drafts.all (t.isWritable ·.path) && complete then some () else none)
    (t.writeAll drafts)

namespace Writes

variable {p : Platform} {t : Tree} {x y : Action Unit} {drafts more : List Draft} {complete : Bool}

theorem andThen (hx : Writes x drafts true) (hy : Writes y more complete) :
    Writes (x >>= fun _ => y) (drafts ++ more) complete := by
  intro t
  have agrees := Files.Tree.agrees_writeAll t drafts
  have first := hx t
  have later := hy (t.writeAll drafts)
  simp only [agrees.isWritable] at later
  rw [Files.Tree.writeAll_append, List.all_append]
  cases h : drafts.all (t.isWritable ·.path) with
  | false =>
    rw [h] at first
    exact .bind_none first _
  | true =>
    rw [h] at first
    exact .bind first later

theorem stopped (hx : Writes x drafts false) (k : Unit → Action Unit) :
    Writes (x >>= k) drafts false := by
  intro t
  have first := hx t
  rw [Bool.and_false] at first ⊢
  exact .bind_none first k

theorem andEnd {ends : Bool} (hx : Writes x drafts complete) (hy : Writes y [] ends) :
    Writes (x >>= fun _ => y) drafts (complete && ends) := by
  cases complete with
  | false => exact hx.stopped _
  | true => simpa using hx.andThen hy

theorem done : Writes (pure ()) [] true := fun _ => .pure ()

theorem printMarkup (p : Platform) (markup : String) :
    Writes (Action.printMarkup p markup) [] (p.isShown markup) := fun _ => .printMarkup p _

theorem saveFile (path : Path) (text what : String) :
    Writes (saveFile path text what) [⟨path, .ofString text⟩] true := by
  intro t
  unfold Tool.saveFile
  rw [Bool.and_true, List.all_cons, List.all_nil, Bool.and_true]
  cases h : t.isWritable path with
  | false =>
    obtain ⟨fault, hw⟩ := Files.Tree.write_of_not_isWritable h (.ofString text)
    rw [Files.Tree.writeAll_of_not_isWritable (d := ⟨path, .ofString text⟩) h]
    exact .bind_none (.changeFiles_none hw) _
  | true =>
    obtain ⟨t', hw⟩ := Files.Tree.write_of_isWritable h (.ofString text)
    rw [Files.Tree.writeAll, hw]
    exact .bind (.changeFiles hw) (.report _)

end Writes

end Writing

section Requests

def isKnown (name : String) : Bool := (Gallery.catalogue.lookup name).isSome

/-- The names that a run goes through: without any, all of the catalogue. -/
def wanted (names : List String) : List String :=
  if names = [] then Gallery.catalogue.map (·.1) else names

def drafts (settings : Settings) (target : Path) (name : String) : List Draft :=
  match Gallery.catalogue.lookup name with
  | some (.ok f) =>
    match f.grammar with
    | .ok g => [⟨target.child (grammarFile name), .ofString g.text⟩,
        ⟨target.child (templateFile name), .ofString (templateOf f settings)⟩]
    | .error _ => []
  | _ => []

/-- The files that a run is asked for, up to the first name that is unknown. -/
def requested (settings : Settings) (target : Path) (names : List String) : List Draft :=
  (names.takeWhile isKnown).flatMap (drafts settings target)

def targetOf (settings : Settings) (directory : Option String) : Path :=
  (directory.map Path.ofString).getD settings.outputDir

variable {settings : Settings} {target : Path} {name : String}

theorem catalogue_compiles : ∀ entry ∈ Gallery.catalogue,
    ∃ f g, entry.2 = .ok f ∧ f.grammar = .ok g := by
  have spellable : Gallery.catalogue.all fun entry =>
      entry.2.toOption.any fun f => decide f.Spellable := by decide +kernel
  intro entry h
  have this := List.all_eq_true.1 spellable entry h
  cases hb : entry.2 with
  | error e => simp [hb, Except.toOption] at this
  | ok f =>
    obtain ⟨g, hg⟩ := Grammar.grammar_isOk_iff.2 (by simpa [hb, Except.toOption] using this)
    exact ⟨f, g, rfl, hg⟩

theorem exists_mem_of_isKnown (h : isKnown name) : ∃ built,
    Gallery.catalogue.lookup name = some built ∧ (name, built) ∈ Gallery.catalogue := by
  obtain ⟨built, hb⟩ := Option.isSome_iff_exists.1 h
  obtain ⟨before, after, split, -⟩ := List.lookup_eq_some_iff.1 hb
  exact ⟨built, hb, by simp [split]⟩

theorem exists_of_isKnown (h : isKnown name) : ∃ f g,
    Gallery.catalogue.lookup name = some (.ok f) ∧ f.grammar = .ok g := by
  obtain ⟨built, hb, entry⟩ := exists_mem_of_isKnown h
  obtain ⟨f, g, rfl, hg⟩ := catalogue_compiles _ entry
  exact ⟨f, g, hb, hg⟩

theorem drafts_eq {f : Field} {g : Grammar.Compiled}
    (hf : Gallery.catalogue.lookup name = some (.ok f)) (hg : f.grammar = .ok g) :
    drafts settings target name =
      [⟨target.child (grammarFile name), .ofString g.text⟩,
        ⟨target.child (templateFile name), .ofString (templateOf f settings)⟩] := by
  rw [drafts, hf]
  dsimp only
  rw [hg]

/-- Whether the paths of the files of this name have a property. -/
def bothPaths (p : Path → Bool) (target : Path) (name : String) : Bool :=
  p (target.child (grammarFile name)) && p (target.child (templateFile name))

theorem all_drafts (settings : Settings) (h : isKnown name) (p : Path → Bool) :
    (drafts settings target name).all (p ·.path) = bothPaths p target name := by
  obtain ⟨f, g, hf, hg⟩ := exists_of_isKnown h
  rw [drafts_eq hf hg, List.all_cons, List.all_cons, List.all_nil, Bool.and_true, bothPaths]

theorem all_requested_iff (settings : Settings) {names : List String} (p : Path → Bool) :
    names.all isKnown ∧ (requested settings target names).all (p ·.path) ↔
      ∀ name ∈ names, isKnown name ∧ bothPaths p target name := by
  rw [forall₂_and, List.all_eq_true]
  refine and_congr_right fun known => ?_
  rw [requested, List.takeWhile_eq_self_iff.2 known, List.all_flatMap, List.all_eq_true]
  exact forall₂_congr fun name h => by rw [all_drafts settings (known name h)]

end Requests

section FileNames

theorem grammarFile_eq (name : String) : grammarFile name = name ++ ".gbnf" := by
  simp [grammarFile, toString]

theorem templateFile_eq (name : String) : templateFile name = name ++ "_template.json" := by
  simp [templateFile, toString]

theorem grammarFile_injective : Function.Injective grammarFile := by
  intro a b h
  rw [grammarFile_eq, grammarFile_eq] at h
  exact (String.append_left_inj _).1 h

theorem templateFile_injective : Function.Injective templateFile := by
  intro a b h
  rw [templateFile_eq, templateFile_eq] at h
  exact (String.append_left_inj _).1 h

theorem getLast?_grammarFile (name : String) : (grammarFile name).toList.getLast? = some 'f' := by
  rw [grammarFile_eq]
  simp

theorem getLast?_templateFile (name : String) :
    (templateFile name).toList.getLast? = some 'n' := by
  rw [templateFile_eq]
  simp

theorem grammarFile_ne_templateFile (a b : String) : grammarFile a ≠ templateFile b := by
  intro h
  have last := getLast?_grammarFile a
  rw [h, getLast?_templateFile] at last
  exact absurd last (by decide)

/-- The files of a schema, by their names. -/
inductive IsFileOf (settings : Settings) (name : String) : String → Files.Content → Prop where
  | grammar {f : Field} {g : Grammar.Compiled} : Gallery.catalogue.lookup name = some (.ok f) →
    f.grammar = .ok g → IsFileOf settings name (grammarFile name) (.ofString g.text)
  | template {f : Field} : Gallery.catalogue.lookup name = some (.ok f) →
    IsFileOf settings name (templateFile name) (.ofString (templateOf f settings))

variable {settings : Settings} {target : Path} {name : String} {d : Draft}

theorem isFileOf_of_mem_drafts (h : d ∈ drafts settings target name) :
    ∃ file, d.path = target.child file ∧ IsFileOf settings name file d.content := by
  unfold drafts at h
  split at h
  next f hf =>
    split at h
    next g hg =>
      rcases List.mem_pair.1 h with rfl | rfl
      · exact ⟨_, rfl, .grammar hf hg⟩
      · exact ⟨_, rfl, .template hf⟩
    next => exact absurd h List.not_mem_nil
  next => exact absurd h List.not_mem_nil

theorem IsFileOf.ne_parent {file : String} {c : Files.Content} (h : IsFileOf settings name file c) :
    file ≠ ".." := by
  intro he
  have last : file.toList.getLast? = some '.' := he ▸ rfl
  cases h with
  | grammar =>
    rw [getLast?_grammarFile] at last
    exact absurd last (by decide)
  | template =>
    rw [getLast?_templateFile] at last
    exact absurd last (by decide)

theorem IsFileOf.content_eq {name' file : String} {c c' : Files.Content}
    (h : IsFileOf settings name file c) (h' : IsFileOf settings name' file c') : c = c' := by
  generalize he : file = file' at h'
  cases h with
  | grammar hf hg =>
    cases h' with
    | grammar hf' hg' =>
      obtain rfl := grammarFile_injective he
      rw [hf] at hf'
      obtain rfl := Except.ok.inj (Option.some.inj hf')
      rw [hg] at hg'
      rw [Except.ok.inj hg']
    | template => exact absurd he (grammarFile_ne_templateFile _ _)
  | template hf =>
    cases h' with
    | grammar => exact absurd he.symm (grammarFile_ne_templateFile _ _)
    | template hf' =>
      obtain rfl := templateFile_injective he
      rw [hf] at hf'
      rw [Except.ok.inj (Option.some.inj hf')]

/-- Of the files that a run is asked for, those at one place are the same. -/
theorem coherent_requested (t : Tree) (settings : Settings) (target : Path) (names : List String) :
    t.Coherent (requested settings target names) := by
  intro d hd d' hd' place located located'
  obtain ⟨name, -, hd⟩ := List.mem_flatMap.1 hd
  obtain ⟨name', -, hd'⟩ := List.mem_flatMap.1 hd'
  obtain ⟨file, path, held⟩ := isFileOf_of_mem_drafts hd
  obtain ⟨file', path', held'⟩ := isFileOf_of_mem_drafts hd'
  rw [path] at located
  rw [path'] at located'
  have last := Files.Tree.getLast?_of_locate_child held.ne_parent located
  rw [Files.Tree.getLast?_of_locate_child held'.ne_parent located'] at last
  obtain rfl := Option.some.inj last
  exact held.content_eq held'

end FileNames

section Runs

variable {p : Platform} {settings : Settings} {target : Path} {t : Tree}

def savedLine (name : String) : String := s!"Generated {grammarFile name} and {templateFile name}"

def closingLine (target : Path) : String := s!"\nFiles saved to: {target.text}"

theorem isShown_savedLine (documented : p.Documented) {name : String} (h : isKnown name) :
    p.isShown (savedLine name) := by
  have plain : Gallery.catalogue.all fun entry =>
      !(Text.ofString (savedLine entry.1)).contains (.char '[') := by decide +kernel
  obtain ⟨built, -, entry⟩ := exists_mem_of_isKnown h
  have this := List.all_eq_true.1 plain (name, built) entry
  exact documented.isShown (by simpa using this)

namespace Writes

theorem saveSchema (documented : p.Documented) {name : String} (h : isKnown name) :
    Writes (saveSchema p settings target name) (drafts settings target name) true := by
  obtain ⟨f, g, hf, hg⟩ := exists_of_isKnown h
  intro t
  have found : Leaves (findSchema p name) t (some f) t := by
    unfold findSchema
    rw [hf]
    exact .pure f
  have compiled : Leaves (compileGrammar f) t (some g.text) t := by
    unfold compileGrammar
    rw [hg]
    exact .bind (.report _) (.pure _)
  have line := printMarkup p (savedLine name)
  rw [isShown_savedLine documented h] at line
  rw [drafts_eq hf hg]
  unfold Tool.saveSchema
  refine .bind found (.bind compiled ?_)
  exact (saveFile _ _ _).andThen ((saveFile _ _ _).andThen line) t

/-- Saving the schema of an unknown name writes nothing, and the run is over. -/
theorem saveSchema_unknown {name : String} (h : isKnown name = false) :
    Writes (Tool.saveSchema p settings target name) [] false := by
  intro t
  have missing : Gallery.catalogue.lookup name = none :=
    Option.isNone_iff_eq_none.1 (Option.isSome_eq_false_iff.1 h)
  have refused : Leaves (findSchema p name) t none t := by
    unfold findSchema
    rw [missing]
    exact (Leaves.printError p _).andStop
  exact .bind_none refused _

theorem saveAll (documented : p.Documented) (settings : Settings) (target : Path)
    (names : List String) : Writes (names.forM (Tool.saveSchema p settings target))
      (requested settings target names) (names.all isKnown) := by
  induction names with
  | nil => exact done
  | cons name rest ih =>
    rw [List.forM, requested, List.all_cons]
    cases h : isKnown name with
    | true =>
      rw [List.takeWhile_cons_of_pos h, List.flatMap_cons, Bool.true_and]
      exact (saveSchema documented h).andThen ih
    | false =>
      rw [List.takeWhile_cons_of_neg (by simp [h])]
      exact (saveSchema_unknown h).stopped _

end Writes

theorem runSave_leaves (documented : p.Documented) {names : List String}
    {directory : Option String} {made : Tree}
    (creates : t.makeDirectory (targetOf settings directory) = .ok made) :
    Leaves (runSave p settings names directory) t
      (if (requested settings (targetOf settings directory) (wanted names)).all
          (made.isWritable ·.path) && ((wanted names).all isKnown &&
          p.isShown (closingLine (targetOf settings directory))) then some () else none)
      (made.writeAll (requested settings (targetOf settings directory) (wanted names))) := by
  unfold runSave
  have saved := (Writes.saveAll documented settings (targetOf settings directory)
    (wanted names)).andEnd (.printMarkup p (closingLine (targetOf settings directory)))
  exact .bind (.changeFiles creates) (saved made)

/-- How a run that saves schemas ends, and the files that it leaves. -/
theorem run_save (documented : p.Documented) {env : Environment} {args names : List String}
    {directory : Option String} {made : Tree} (valid : Settings.read? p env = some settings)
    (level : settings.threshold?.isSome)
    (command : p.commandOf? args = some (.save names directory))
    (creates : t.makeDirectory (targetOf settings directory) = .ok made) :
    (run p env t args).tree =
        made.writeAll (requested settings (targetOf settings directory) (wanted names)) ∧
      (run p env t args).exitCode =
        if (∀ name ∈ wanted names,
            isKnown name ∧ bothPaths made.isWritable (targetOf settings directory) name) ∧
          p.isShown (closingLine (targetOf settings directory)) then 0 else 1 := by
  obtain ⟨left, code⟩ := run_of_command valid level command (runSave_leaves documented creates)
  refine ⟨left, ?_⟩
  rw [code]
  refine if_congr ?_ rfl rfl
  rw [← all_requested_iff settings, and_assoc, ← Bool.and_eq_true, ← Bool.and_eq_true,
    Bool.and_left_comm]
  cases _ && _ <;> simp

/-- A run that saves schemas goes up to the first name that is unknown. For each name it writes the
grammar and the template, up to the first file that cannot be written; these hold just that, and all
other files are as they were. It ends well if every name is known, every file can be written and the
line that it closes with can be printed, and with exit code 1 if not. If the log level has no known
name it ends with exit code 1 before it has done anything. When it is run again it ends alike and
leaves the files as they are. -/
theorem run_saves (documented : p.Documented) {env : Environment} {args names : List String}
    {directory : Option String} {tree made : Tree}
    (valid : Settings.read? p env = some settings)
    (command : p.commandOf? args = some (.save names directory))
    (creates : tree.makeDirectory (targetOf settings directory) = .ok made) :
    let target := targetOf settings directory
    let saved := made.writable (requested settings target (wanted names))
    let outcome := run p env tree args
    let again := run p env outcome.tree args
    (∀ name ∈ (wanted names).takeWhile isKnown, ∃ f g,
      Gallery.catalogue.lookup name = some (.ok f) ∧ f.grammar = .ok g ∧
      drafts settings target name = [⟨target.child (grammarFile name), .ofString g.text⟩,
        ⟨target.child (templateFile name), .ofString (templateOf f settings)⟩]) ∧
    (settings.threshold?.isSome →
      (∀ d ∈ saved, outcome.tree.read d.path = .ok d.content) ∧
      (∀ place, (∀ d ∈ saved, made.locate d.path ≠ .ok place) →
        outcome.tree.content? place = tree.content? place) ∧
      outcome.exitCode =
        if (∀ name ∈ wanted names, isKnown name ∧
            made.isWritable (target.child (grammarFile name)) ∧
            made.isWritable (target.child (templateFile name))) ∧
          p.isShown (closingLine target) then 0 else 1) ∧
    (settings.threshold? = none → outcome.tree = tree ∧ outcome.exitCode = 1) ∧
    again.exitCode = outcome.exitCode ∧
    ∀ place, again.tree.content? place = outcome.tree.content? place := by
  intro target saved outcome again
  have schemas : ∀ name ∈ (wanted names).takeWhile isKnown, ∃ f g,
      Gallery.catalogue.lookup name = some (.ok f) ∧ f.grammar = .ok g ∧
      drafts settings target name = [⟨target.child (grammarFile name), .ofString g.text⟩,
        ⟨target.child (templateFile name), .ofString (templateOf f settings)⟩] := by
    intro name h
    obtain ⟨f, g, hf, hg⟩ := exists_of_isKnown (List.mem_takeWhile_imp h)
    exact ⟨f, g, hf, hg, drafts_eq hf hg⟩
  cases level : settings.threshold? with
  | none =>
    obtain ⟨left, code⟩ := run_of_level_none valid level command tree
    obtain ⟨leftAgain, codeAgain⟩ := run_of_level_none valid level command outcome.tree
    exact ⟨schemas, nofun, fun _ => ⟨left, code⟩, codeAgain.trans code.symm,
      fun place => congrArg (Tree.content? · place) leftAgain⟩
  | some threshold =>
    have known : settings.threshold?.isSome := by rw [level, Option.isSome_some]
    obtain ⟨left, code⟩ := run_save documented valid known command creates
    have agrees : made.Agrees outcome.tree := left ▸ Files.Tree.agrees_writeAll made _
    have coherent := coherent_requested made settings target (wanted names)
    -- The directory is there now, so the second run starts from the files that the first one left.
    obtain ⟨leftAgain, codeAgain⟩ :=
      run_save documented valid known command (agrees.makeDirectory creates)
    refine ⟨schemas, fun _ => ⟨fun d h => ?_, fun place h => ?_, ?_⟩, nofun, ?_, fun place => ?_⟩
    · rw [left]
      exact coherent.read_writeAll h
    · have kept := Files.Tree.content?_writeAll_of_ne h
      rw [left, kept]
      exact congrArg (List.lookup place) (Files.Tree.files_makeUpTo creates)
    · rw [code]
      simp only [bothPaths, Bool.and_eq_true]
      rfl
    · have same : outcome.tree.isWritable = made.isWritable := funext agrees.isWritable
      rw [codeAgain, same, code]
    · rw [leftAgain, left]
      exact coherent.content?_writeAll_again place

def Settings.standard : Settings := ⟨.ofString "JsonConstraintExamples", "WARNING", false, 2⟩

theorem Settings.read?_nil : Settings.read? Terminal.platform [] = some .standard := rfl

theorem Settings.threshold?_standard : Settings.standard.threshold?.isSome := rfl

/-- A known name before an unknown one: its files are written, and what else is there stays. -/
theorem serverConfig_saved :
    let outcome := run Terminal.platform [] ⟨[(["notes"], [7])], [], []⟩
      ["export", "-o", "out", "--", "ServerConfig", "Missing"]
    outcome.exitCode = 1 ∧ outcome.tree.content? ["notes"] = some [7] ∧
      ∃ f g, Gallery.catalogue.lookup "ServerConfig" = some (.ok f) ∧ f.grammar = .ok g ∧
        outcome.tree.read ⟨"", ["out", "ServerConfig.gbnf"]⟩ = .ok (.ofString g.text) := by
  let made : Tree := ⟨[(["notes"], [7])], [["out"]], []⟩
  let grammar : Path := ⟨"", ["out", "ServerConfig.gbnf"]⟩
  let template : Path := ⟨"", ["out", "ServerConfig_template.json"]⟩
  have target : Path.ofString "out" = ⟨"", ["out"]⟩ := rfl
  have paths : Path.child ⟨"", ["out"]⟩ (grammarFile "ServerConfig") = grammar ∧
    Path.child ⟨"", ["out"]⟩ (templateFile "ServerConfig") = template := by decide +kernel
  have creates : Tree.makeDirectory ⟨[(["notes"], [7])], [], []⟩ ⟨"", ["out"]⟩ = .ok made := rfl
  rw [← target] at creates
  have located : made.locate grammar = .ok ["out", "ServerConfig.gbnf"] ∧
    made.locate template = .ok ["out", "ServerConfig_template.json"] := by
    decide +kernel +zetaReduce
  have command : Terminal.platform.commandOf? ["export", "-o", "out", "--", "ServerConfig",
      "Missing"] = some (.save ["ServerConfig", "Missing"] (some "out")) := rfl
  obtain ⟨schemas, finished, -⟩ :=
    run_saves Terminal.platform_documented Settings.read?_nil command creates
  obtain ⟨held, kept, code⟩ := finished Settings.threshold?_standard
  have known : (wanted ["ServerConfig", "Missing"]).takeWhile isKnown = ["ServerConfig"] := by
    decide +kernel
  obtain ⟨f, g, hf, hg, files⟩ := schemas "ServerConfig" (known ▸ List.mem_cons_self)
  rw [requested, known, List.flatMap_singleton, files, targetOf, Option.map_some,
    Option.getD_some, target, paths.1, paths.2] at held kept
  have writable : made.isWritable grammar :=
    Files.Tree.isWritable_iff.2 ⟨_, located.1, by decide⟩
  rw [Files.Tree.writable_cons (d := ⟨grammar, .ofString g.text⟩) writable] at held
  have saved := held _ List.mem_cons_self
  refine ⟨code.trans (if_neg fun h => ?_), kept _ fun d h => ?_, f, g, hf, hg, saved⟩
  · exact absurd (h.1 "Missing" (by decide)).1 (by decide +kernel)
  · rcases List.mem_pair.1 (Files.Tree.mem_of_mem_writable h) with rfl | rfl
    · exact fun led => absurd (located.1.symm.trans led) (by decide)
    · exact fun led => absurd (located.2.symm.trans led) (by decide)

/-- The line about the directory is read as markup, and that of a directory `[/]` is none: the run
breaks down at its end, though the name is known and both files can be written. -/
theorem brackets_unshown :
    Settings.read? Terminal.platform [] = some .standard ∧ Settings.standard.threshold?.isSome ∧
    Terminal.platform.commandOf? ["export", "ServerConfig", "-o", "[/]"] =
      some (.save ["ServerConfig"] (some "[/]")) ∧ isKnown "ServerConfig" ∧
    (∃ made, Tree.makeDirectory ⟨[], [], []⟩ (.ofString "[/]") = .ok made ∧
      (requested .standard (.ofString "[/]") ["ServerConfig"]).all (made.isWritable ·.path)) ∧
    (run Terminal.platform [] ⟨[], [], []⟩ ["export", "ServerConfig", "-o", "[/]"]).exitCode = 1
    := by
  have known : isKnown "ServerConfig" := by decide +kernel
  have target : Path.ofString "[/]" = ⟨"", ["[", "]"]⟩ := rfl
  have creates : Tree.makeDirectory ⟨[], [], []⟩ ⟨"", ["[", "]"]⟩ =
      .ok ⟨[], [["[", "]"], ["["]], []⟩ := rfl
  have command : Terminal.platform.commandOf? ["export", "ServerConfig", "-o", "[/]"] =
      some (.save ["ServerConfig"] (some "[/]")) := rfl
  have unshown : Terminal.platform.isShown (closingLine ⟨"", ["[", "]"]⟩) = false := by
    decide +kernel
  have writable : bothPaths (Tree.isWritable ⟨[], [["[", "]"], ["["]], []⟩) ⟨"", ["[", "]"]⟩
      "ServerConfig" := by decide +kernel
  rw [← target] at creates unshown writable
  have both := (all_requested_iff Settings.standard _).2
    (List.forall_mem_singleton.2 ⟨known, writable⟩)
  obtain ⟨-, code⟩ := run_save Terminal.platform_documented Settings.read?_nil
    Settings.threshold?_standard command creates
  exact ⟨Settings.read?_nil, Settings.threshold?_standard, command, known, ⟨_, creates, both.2⟩,
    code.trans (if_neg fun h => Bool.false_ne_true (unshown.symm.trans h.2))⟩

end Runs

end FieldSchema.Tool
