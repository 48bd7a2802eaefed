import LintBridge.Proofs.Extraction.Diagnostics
import LintBridge.Proofs.Host.Verdict
import Mathlib.Data.List.TakeWhile

/-!
# What a lint leaves behind

A lint works in a temporary directory of its own and removes it however it ends. Every
path leads to the same thing as before, the texts of all editors stay as they are, and so
do the settings.
-/

namespace LintBridge

/-! ## Editors -/

namespace Editor

variable (parse : Parser)

theorem exists_tree_syntaxTree (editor : Editor) :
    ∃ tree?, (editor.syntaxTree parse).2 = { editor with tree? } := by
  rw [syntaxTree]
  split
  · exact ⟨_, rfl⟩
  · split
    · exact ⟨editor.tree?, rfl⟩
    · exact ⟨_, rfl⟩

theorem exists_tree_rangeAt (editor : Editor) (line column : Option Int) :
    ∃ tree?, (editor.rangeAt parse line column).2 = { editor with tree? } := by
  rw [rangeAt]
  split
  · exact ⟨editor.tree?, rfl⟩
  · exact ⟨editor.tree?, rfl⟩
  · exact exists_tree_syntaxTree parse editor

theorem exists_tree_remap (editor : Editor) (issue : Issue) :
    ∃ tree?, (editor.remap parse issue).2 = { editor with tree? } := by
  rw [remap]
  split
  · exact exists_tree_rangeAt parse editor _ _
  · exact ⟨editor.tree?, rfl⟩

end Editor

theorem Selection.exists_tree_anchor (parse : Editor.Parser) (editor : Editor)
    (issues : List Issue) :
    ∃ tree?, (anchor parse editor issues).2.2 = { editor with tree? } := by
  induction issues generalizing editor with
  | nil => exact ⟨editor.tree?, rfl⟩
  | cons issue issues ih =>
      rcases editor.exists_tree_remap parse issue with ⟨kept?, kept⟩
      rcases ih { editor with tree? := kept? } with ⟨last?, last⟩
      rw [anchor]
      cases remapped : editor.remap parse issue with
      | mk result after =>
          rw [remapped] at kept
          cases kept
          cases result with
          | ok issue => exact ⟨last?, last⟩
          | error fault => exact ⟨last?, last⟩

/-- An extraction changes nothing of an editor but the tree that it keeps. -/
theorem Extraction.exists_tree_run {parse : Editor.Parser} {pattern : Pattern}
    {filePath : Option String} {editor : Editor} {report : String} {extraction : Extraction}
    (ran : run parse pattern filePath undisturbed editor report = .ok extraction) :
    ∃ tree?, extraction.editor = { editor with tree? } := by
  rw [run, Issue.parse] at ran
  split at ran
  · cases ran
    exact Selection.exists_tree_anchor parse editor _
  · cases ran

namespace Host

variable {α : Type} {host : Host}

theorem exists_tree_judge {editor : Editor} {execution : Execution} {extraction : Extraction}
    (judged : Linter.judge Syntax.parseRows editor execution = .ok extraction) :
    ∃ tree?, extraction.editor = { editor with tree? } := by
  rw [Linter.judge] at judged
  split at judged
  · split at judged
    · rename_i ran
      cases judged
      exact Extraction.exists_tree_run ran
    · cases judged
  · cases judged

/-- An editor of a host may keep another tree; nothing else is different. -/
def KeepsTexts (editors after : List Editor) : Prop :=
  after.map (fun editor => (editor.path, editor.buffer)) =
    editors.map fun editor => (editor.path, editor.buffer)

theorem keepsTexts_set {editors : List Editor} {number : Nat} {editor : Editor}
    (shown : editors[number]? = some editor) (tree? : Option (Nat × Syntax.Tree)) :
    KeepsTexts editors (editors.set number { editor with tree? }) := by
  apply List.ext_getElem?
  intro place
  rw [List.getElem?_map, List.getElem?_map]
  by_cases same : number = place
  · subst same
    rw [List.getElem?_set_self (List.getElem?_eq_some_iff.mp shown).1, shown]
    rfl
  · rw [List.getElem?_set_ne same]

/-- Collecting diagnostics changes the log and the trees that editors keep. -/
theorem collect_cases (host : Host) {number : Nat} {editor : Editor}
    (shown : host.editors[number]? = some editor) (execution : Execution) :
    ∃ result log editors,
      host.perform (collect number editor execution) = (result, { host with log, editors }) ∧
        KeepsTexts host.editors editors := by
  rw [collect]
  cases judged : Linter.judge Syntax.parseRows editor execution with
  | error fault => exact ⟨_, _, _, rfl, rfl⟩
  | ok extraction =>
      rcases exists_tree_judge judged with ⟨tree?, same⟩
      refine ⟨_, _, _, rfl, ?_⟩
      dsimp only
      rw [same]
      exact keepsTexts_set shown tree?

/-- What a lint does with the copy of the text. -/
def lintCopy (command : Command) (number : Nat) (editor : Editor) (path : String) :
    Action (List Diagnostic) := do
  let call := command.withTarget path
  match ← execute call.executable call.arguments (some call.environment) (some call.directory)
      none with
  | none => return []
  | some execution => collect number editor execution

theorem lint_eq (linter : Linter) (number : Nat) (editor : Editor) :
    lint linter number editor = (do
      let command ← commandFor linter editor.path
      let diagnostics ← withTemporaryFile (Path.name editor.path) editor.buffer.text
        (lintCopy command number editor)
      note .debug s!"{diagnostics.length} diagnostics for {editor.path}"
      return diagnostics) :=
  rfl

/-- Either the analyzer is not run on the copy, or it is the only program that is run. -/
theorem lintCopy_cases (host : Host) {number : Nat} {editor : Editor}
    (shown : host.editors[number]? = some editor) (command : Command) (path : String) :
    (∃ fault log, host.perform (lintCopy command number editor path) =
        (.error fault, { host with log })) ∨
      ∃ result run log editors directory,
        host.perform (lintCopy command number editor path) =
            (result, { host with runs := run :: host.runs, log, editors }) ∧
          run.arguments.getLast? = some path ∧
          run.target? = (host.disk.read directory path).toOption ∧
          KeepsTexts host.editors editors := by
  rw [lintCopy, perform_bind]
  rcases execute_cases host command.executable (command.arguments ++ [path])
      (some command.environment) (some command.directory) with
    ⟨fault, log, failed⟩ | ⟨execution, run, log, directory, ran, called, target⟩
  · refine .inl ⟨fault, log, ?_⟩
    dsimp only [Command.withTarget]
    rw [failed]
  · have given : run.arguments.getLast? = some path := by
      rw [called, List.getLast?_concat]
    rw [List.getLast?_concat, Option.bind_some] at target
    dsimp only [Command.withTarget]
    rw [ran]
    rcases collect_cases { host with runs := run :: host.runs, log } shown execution with
      ⟨result, later, editors, collected, kept⟩
    exact .inr ⟨result, run, later, editors, directory, collected, given, target, kept⟩

/-! ## Temporary directories -/

theorem isName_temporary (number : Nat) :
    Path.IsName (temporaryLabel ++ temporarySuffix number) := by
  have suffix : '/' ∉ (temporarySuffix number).toList := by
    rw [temporarySuffix, String.toList_ofList, List.mem_append, not_or]
    constructor
    · intro member
      exact absurd (List.eq_of_mem_replicate member) (by decide)
    · intro member
      have digit := Nat.isDigit_of_mem_toDigits (by decide) (by decide) member
      exact absurd digit (by decide)
  have free : '/' ∉ (temporaryLabel ++ temporarySuffix number).toList := by
    rw [String.toList_append, List.mem_append, not_or]
    exact ⟨by decide, suffix⟩
  have begins : (temporaryLabel ++ temporarySuffix number).toList.head? = some 'l' := by
    rw [String.toList_append]
    rfl
  -- Neither the empty name nor a dot begins with a letter.
  refine ⟨free, ?_, ?_, ?_⟩ <;> intro same <;> rw [same] at begins <;> cases begins

theorem tidy_join_temporaryPath (absolute : Path.isAbsolute host.temporary = true) (number : Nat)
    {name : String} (isName : Path.IsName name) :
    Path.tidy (Path.join (host.temporaryPath temporaryLabel number) name) =
      Path.tidy (host.temporaryPath temporaryLabel number) ++ "/" ++ name := by
  have own := isName_temporary number
  have leads : Path.steps (host.temporaryPath temporaryLabel number) ≠ [] := by
    rw [temporaryPath, Path.steps_join (Path.isAbsolute_of_notMem own.free), own.steps_eq]
    exact List.append_ne_nil_of_right_ne_nil _ (List.cons_ne_nil _ _)
  exact Path.tidy_join (Path.isAbsolute_join absolute _) leads isName

theorem exists_disk_removeTree (path : String) (host : Host) :
    ∃ disk, removeTree path host = { host with disk } := by
  rw [removeTree]
  split
  · exact ⟨_, rfl⟩
  · exact ⟨host.disk, rfl⟩

/-- When something is removed that was made where nothing was, every path leads to the
same thing as before. -/
theorem find_removeTree {directory : String} {place : Place} {ended : Host}
    (made : host.disk.HasMade host.directory directory place ended.disk)
    (here : ended.directory = host.directory) (other path : String) :
    (removeTree directory ended).disk.find other path = host.disk.find other path := by
  rw [removeTree, here, made.standing]
  exact made.agrees.find_removeTree made.free other path

/-! ## Settings -/

theorem fst_perform_valueOf (host : Host) (number : Nat) (setting : Setting) :
    (host.perform (valueOf number setting)).1 =
      (host.perform (useStore number)).1.map (·.get host.exchange.archive setting) := by
  rw [valueOf, perform_bind]
  rcases useStore_cases host number with ⟨store, there, used⟩ | ⟨failed, -⟩
  · rw [used]
    rfl
  · rw [failed]
    rfl

/-- Whether a store can be used depends on its directory only. -/
theorem fst_perform_useStore_congr {after : Host} {number : Nat}
    (directory : after.directory = host.directory)
    (disk : ∀ directory path, after.disk.find directory path = host.disk.find directory path)
    (same : after.exchange.store? number = host.exchange.store? number) :
    (after.perform (useStore number)).1 = (host.perform (useStore number)).1 := by
  rw [useStore, perform_bind_of_ok (perform_get _), perform_bind_of_ok (perform_get _), same]
  cases host.exchange.store? number with
  | none => rfl
  | some store =>
      dsimp only
      split
      · rfl
      · have here := disk host.directory store.location
        rw [← directory] at here
        by_cases found : host.disk.find host.directory store.location = .ok .directory
        · have foundAfter := here.trans (directory ▸ found)
          rw [perform_bind_of_ok (requireDirectory_of_found found),
            perform_bind_of_ok (requireDirectory_of_found foundAfter)]
          rfl
        · have missingAfter : after.disk.find after.directory store.location ≠ .ok .directory := by
            rw [here, directory]
            exact found
          rw [perform_bind_of_error (requireDirectory_of_not_found found),
            perform_bind_of_error (requireDirectory_of_not_found missingAfter)]

/-- Every setting of every store is read as before once a store has been used. -/
theorem fst_perform_valueOf_of_used {after : Host} {place : Nat} {store : Store}
    (there : host.exchange.store? place = some store)
    (used : (host.perform (useStore place)).1 = .ok { store with isOpen := true })
    (exchange : after.exchange = host.exchange.putStore place { store with isOpen := true })
    (directory : after.directory = host.directory)
    (disk : ∀ directory path, after.disk.find directory path = host.disk.find directory path)
    (number : Nat) (setting : Setting) :
    (after.perform (valueOf number setting)).1 = (host.perform (valueOf number setting)).1 := by
  have archive : after.exchange.archive = host.exchange.archive := by
    rw [exchange]
    rfl
  rw [fst_perform_valueOf, fst_perform_valueOf, archive]
  congr 1
  by_cases same : number = place
  · have isOpen : after.exchange.store? place = some { store with isOpen := true } := by
      rw [exchange, Exchange.store?_putStore there, if_pos rfl]
    rw [same, used, perform_useStore_of_isOpen isOpen rfl]
  · apply fst_perform_useStore_congr directory disk
    rw [exchange, Exchange.store?_putStore there, if_neg same]

/-! ## Lints -/

/-- What is on a host for others is as before: every path leads to the same thing, every
editor shows the same text in the same version, and every setting is stored and read as
before. -/
structure Unharmed (host after : Host) : Prop where
  disk : ∀ directory path, after.disk.find directory path = host.disk.find directory path
  texts : KeepsTexts host.editors after.editors
  archive : after.exchange.archive = host.exchange.archive
  values : ∀ number setting, (after.perform (valueOf number setting)).1 =
    (host.perform (valueOf number setting)).1

theorem Unharmed.refl (host : Host) : Unharmed host host :=
  ⟨fun _ _ => rfl, rfl, rfl, fun _ _ => rfl⟩

theorem Unharmed.of_used {after : Host} {place : Nat} {store : Store}
    (there : host.exchange.store? place = some store)
    (used : (host.perform (useStore place)).1 = .ok { store with isOpen := true })
    (exchange : after.exchange = host.exchange.putStore place { store with isOpen := true })
    (directory : after.directory = host.directory)
    (disk : ∀ directory path, after.disk.find directory path = host.disk.find directory path)
    (texts : KeepsTexts host.editors after.editors) : Unharmed host after := by
  refine ⟨disk, texts, ?_, fst_perform_valueOf_of_used there used exchange directory disk⟩
  rw [exchange]
  rfl

theorem Unharmed.of_removed {directory : String} {place : Place} {ended : Host} {number : Nat}
    {store : Store} (there : host.exchange.store? number = some store)
    (used : (host.perform (useStore number)).1 = .ok { store with isOpen := true })
    (exchange : ended.exchange = host.exchange.putStore number { store with isOpen := true })
    (here : ended.directory = host.directory)
    (made : host.disk.HasMade host.directory directory place ended.disk)
    (texts : KeepsTexts host.editors ended.editors) (log : List LogRecord) :
    Unharmed host { removeTree directory ended with log } := by
  have disk := find_removeTree made here
  rcases exists_disk_removeTree directory ended with ⟨emptied, removed⟩
  rw [removed] at disk ⊢
  exact .of_used there used exchange here disk texts

/-- The part of a lint that makes its temporary directory. -/
def prepare (linter : Linter) (editor : Editor) : Action String := do
  let _ ← commandFor linter editor.path
  makeTemporary temporaryLabel

/-- A program has been handed the path of something in a directory, with the name of the
file of an editor and the bytes of its text. -/
structure IsHanded (directory : String) (editor : Editor) (run : Run) : Prop where
  isName : Path.IsName (Path.name editor.path)
  last : run.arguments.getLast? =
    some (Path.tidy directory ++ "/" ++ Path.name editor.path)
  target : run.target? = some (Text.encode editor.buffer.text.toList)

theorem notMem_name (path : String) : '/' ∉ (Path.name path).toList := by
  rw [Path.name, String.toList_ofList, List.mem_reverse]
  intro member
  have other := List.mem_takeWhile_imp member
  exact of_decide_eq_true other rfl

/-- The work of a lint either does not get a directory, or ends with the removal of the
directory. In between it fails or hands the copy to one program. -/
theorem withTemporaryFile_lintCopy_cases (host : Host) {number : Nat} {editor : Editor}
    (command : Command)
    (absolute : Path.isAbsolute host.temporary = true)
    (shown : host.editors[number]? = some editor) :
    let work := withTemporaryFile (Path.name editor.path) editor.buffer.text
      (lintCopy command number editor)
    (∃ fault, host.perform (makeTemporary temporaryLabel) = (.error fault, host) ∧
        host.perform work = (.error fault, host)) ∨
      ∃ directory place result ended,
        (host.perform (makeTemporary temporaryLabel)).1 = .ok directory ∧
          host.perform work = (result, removeTree directory ended) ∧
          host.disk.HasMade host.directory directory place ended.disk ∧
          ended.directory = host.directory ∧
          ended.exchange = host.exchange ∧
          KeepsTexts host.editors ended.editors ∧
          (ended.runs = host.runs ∧ (∃ fault, result = .error fault) ∨
            ∃ run, ended.runs = run :: host.runs ∧ IsHanded directory editor run) := by
  intro work
  rcases withTemporaryFile_cases host (Path.name editor.path) editor.buffer.text
      (lintCopy command number editor) with
    unmade | ⟨directory, suffix, disk, isTemporary, made, added, ended⟩
  · exact .inl unmade
  have rooted : Path.isAbsolute directory = true := by
    rw [isTemporary]
    exact Path.isAbsolute_join absolute _
  have answered : (host.perform (makeTemporary temporaryLabel)).1 = .ok directory :=
    congrArg Prod.fst made
  rcases Disk.hasMade_of_addDirectory added with ⟨place, has, there, above⟩
  rcases ended with ⟨fault, failed⟩ | ⟨larger, written, worked⟩
  · exact .inr ⟨directory, place, .error fault, _, answered, failed, has, rfl, rfl, rfl,
      .inl ⟨rfl, fault, rfl⟩⟩
  rcases has.write rooted there above (notMem_name editor.path) written with ⟨isName, stays⟩
  rcases lintCopy_cases { host with disk := larger, nextTemporary := suffix + 1 } shown command
      (Path.tidy (Path.join directory (Path.name editor.path))) with
    ⟨fault, log, failed⟩ | ⟨result, run, log, editors, current, ran, last, target, kept⟩
  · rw [failed] at worked
    exact .inr ⟨directory, place, .error fault, _, answered, worked, stays, rfl, rfl, rfl,
      .inl ⟨rfl, fault, rfl⟩⟩
  · rw [ran] at worked
    rw [isTemporary, tidy_join_temporaryPath absolute suffix isName, ← isTemporary] at last
    rw [Disk.read_of_write (Path.isAbsolute_tidy (Path.isAbsolute_join rooted _)) written
      current] at target
    exact .inr ⟨directory, place, result, _, answered, worked, stays, rfl, rfl, kept,
      .inr ⟨run, rfl, isName, last, target⟩⟩

/-- A lint writes to the log when it is done with the copy of the text. -/
theorem exists_log_lint {linter : Linter} {number : Nat} {editor : Editor} {command : Command}
    {ready ended : Host} {result : Except Fault (List Diagnostic)}
    (built : host.perform (commandFor linter editor.path) = (.ok command, ready))
    (worked : ready.perform (withTemporaryFile (Path.name editor.path) editor.buffer.text
      (lintCopy command number editor)) = (result, ended)) :
    ∃ log, host.perform (lint linter number editor) = (result, { ended with log }) := by
  rw [lint_eq, perform_bind_of_ok built, perform_bind, worked]
  cases result with
  | error fault => exact ⟨ended.log, rfl⟩
  | ok diagnostics => exact ⟨_, rfl⟩

/-- A lint leaves a host unharmed, and nothing is left of the temporary directory that it
makes, however it ends. It fails, or it hands the text to one program in that directory. -/
theorem lint_leaves_nothing (host : Host) (linter : Linter) (number : Nat) (editor : Editor)
    (absolute : Path.isAbsolute host.temporary = true)
    (shown : host.editors[number]? = some editor) :
    let result := (host.perform (lint linter number editor)).1
    let after := (host.perform (lint linter number editor)).2
    Unharmed host after ∧
      (∀ directory, (host.perform (prepare linter editor)).1 = .ok directory →
        host.disk.contains host.directory directory = false ∧
          after.disk.contains host.directory directory = false) ∧
      (after.runs = host.runs ∧ (∃ fault, result = .error fault) ∨
        ∃ directory run, (host.perform (prepare linter editor)).1 = .ok directory ∧
          after.runs = run :: host.runs ∧ IsHanded directory editor run) := by
  intro result after
  rcases commandFor_cases host linter editor.path with
    ⟨fault, failed⟩ | ⟨command, store, exchange, there, used, opened, built⟩
  · -- Without the store there are no settings, and no directory is made.
    have ended : host.perform (lint linter number editor) = (.error fault, host) :=
      perform_bind_of_error failed
    have unprepared : host.perform (prepare linter editor) = (.error fault, host) :=
      perform_bind_of_error failed
    have same : after = host := congrArg Prod.snd ended
    rw [same, unprepared]
    refine ⟨.refl host, ?_, .inl ⟨rfl, fault, congrArg Prod.fst ended⟩⟩
    rintro _ ⟨⟩
  -- From here on only the store differs from the host that the lint began on.
  have prepared : host.perform (prepare linter editor) =
      Host.perform { host with exchange } (makeTemporary temporaryLabel) :=
    perform_bind_of_ok built
  rw [prepared]
  rcases withTemporaryFile_lintCopy_cases { host with exchange } command absolute shown with
    ⟨fault, unmade, failed⟩ |
      ⟨directory, place, answer, ended, made, worked, has, here, sameExchange, kept, outcome⟩
  · rcases exists_log_lint built failed with ⟨log, ended⟩
    have same : after = { host with exchange, log } := congrArg Prod.snd ended
    rw [same, unmade]
    refine ⟨.of_used there used opened rfl (fun _ _ => rfl) rfl, ?_,
      .inl ⟨rfl, fault, congrArg Prod.fst ended⟩⟩
    rintro _ ⟨⟩
  · rcases exists_log_lint built worked with ⟨log, finished⟩
    have same : after = { removeTree directory ended with log } := congrArg Prod.snd finished
    have ends : result = answer := congrArg Prod.fst finished
    have unharmed := Unharmed.of_removed there used (sameExchange.trans opened) here has kept log
    have gone : (removeTree directory ended).disk.contains host.directory directory = false := by
      rw [Disk.contains, unharmed.disk host.directory directory, ← Disk.contains]
      exact has.contains
    have runs : (removeTree directory ended).runs = ended.runs := runs_removeTree directory ended
    rw [same, ends, made]
    refine ⟨unharmed, ?_, ?_⟩
    · rintro _ ⟨⟩
      exact ⟨has.contains, gone⟩
    · dsimp only
      rw [runs]
      refine outcome.imp_right ?_
      rintro ⟨run, added, handed⟩
      exact ⟨directory, run, rfl, added, handed⟩

/-- A lint that hears a complaint has handed over its copy, and removes it. -/
theorem lint_leaves_nothing_complaint :
    let linter : Linter := ⟨0, none, none⟩
    let editor := Editor.ofText "/mod.py" "é\n"
    let host := { replayHost ⟨[], complaint, 0, 0⟩ with editors := [editor] }
    ∃ directory run, (host.perform (prepare linter editor)).1 = .ok directory ∧
      (host.perform (lint linter 0 editor)).2.runs = [run] ∧
      IsHanded directory editor run ∧
      (host.perform (lint linter 0 editor)).2.disk.contains "/" directory = false := by
  intro linter editor host
  have ran : (host.perform (lint linter 0 editor)).2.runs.length = 1 := by decide +kernel
  rcases lint_leaves_nothing host linter 0 editor (by decide) rfl with ⟨-, gone, outcome⟩
  rcases outcome with ⟨unrun, -⟩ | ⟨directory, run, made, runs, handed⟩
  · rw [unrun] at ran
    cases ran
  · exact ⟨directory, run, made, runs, handed, (gone directory made).2⟩

end Host

end LintBridge
