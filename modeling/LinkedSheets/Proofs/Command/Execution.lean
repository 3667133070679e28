import LinkedSheets.Proofs.Command.Inputs
import LinkedSheets.Proofs.Files.Carrying
import LinkedSheets.Proofs.Workbook.Pushing

/-!
# Executing a command

A command either finds something wrong with its inputs and leaves all files alone, or it does just
what writing the pages of its report does.
-/

namespace LinkedSheets

open FileTree

/-- What a plan comes to: its result, or the message of what went wrong, be it a step or the plan
itself. -/
def Plan.result {ε α : Type} (p : Plan ε α) (message : ε → String) :
    Option FileError → Except String α
  | some e => .error e.fullMessage
  | none => p.outcome.mapError message

/-- What writing the pages of a report comes to: the tree that it leaves, and the files that have
been written or the message of what went wrong. -/
def Report.written (r : Report) (t : FileTree) (dir : String) (only : List String) :
    FileTree × Except String (List String) :=
  let p := r.plan dir only
  let done := t.carryOut p.steps
  (done.tree, p.result ReportError.fullMessage done.failure)

/-- The first name that is asked for and is that of no sheet is the error, and nothing is done. -/
theorem Report.plan_of_unknownSheet {r : Report} {dir name : String}
    {only before after : List String} (hsheets : only = before ++ name :: after)
    (hbefore : ∀ other ∈ before, other ∈ r.workbook.names) (hname : name ∉ r.workbook.names) :
    r.plan dir only = ⟨[], .error (.unknownSheet name)⟩ := by
  have hfind : (only.find? fun name => (r.workbook.sheet? name).isNone) = some name := by
    rw [List.find?_eq_some_iff_append]
    refine ⟨?_, before, after, hsheets, fun other hother => ?_⟩
    · rw [Option.isNone_iff_eq_none, Workbook.sheet?_eq_none_iff]
      exact hname
    · rw [Bool.not_eq_true', Option.isNone_eq_false_iff, Option.isSome_iff_ne_none, ne_eq,
        Workbook.sheet?_eq_none_iff, not_not]
      exact hbefore other hother
  rw [plan, hfind]

/-- How a command ends once its report has been written. -/
def Ending.ofWritten : Except String (List String) → Ending
  | .ok paths => ⟨0, writtenText paths, none⟩
  | .error message => ⟨1, "", some message⟩

theorem Ending.ofPlan_eq (p : Plan CommandError (List String)) (failure : Option FileError) :
    Ending.ofPlan p failure = .ofWritten (p.result CommandError.message failure) := by
  unfold Ending.ofPlan Plan.result
  cases failure with
  | some e => rfl
  | none => cases p.outcome <;> rfl

namespace Command

/-- Runs a command on a tree: what it leaves, and how it ends. -/
def execute (c : Command) (s : Surroundings) (t : FileTree) : FileTree × Ending :=
  let p := c.run s
  let done := t.carryOut p.steps
  (done.tree, .ofPlan p done.failure)

-- What is not shown of the log, and how the rest of it is printed, makes no difference.
theorem effect_shown (verbosity : Nat) (t : FileTree) (steps : List Step) :
    t.effect ((steps.filter (isShown verbosity)).map seen) = t.effect steps := by
  induction steps generalizing t with
  | nil => rfl
  | cons step rest ih =>
    cases step with
    | log entry =>
      rw [List.filter_cons, effect_log_cons]
      split
      · rw [List.map_cons, seen, effect_log_cons, ih]
      · exact ih t
    | _ =>
      simp only [List.filter_cons, isShown, if_true, List.map_cons, seen, effect_cons, ih]

theorem execute_eq (c : Command) (s : Surroundings) (t : FileTree) :
    c.execute s t =
      ((t.effect (c.plan s).steps).1, .ofPlan (c.plan s) (t.effect (c.plan s).steps).2) := by
  rw [← effect_shown c.verbosity t (c.plan s).steps]
  rfl

variable {c : Command} {s : Surroundings}

theorem onlyLogs_settingsLoaded (path? : Option String) :
    OnlyLogs (path?.toList.map settingsLoaded) := by
  intro step hstep
  obtain ⟨path, -, rfl⟩ := List.mem_map.mp hstep
  exact ⟨_, rfl⟩

theorem onlyLogs_loaded (path? : Option String) (w : Workbook) (path : String) :
    OnlyLogs (path?.toList.map settingsLoaded ++ [workbookLoaded w path]) := by
  intro step hstep
  rcases List.mem_append.mp hstep with hfirst | hlast
  · exact onlyLogs_settingsLoaded path? step hfirst
  · rw [List.mem_singleton.mp hlast]
    exact ⟨_, rfl⟩

/-- The report of a command. The title that the command gives comes before that of the workbook,
and this one before that of the settings. -/
def reportOf (c : Command) (s : Surroundings) (file : SettingsFile) (w : Workbook)
    (d : Dimensions) : Report where
  workbook := w
  dimensions := d
  settings := file.settings
  title := (c.title.or w.title).getD file.settings.title
  moment := s.now

theorem report_eq_reportOf (c : Command) (s : Surroundings) (file : SettingsFile) (w : Workbook)
    (d : Dimensions) : c.report s w d file.settings = c.reportOf s file w d := by
  unfold report reportOf
  cases c.title with
  | none => rfl
  | some title => rfl

-- With everything read, what is left is to write the report.
theorem plan_of_read {file : SettingsFile} {w : Workbook} {d : Dimensions}
    (hfile : c.HasSettings s file) (hw : InputKind.workbook.Gives (s.find c.workbook) w)
    (hd : c.HasDimensions s d) :
    ∃ logs, OnlyLogs logs ∧
      let pages := (c.reportOf s file w d).plan (c.directory file) c.sheets
      c.plan s = ⟨logs ++ pages.steps, pages.outcome.mapError .report⟩ := by
  obtain ⟨path?, hfile⟩ := findSettings_of_hasSettings hfile
  refine ⟨_, onlyLogs_loaded path? w c.workbook, ?_⟩
  simp only [plan, hfile, loadWorkbook_of_gives hw, findDimensions_of_hasDimensions hd,
    report_eq_reportOf]
  cases ((c.reportOf s file w d).plan (c.directory file) c.sheets).outcome with
  | error e => rfl
  | ok written => rfl

-- A command that finds something wrong does nothing but log.
theorem plan_of_inputFault {e : CommandError} (h : c.InputFault s e) :
    (c.plan s).outcome = .error e ∧ OnlyLogs (c.plan s).steps := by
  cases h with
  | settings hpath hproblem =>
    simp only [plan, findSettings_of_fault hpath hproblem]
    exact ⟨trivial, nofun⟩
  | workbook hfile hproblem =>
    obtain ⟨path?, hfile⟩ := findSettings_of_hasSettings hfile
    simp only [plan, hfile, loadWorkbook_of_fault hproblem]
    exact ⟨trivial, onlyLogs_settingsLoaded path?⟩
  | dimensions hfile hw hpath hproblem =>
    obtain ⟨path?, hfile⟩ := findSettings_of_hasSettings hfile
    simp only [plan, hfile, loadWorkbook_of_gives hw, findDimensions_of_fault hpath hproblem]
    exact ⟨trivial, onlyLogs_loaded path? _ _⟩
  | @unknownSheet file w d before after name hfile hw hd hsheets hbefore hname =>
    obtain ⟨logs, hlogs, hplan⟩ := plan_of_read hfile hw hd
    rw [hplan, Report.plan_of_unknownSheet hsheets hbefore hname]
    exact ⟨rfl, by rwa [List.append_nil]⟩

theorem execute_of_inputFault {e : CommandError} (h : c.InputFault s e) (t : FileTree) :
    c.execute s t = (t, ⟨1, "", some e.message⟩) := by
  obtain ⟨houtcome, hlogs⟩ := plan_of_inputFault h
  rw [execute_eq, effect_of_onlyLogs hlogs]
  unfold Ending.ofPlan
  rw [houtcome]

theorem execute_of_inputs {file : SettingsFile} {w : Workbook} {d : Dimensions}
    (h : c.Inputs s file w d) (t : FileTree) :
    c.execute s t =
      ((c.reportOf s file w d).written t (c.directory file) c.sheets).map id .ofWritten := by
  obtain ⟨logs, hlogs, hplan⟩ := plan_of_read h.settings h.workbook h.dimensions
  -- The message is the same, whether the error is the command's or the report's.
  have hresult (pages : Plan ReportError (List String)) (failure : Option FileError) :
      Plan.result ⟨logs ++ pages.steps, pages.outcome.mapError .report⟩ CommandError.message
        failure = pages.result ReportError.fullMessage failure := by
    unfold Plan.result
    cases failure with
    | some e => rfl
    | none => cases pages.outcome <;> rfl
  rw [execute_eq, hplan, effect_append_of_onlyLogs hlogs, Ending.ofPlan_eq, hresult]
  rfl

/-- Whatever a command finds and whatever tree it is run on, one of two things happens. Something is
wrong with its inputs: then just one thing is the first, the command fails with its message, and the
tree is as it was. Or nothing is wrong with them: then the tree that is left and the ending are
those of writing the pages of the sheets that are asked for into the directory that the command
names, or else the settings, or else the working directory; the title of the report is the
command's, or else the workbook's, or else that of the settings. -/
theorem execute_inputs_first (c : Command) (s : Surroundings) (t : FileTree) :
    (∃ e, (∀ e', c.InputFault s e' ↔ e' = e) ∧ c.execute s t = (t, ⟨1, "", some e.message⟩)) ∨
    ((∀ e, ¬ c.InputFault s e) ∧ ∃ file w d, c.Inputs s file w d ∧
      c.execute s t =
        ((c.reportOf s file w d).written t ((c.output.or file.output).getD ".") c.sheets).map id
          Ending.ofWritten) := by
  rcases inputFault_or_inputs c s with ⟨e, he⟩ | ⟨file, w, d, h⟩
  · refine .inl ⟨e, fun e' => ⟨fun he' => ?_, fun heq => heq ▸ he⟩, execute_of_inputFault he t⟩
    have hsame := (plan_of_inputFault he').1.symm.trans (plan_of_inputFault he).1
    exact Except.error.inj hsame
  · refine .inr ⟨h.not_inputFault, file, w, d, h, ?_⟩
    have hdir : c.directory file = (c.output.or file.output).getD "." := by
      rw [directory, Option.orElse_eq_or]
    rw [execute_of_inputs h t, hdir]

/-- A workbook without sheets, beside a page that was written before. -/
def bareTree : FileTree :=
  .ofList [(["w.json"], .file ⟨9, some "[null,\x7b\x7d]"⟩), (["S.html"], textFile "<html>")]

def bareSurroundings : Surroundings := ⟨bareTree.find, none, ⟨⟨2024, 2, 29⟩, 0, 0, 0, 0, 0⟩⟩

/-- Asks for the page of a sheet that the workbook does not have. -/
def bareCommand : Command := ⟨"w.json", none, none, ["S"], none, none, 0⟩

theorem inputFault_bare :
    bareCommand.InputFault bareSurroundings (.report (.unknownSheet "S")) := by
  have hfind : bareSurroundings.find bareCommand.workbook =
      .ok ⟨true, 9, .ok "[null,\x7b\x7d]"⟩ := rfl
  have hload : Workbook.load "[null,\x7b\x7d]" = .ok .empty := rfl
  have hsettings : bareCommand.HasSettings bareSurroundings .standard := by
    refine .standard fun path h => ?_
    cases h with
    | named h => cases h
    | users _ h => cases h
  have hgives : InputKind.workbook.Gives (bareSurroundings.find bareCommand.workbook) .empty := by
    refine .intro hfind (fun l hl => ?_) rfl hload
    rw [← Option.some.inj hl]
    decide
  exact @InputFault.unknownSheet bareCommand bareSurroundings .standard .empty .empty [] [] "S"
    hsettings hgives (.nothing rfl) rfl nofun nofun

/-- The page is still there when its sheet is asked for again. -/
theorem execute_bare : bareCommand.execute bareSurroundings bareTree =
    (bareTree, ⟨1, "", some "Unknown sheet: S"⟩) := by
  rcases execute_inputs_first bareCommand bareSurroundings bareTree with ⟨e, he, h⟩ | ⟨hnone, -⟩
  · rw [← (he _).mp inputFault_bare] at h
    exact h
  · exact absurd inputFault_bare (hnone _)

end Command

end LinkedSheets
