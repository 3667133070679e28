import LinkedSheets.Command.Run
import LinkedSheets.Proofs.Report.Validation

/-!
# The inputs of a command

What a command reads, and what can be wrong with it, in the order in which it is looked at: the
settings, the workbook, the recorded dimensions, and the names of the sheets that are asked for.
-/

namespace LinkedSheets

/-- Why the text of a settings file is refused: it is no document of settings, or the times cannot
be written as it asks. -/
inductive SettingsFile.Refused (text : String) : SettingsFile.FileError → Prop where
  | notToml (h : (Toml.read? text).bind ofStatements? = none) : Refused text .toml
  | badFormat {file : SettingsFile} (h : (Toml.read? text).bind ofStatements? = some file)
      (hformat : .unknown ∈ TimeFormat.items file.settings.timestampFormat.toList) :
      Refused text (.format ⟨file.settings.timestampFormat⟩)

theorem SettingsFile.read_eq_error_of_refused {text : String} {e : SettingsFile.FileError}
    (h : Refused text e) : read text = .error e := by
  cases h with
  | notToml h =>
    unfold read
    rw [h]
  | badFormat h hformat =>
    unfold read
    rw [h]
    simp only [Report.validate_eq_error_iff.mpr ⟨hformat, rfl⟩]

theorem SettingsFile.refused_of_read_eq_error {text : String} {e : SettingsFile.FileError}
    (h : read text = .error e) : Refused text e := by
  unfold read at h
  split at h
  · rename_i hnone
    rw [← Except.error.inj h]
    exact .notToml hnone
  · rename_i file hfile
    split at h
    · rename_i cause hcause
      obtain ⟨hformat, rfl⟩ := Report.validate_eq_error_iff.mp hcause
      rw [← Except.error.inj h]
      exact .badFormat hfile hformat
    · cases h

/-- A kind of input file, and which texts it refuses, for which reason. -/
structure InputRule (α ε π : Type) extends InputKind α ε π where
  Refuses : String → ε → Prop
  refuses_iff : ∀ {text e}, read text = .error e ↔ Refuses text e

namespace InputKind

variable {α ε π : Type} (k : InputKind α ε π) (found : Except FileError FileInfo)

/-- A file of this size may be read. -/
def Allows (size : Nat) : Prop := ∀ l, k.limit? = some l → size ≤ l.1

/-- Nothing is wrong with a file, and this is what it holds. -/
inductive Gives : α → Prop where
  | intro {info : FileInfo} {text : String} {a : α} (h : found = .ok info)
      (hsize : k.Allows info.size) (htext : info.text = .ok text) (hread : k.read text = .ok a) :
      Gives a

theorem allows_iff {size : Nat} :
    k.Allows size ↔ (k.limit?.filter fun l => l.1 < size) = none := by
  rw [Option.filter_eq_none_iff]
  constructor
  · intro h l hl hlt
    exact absurd (of_decide_eq_true hlt) (Nat.not_lt.mpr (h l hl))
  · intro h l hl
    exact Nat.not_lt.mp fun hlt => h l hl (decide_eq_true hlt)

variable {k found}

theorem load_eq_ok_of_gives {a : α} (h : k.Gives found a) : k.load found = .ok a := by
  obtain ⟨h, hsize, htext, hread⟩ := h
  simp only [load, h, k.allows_iff.mp hsize, htext, hread, Except.mapError]

end InputKind

namespace InputRule

variable {α ε π : Type} (k : InputRule α ε π) (found : Except FileError FileInfo)

/-- What is wrong with a file: it is not found, it is too large, it is no text, or its text is
refused. -/
inductive Fault : π → Prop where
  | notFound {e : FileError} (h : found = .error e) : Fault (k.unreadable e)
  | tooLarge {info : FileInfo} {max : Nat} {report : Nat → π} (h : found = .ok info)
      (hlimit : k.limit? = some (max, report)) (hsize : max < info.size) : Fault (report info.size)
  | notText {info : FileInfo} {e : FileError} (h : found = .ok info) (hsize : k.Allows info.size)
      (htext : info.text = .error e) : Fault (k.unreadable e)
  | refused {info : FileInfo} {text : String} {e : ε} (h : found = .ok info)
      (hsize : k.Allows info.size) (htext : info.text = .ok text) (hread : k.Refuses text e) :
      Fault (k.refused e)

variable {k found}

theorem load_eq_error_of_fault {problem : π} (h : k.Fault found problem) :
    k.load found = .error problem := by
  cases h with
  | notFound h =>
    rw [h]
    rfl
  | @tooLarge info max report h hlimit hsize =>
    have hfilter : (k.limit?.filter fun l => l.1 < info.size) = some (max, report) := by
      rw [hlimit, Option.filter_some, if_pos (decide_eq_true hsize)]
    simp only [InputKind.load, h, hfilter]
  | notText h hsize htext => simp only [InputKind.load, h, k.allows_iff.mp hsize, htext]
  | refused h hsize htext hread =>
    simp only [InputKind.load, h, k.allows_iff.mp hsize, htext, k.refuses_iff.mpr hread,
      Except.mapError]

-- Something is wrong with a file, or it holds something.
theorem fault_or_gives (k : InputRule α ε π) (found : Except FileError FileInfo) :
    (∃ problem, k.Fault found problem) ∨ ∃ a, k.Gives found a := by
  cases hfound : found with
  | error e => exact .inl ⟨_, .notFound rfl⟩
  | ok info =>
    cases hlimit : k.limit?.filter fun l => l.1 < info.size with
    | some l =>
      obtain ⟨hsome, hlt⟩ := Option.filter_eq_some_iff.mp hlimit
      exact .inl ⟨_, .tooLarge rfl hsome (of_decide_eq_true hlt)⟩
    | none =>
      have hsize := k.allows_iff.mpr hlimit
      cases htext : info.text with
      | error e => exact .inl ⟨_, .notText rfl hsize htext⟩
      | ok text =>
        cases hread : k.read text with
        | error e => exact .inl ⟨_, .refused rfl hsize htext (k.refuses_iff.mp hread)⟩
        | ok a => exact .inr ⟨a, .intro rfl hsize htext hread⟩

def settings : InputRule SettingsFile SettingsFile.FileError SettingsProblem where
  toInputKind := .settings
  Refuses := SettingsFile.Refused
  refuses_iff := ⟨SettingsFile.refused_of_read_eq_error, SettingsFile.read_eq_error_of_refused⟩

def workbook : InputRule Workbook LoadError WorkbookProblem where
  toInputKind := .workbook
  Refuses text e := Workbook.load text = .error e
  refuses_iff := Iff.rfl

def dimensions : InputRule Dimensions Dimensions.LineError DimensionsProblem where
  toInputKind := .dimensions
  Refuses text e := Dimensions.read text = .error e
  refuses_iff := Iff.rfl

end InputRule

namespace Command

variable (c : Command) (s : Surroundings)

/-- A command reads the settings file that it names, or else the user's if there is such a file. -/
inductive ReadsSettings : String → Prop where
  | named {path : String} (h : c.settings = some path) : ReadsSettings path
  | users {path : String} {info : FileInfo} (h : c.settings = none)
      (hpath : s.userSettings = some path) (hinfo : s.find path = .ok info)
      (hfile : info.isFile = true) : ReadsSettings path

/-- These are the settings of a command. -/
inductive HasSettings : SettingsFile → Prop where
  | read {path : String} {file : SettingsFile} (hpath : c.ReadsSettings s path)
      (h : InputKind.settings.Gives (s.find path) file) : HasSettings file
  | standard (h : ∀ path, ¬ c.ReadsSettings s path) : HasSettings .standard

/-- These are the dimensions that have been recorded. -/
inductive HasDimensions : Dimensions → Prop where
  | read {path : String} {d : Dimensions} (hpath : c.dimensions = some path)
      (h : InputKind.dimensions.Gives (s.find path) d) : HasDimensions d
  | nothing (h : c.dimensions = none) : HasDimensions .empty

/-- These are the inputs of a command, and there is nothing wrong with any of them. -/
structure Inputs (file : SettingsFile) (w : Workbook) (d : Dimensions) : Prop where
  settings : c.HasSettings s file
  workbook : InputKind.workbook.Gives (s.find c.workbook) w
  dimensions : c.HasDimensions s d
  known : ∀ name ∈ c.sheets, name ∈ w.names

/-- This is wrong with an input of a command, and nothing is with those that are looked at before
it. -/
inductive InputFault : CommandError → Prop where
  | settings {path : String} {problem : SettingsProblem} (hpath : c.ReadsSettings s path)
      (h : InputRule.settings.Fault (s.find path) problem) : InputFault (.settings path problem)
  | workbook {file : SettingsFile} {problem : WorkbookProblem} (hfile : c.HasSettings s file)
      (h : InputRule.workbook.Fault (s.find c.workbook) problem) :
      InputFault (.workbook c.workbook problem)
  | dimensions {file : SettingsFile} {w : Workbook} {path : String} {problem : DimensionsProblem}
      (hfile : c.HasSettings s file) (hw : InputKind.workbook.Gives (s.find c.workbook) w)
      (hpath : c.dimensions = some path)
      (h : InputRule.dimensions.Fault (s.find path) problem) :
      InputFault (.dimensions path problem)
  | unknownSheet {file : SettingsFile} {w : Workbook} {d : Dimensions} {before after : List String}
      {name : String} (hfile : c.HasSettings s file)
      (hw : InputKind.workbook.Gives (s.find c.workbook) w) (hd : c.HasDimensions s d)
      (hsheets : c.sheets = before ++ name :: after) (hbefore : ∀ other ∈ before, other ∈ w.names)
      (hname : name ∉ w.names) : InputFault (.report (.unknownSheet name))

variable {c s}

theorem settingsPath?_eq_some_iff {path : String} :
    c.settingsPath? s = some path ↔ c.ReadsSettings s path := by
  unfold settingsPath?
  cases hsettings : c.settings with
  | some named =>
    constructor
    · intro h
      exact .named (hsettings.trans h)
    · intro h
      cases h with
      | named h => exact hsettings.symm.trans h
      | users h => rw [hsettings] at h; cases h
  | none =>
    simp only [Option.filter_eq_some_iff]
    constructor
    · intro ⟨hpath, hfile⟩
      cases hinfo : s.find path with
      | error e => rw [hinfo] at hfile; cases hfile
      | ok info =>
        rw [hinfo] at hfile
        exact .users hsettings hpath hinfo hfile
    · intro h
      cases h with
      | named h => rw [hsettings] at h; cases h
      | users h hpath hinfo hfile =>
        rw [hinfo]
        exact ⟨hpath, hfile⟩

theorem findSettings_of_fault {path : String} {problem : SettingsProblem}
    (hpath : c.ReadsSettings s path) (h : InputRule.settings.Fault (s.find path) problem) :
    c.findSettings s = .error (.settings path problem) := by
  have hload : loadSettings s path = .error problem := InputRule.load_eq_error_of_fault h
  simp only [findSettings, settingsPath?_eq_some_iff.mpr hpath, hload]

theorem findSettings_of_hasSettings {file : SettingsFile} (h : c.HasSettings s file) :
    ∃ path?, c.findSettings s = .ok (file, path?) := by
  cases h with
  | @read path file hpath h =>
    refine ⟨some path, ?_⟩
    simp only [findSettings, settingsPath?_eq_some_iff.mpr hpath, loadSettings,
      InputKind.load_eq_ok_of_gives h]
  | standard h =>
    have hnone : c.settingsPath? s = none :=
      Option.eq_none_iff_forall_not_mem.mpr fun path hpath =>
        h path (settingsPath?_eq_some_iff.mp hpath)
    refine ⟨none, ?_⟩
    simp only [findSettings, hnone]

theorem findDimensions_of_fault {path : String} {problem : DimensionsProblem}
    (hpath : c.dimensions = some path) (h : InputRule.dimensions.Fault (s.find path) problem) :
    c.findDimensions s = .error (.dimensions path problem) := by
  have hload : loadDimensions s path = .error problem := InputRule.load_eq_error_of_fault h
  simp only [findDimensions, hpath, hload]

theorem findDimensions_of_hasDimensions {d : Dimensions} (h : c.HasDimensions s d) :
    c.findDimensions s = .ok d := by
  cases h with
  | read hpath h =>
    simp only [findDimensions, hpath, loadDimensions, InputKind.load_eq_ok_of_gives h]
  | nothing h => simp only [findDimensions, h]

theorem loadWorkbook_of_fault {problem : WorkbookProblem}
    (h : InputRule.workbook.Fault (s.find c.workbook) problem) :
    loadWorkbook s c.workbook = .error problem :=
  InputRule.load_eq_error_of_fault h

theorem loadWorkbook_of_gives {w : Workbook}
    (h : InputKind.workbook.Gives (s.find c.workbook) w) : loadWorkbook s c.workbook = .ok w :=
  InputKind.load_eq_ok_of_gives h

theorem settings_fault_or (c : Command) (s : Surroundings) :
    (∃ e, c.InputFault s e) ∨ ∃ file, c.HasSettings s file := by
  cases hpath : c.settingsPath? s with
  | none =>
    refine .inr ⟨_, .standard fun path h => ?_⟩
    rw [settingsPath?_eq_some_iff.mpr h] at hpath
    cases hpath
  | some path =>
    have hreads := settingsPath?_eq_some_iff.mp hpath
    rcases InputRule.settings.fault_or_gives (s.find path) with ⟨_, hfault⟩ | ⟨file, hgives⟩
    · exact .inl ⟨_, .settings hreads hfault⟩
    · exact .inr ⟨file, .read hreads hgives⟩

theorem dimensions_fault_or {file : SettingsFile} {w : Workbook} (hfile : c.HasSettings s file)
    (hw : InputKind.workbook.Gives (s.find c.workbook) w) :
    (∃ e, c.InputFault s e) ∨ ∃ d, c.HasDimensions s d := by
  cases hpath : c.dimensions with
  | none => exact .inr ⟨_, .nothing hpath⟩
  | some path =>
    rcases InputRule.dimensions.fault_or_gives (s.find path) with ⟨_, hfault⟩ | ⟨d, hgives⟩
    · exact .inl ⟨_, .dimensions hfile hw hpath hfault⟩
    · exact .inr ⟨d, .read hpath hgives⟩

/-- Something is wrong with the inputs of a command, or nothing is. -/
theorem inputFault_or_inputs (c : Command) (s : Surroundings) :
    (∃ e, c.InputFault s e) ∨ ∃ file w d, c.Inputs s file w d := by
  rcases settings_fault_or c s with hfault | ⟨file, hfile⟩
  · exact .inl hfault
  rcases InputRule.workbook.fault_or_gives (s.find c.workbook) with ⟨_, hfault⟩ | ⟨w, hw⟩
  · exact .inl ⟨_, .workbook hfile hfault⟩
  rcases dimensions_fault_or hfile hw with hfault | ⟨d, hd⟩
  · exact .inl hfault
  rcases forall_or_first (· ∈ w.names) c.sheets with hknown | ⟨_, _, _, hsheets, hbefore, hname⟩
  · exact .inr ⟨file, w, d, hfile, hw, hd, hknown⟩
  · exact .inl ⟨_, .unknownSheet hfile hw hd hsheets hbefore hname⟩

/-- Nothing is wrong with inputs that are well. -/
theorem Inputs.not_inputFault {file : SettingsFile} {w : Workbook} {d : Dimensions}
    (h : c.Inputs s file w d) (e : CommandError) : ¬ c.InputFault s e := by
  intro hfault
  cases hfault with
  | settings hpath hproblem =>
    obtain ⟨path?, hfile⟩ := findSettings_of_hasSettings h.settings
    rw [findSettings_of_fault hpath hproblem] at hfile
    cases hfile
  | workbook _ hproblem =>
    have hw := loadWorkbook_of_gives h.workbook
    rw [loadWorkbook_of_fault hproblem] at hw
    cases hw
  | dimensions _ _ hpath hproblem =>
    have hd := findDimensions_of_hasDimensions h.dimensions
    rw [findDimensions_of_fault hpath hproblem] at hd
    cases hd
  | unknownSheet _ hw _ hsheets _ hname =>
    have hsame := (loadWorkbook_of_gives h.workbook).symm.trans (loadWorkbook_of_gives hw)
    rw [← Except.ok.inj hsame] at hname
    exact hname (h.known _ (hsheets ▸ List.mem_append_right _ List.mem_cons_self))

end Command

end LinkedSheets
