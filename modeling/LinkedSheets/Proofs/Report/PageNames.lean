import LinkedSheets.Proofs.Report.Writing

/-!
# Names of pages

The address of a sheet's page is visible ASCII. Decoding it gives the name of the page's file, so
sheets with different names have different addresses, and what is written for sheets are the files
that their addresses name.
-/

namespace LinkedSheets

/-- The file that a step makes or writes to. -/
def Step.file? : Step → Option String
  | .createFile path => some path
  | .writeFile path _ => some path
  | .log _ => none
  | .makeDirectory _ => none

namespace Report

open Markup Text

/-- The files that steps make or write to. -/
def files (steps : List Step) : List String := steps.filterMap Step.file?

theorem files_append (before after : List Step) :
    files (before ++ after) = files before ++ files after :=
  List.filterMap_append

theorem files_logs {α : Type} (f : α → LogEntry) (xs : List α) :
    files (xs.map fun x => .log (f x)) = [] := by
  rw [files, List.filterMap_map, List.filterMap_eq_nil_iff]
  intro x _
  rfl

variable {r : Report} {dir : String}

theorem mem_files_pageSteps {s : Sheet} {path : String} :
    path ∈ files (r.pageSteps dir s) ↔ pagePath dir s = path := by
  have hlogs : files ((r.draft s.name).entries.map Step.log) = [] := files_logs id _
  have hcreate : files [.createFile (pagePath dir s)] = [pagePath dir s] := rfl
  have hwrite : files [.writeFile (pagePath dir s) (r.draft s.name).text] = [pagePath dir s] := rfl
  rw [pageSteps, ← List.singleton_append, files_append, files_append, hlogs, hcreate, hwrite]
  simp only [List.append_nil, List.singleton_append, List.mem_cons, List.not_mem_nil, or_false,
    or_self, eq_comm]

-- The files are those of the first sheets, up to one at which the writing ends.
theorem exists_files_planSheets (sheets : List Sheet) :
    ∃ reached, reached <+: sheets ∧
      (∀ path, path ∈ files (r.planSheets dir sheets).steps ↔
        ∃ s ∈ reached, pagePath dir s = path) ∧
      ∀ paths, (r.planSheets dir sheets).outcome = .ok paths → reached = sheets := by
  induction sheets with
  | nil => exact ⟨[], List.prefix_rfl, by simp [planSheets, files], fun _ _ => rfl⟩
  | cons s rest ih =>
    obtain ⟨e, -, hplan⟩ | ⟨e, -, -, hplan⟩ | ⟨-, -, hplan⟩ := planSheets_cons_cases r dir s rest
    · rw [hplan]
      refine ⟨[], List.nil_prefix, by simp [files], fun paths hok => ?_⟩
      cases hok
    · rw [hplan]
      refine ⟨[s], List.prefix_append [s] rest, fun path => ?_, fun paths hok => ?_⟩
      · rw [mem_files_pageSteps]
        simp only [List.mem_singleton, exists_eq_left]
      · cases hok
    · rw [hplan]
      obtain ⟨reached, hreached, hfiles, hall⟩ := ih
      refine ⟨s :: reached, List.cons_prefix_cons.mpr ⟨rfl, hreached⟩, fun path => ?_, ?_⟩
      · rw [files_append, List.mem_append, mem_files_pageSteps, hfiles]
        simp only [List.mem_cons, exists_eq_or_imp]
      · intro paths hok
        obtain ⟨others, hothers, -⟩ := map_eq_ok_iff.mp hok
        rw [hall others hothers]

theorem exists_files_plan (only : List String) :
    ∃ reached, reached <+: r.selected only ∧
      (∀ path, path ∈ files (r.plan dir only).steps ↔ ∃ s ∈ reached, pagePath dir s = path) ∧
      ∀ paths, (r.plan dir only).outcome = .ok paths → reached = r.selected only := by
  rw [plan]
  cases only.find? fun name => (r.workbook.sheet? name).isNone with
  | some name =>
    refine ⟨[], List.nil_prefix, by simp [files], fun paths hok => ?_⟩
    cases hok
  | none =>
    have hmake (steps : List Step) : files (.makeDirectory dir :: steps) = files steps := rfl
    simp only [files_append, files_logs, hmake, List.nil_append]
    exact exists_files_planSheets (r.selected only)

theorem pageHref_injective : Function.Injective pageHref := by
  intro s t h
  have hfiles := percentDecode?_pageHref s
  rw [h, percentDecode?_pageHref, Option.some.injEq] at hfiles
  exact (pageFile_injective hfiles).symm

theorem percentDecode?_pageHref_of_fileFor {name file : String} (h : fileFor name = .ok file) :
    percentDecode? (pageHref name).toList = some file := by
  rw [percentDecode?_pageHref, (fileFor_eq_ok h).1]

theorem map_percentDecode?_eq_some_iff {s : Sheet} {path : String} :
    (percentDecode? (pageHref s.name).toList).map (joinPath dir) = some path ↔
      pagePath dir s = path := by
  rw [percentDecode?_pageHref, Option.map_some, Option.some.injEq, pagePath]

/-- The address of a sheet's page is visible ASCII without quotes, angle brackets and the signs
before a query and a fragment, and each percent sign in it begins an escape. Decoding it gives the
sheet's name and the ending, so no two sheets have the same address, and if the sheet's name can be
that of a file, it gives the name of that file. The files that are made or written to for the
selected sheets are those that the addresses of their pages name, up to a sheet at which the writing
ends. -/
theorem pageHref_names_file :
    (∀ sheet, (∀ c ∈ (pageHref sheet).toList,
        0x20 ≤ c.toNat ∧ c.toNat ≤ 0x7E ∧ c ∉ [' ', '"', '#', '\'', '<', '>', '?']) ∧
      (∀ rest, '%' :: rest <:+ (pageHref sheet).toList → BeginsEscape ('%' :: rest)) ∧
      percentDecode? (pageHref sheet).toList = some (sheet ++ ".html")) ∧
    Function.Injective pageHref ∧
    (∀ sheet file, fileFor sheet = .ok file →
      percentDecode? (pageHref sheet).toList = some file) ∧
    ∀ (r : Report) (dir : String) (only : List String),
      ∃ reached, reached <+: r.selected only ∧
        (∀ path, path ∈ files (r.plan dir only).steps ↔ ∃ s ∈ reached,
          (percentDecode? (pageHref s.name).toList).map (joinPath dir) = some path) ∧
        ∀ paths, (r.plan dir only).outcome = .ok paths → reached = r.selected only := by
  refine ⟨fun sheet => ⟨fun c => visible_of_mem_pageHref, eachBegins_pageHref sheet,
    percentDecode?_pageHref sheet⟩, pageHref_injective,
    fun _ _ => percentDecode?_pageHref_of_fileFor, fun r dir only => ?_⟩
  simp only [map_percentDecode?_eq_some_iff]
  exact exists_files_plan only

/-- A name with what looks like an escape in it, and with a letter that takes two bytes. -/
theorem pageHref_names_file_escaped :
    pageHref "%41é" = "%2541%C3%A9.html" ∧ fileFor "%41é" = .ok "%41é.html" ∧
      percentDecode? "%2541%C3%A9.html".toList = some "%41é.html" ∧
      BeginsEscape "%A9.html".toList := by
  obtain ⟨haddress, -, hfile, -⟩ := pageHref_names_file
  have hhref : pageHref "%41é" = "%2541%C3%A9.html" := by decide +kernel
  have hname : fileFor "%41é" = .ok "%41é.html" := by
    rw [fileFor, if_neg (by decide)]
    rfl
  refine ⟨hhref, hname, hhref ▸ hfile "%41é" "%41é.html" hname, ?_⟩
  exact (haddress "%41é").2.1 "A9.html".toList (by rw [hhref]; decide)

end Report

end LinkedSheets
