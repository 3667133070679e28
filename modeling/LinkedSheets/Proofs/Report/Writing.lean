import LinkedSheets.Proofs.Files.Carrying
import LinkedSheets.Proofs.Markup.PercentCoding
import LinkedSheets.Proofs.Report.Outcome

/-!
# Writing pages to files

If all steps succeed, the pages of the selected sheets are in their files, up to the first sheet
that has none. Nothing else has changed, but for directories made on the way.
-/

namespace LinkedSheets

namespace Report

open Markup FileTree

/-- The path of a sheet's page. -/
def pagePath (dir : String) (s : Sheet) : String := joinPath dir (pageFile s.name)

/-- Where the page of a sheet is, in the place of a directory. -/
def pagePlace (place : List String) (s : Sheet) : List String := place ++ [pageFile s.name]

/-- The file of a sheet holds its page. -/
def HasPage (r : Report) (u : FileTree) (dir : String) (place : List String) (s : Sheet) : Prop :=
  ∃ page, (r.compile s.name).result = .ok page ∧
    u.HasText (pagePath dir s) (pagePlace place s) page

/-- How the writing of the pages of some sheets ended: with all of them, at a sheet whose name is no
file name, or at a sheet that has no page. The files of the sheets in the last list are those that
were written to. -/
inductive Ended (r : Report) (u : FileTree) (dir : String) (place : List String) :
    List Sheet → Except ReportError (List String) → List Sheet → Prop where
  | complete {sheets : List Sheet} (hpages : ∀ s ∈ sheets, r.HasPage u dir place s) :
      Ended r u dir place sheets (.ok (sheets.map (pagePath dir))) sheets
  | badName {before rest : List Sheet} {s : Sheet} {e : ReportError}
      (hpages : ∀ b ∈ before, r.HasPage u dir place b) (hname : fileFor s.name = .error e) :
      Ended r u dir place (before ++ s :: rest) (.error e) before
  | noPage {before rest : List Sheet} {s : Sheet} {e : ReportError}
      (hpages : ∀ b ∈ before, r.HasPage u dir place b)
      (hname : fileFor s.name = .ok (pageFile s.name))
      (hpage : (r.compile s.name).result = .error e)
      (hempty : u.HasText (pagePath dir s) (pagePlace place s) "") :
      Ended r u dir place (before ++ s :: rest) (.error e) (before ++ [s])

theorem pageFile_injective {a b : String} (h : pageFile a = pageFile b) : a = b := by
  unfold pageFile at h
  rw [← String.toList_inj] at h ⊢
  rw [String.toList_append, String.toList_append] at h
  exact List.append_cancel_right h

theorem pagePlace_ne {place : List String} {s s' : Sheet} (h : s.name ≠ s'.name) :
    pagePlace place s ≠ pagePlace place s' := by
  intro heq
  have hlast := List.append_cancel_left heq
  exact h (pageFile_injective (List.singleton_injective hlast))

-- A name that ends in something can be no dots.
theorem fileFor_eq_ok {name file : String} (h : fileFor name = .ok file) :
    file = pageFile name ∧ Path.IsName file ∧ file ≠ ".." := by
  unfold fileFor at h
  split at h
  · cases h
  · rename_i hname
    cases h
    simp only [not_or] at hname
    refine ⟨rfl, ⟨?_, pageFile_ne (by decide), pageFile_ne (by decide)⟩, pageFile_ne (by decide)⟩
    rw [toList_pageFile, List.mem_append, not_or]
    exact ⟨hname.2.2.2.1, by decide⟩

/-- The steps that write what there is of a sheet's page. -/
def pageSteps (r : Report) (dir : String) (s : Sheet) : List Step :=
  .createFile (pagePath dir s) :: (r.draft s.name).entries.map .log ++
    [.writeFile (pagePath dir s) (r.draft s.name).text]

-- A sheet's name is no file name, or the sheet has no page, or the other pages follow.
theorem planSheets_cons_cases (r : Report) (dir : String) (s : Sheet) (rest : List Sheet) :
    (∃ e, fileFor s.name = .error e ∧ r.planSheets dir (s :: rest) = ⟨[], .error e⟩) ∨
    (∃ e, fileFor s.name = .ok (pageFile s.name) ∧ (r.draft s.name).failure = some e ∧
      r.planSheets dir (s :: rest) = ⟨r.pageSteps dir s, .error e⟩) ∨
    (fileFor s.name = .ok (pageFile s.name) ∧ (r.draft s.name).failure = none ∧
      r.planSheets dir (s :: rest) = ⟨r.pageSteps dir s ++ (r.planSheets dir rest).steps,
        (r.planSheets dir rest).outcome.map (pagePath dir s :: ·)⟩) := by
  rw [planSheets]
  cases hfile : fileFor s.name with
  | error e => exact Or.inl ⟨e, rfl, rfl⟩
  | ok file =>
    obtain rfl : file = pageFile s.name := (fileFor_eq_ok hfile).1
    cases hfailure : (r.draft s.name).failure with
    | some e =>
      refine Or.inr (Or.inl ⟨e, rfl, rfl, ?_⟩)
      simp only [hfailure, pageSteps, pagePath]
    | none =>
      refine Or.inr (Or.inr ⟨rfl, rfl, ?_⟩)
      simp only [hfailure, pageSteps, pagePath]

variable {r : Report} {t u : FileTree} {dir : String} {place : List String}

theorem Ended.subset {sheets touched : List Sheet} {outcome : Except ReportError (List String)}
    (h : Ended r u dir place sheets outcome touched) : touched ⊆ sheets := by
  cases h with
  | complete => exact List.Subset.refl _
  | badName => exact List.subset_append_left _ _
  | @noPage before rest s =>
    have hs : [s] ⊆ s :: rest := List.cons_subset_cons s (List.nil_subset rest)
    exact List.append_subset.mpr
      ⟨List.subset_append_left _ _, List.subset_append_of_subset_right _ hs⟩

theorem Ended.cons {s : Sheet} {sheets touched : List Sheet}
    {outcome : Except ReportError (List String)} (hs : r.HasPage u dir place s)
    (h : Ended r u dir place sheets outcome touched) :
    Ended r u dir place (s :: sheets) (outcome.map (pagePath dir s :: ·)) (s :: touched) := by
  cases h with
  | complete hpages => exact .complete (List.forall_mem_cons.mpr ⟨hs, hpages⟩)
  | badName hpages hname => exact .badName (List.forall_mem_cons.mpr ⟨hs, hpages⟩) hname
  | noPage hpages hname hpage hempty =>
    exact .noPage (List.forall_mem_cons.mpr ⟨hs, hpages⟩) hname hpage hempty

theorem compile_of_draft {name : String} (h : (r.draft name).failure = none) :
    (r.compile name).result = .ok (r.draft name).text := by
  rw [compile, h]

theorem compile_of_draft_failure {name : String} {e : ReportError}
    (h : (r.draft name).failure = some e) : (r.compile name).result = .error e := by
  rw [compile, h]

theorem failure_draft_of_compile {name page : String} (h : (r.compile name).result = .ok page) :
    (r.draft name).failure = none := by
  cases hfailure : (r.draft name).failure with
  | none => rfl
  | some e =>
    rw [compile_of_draft_failure hfailure] at h
    cases h

-- What the steps for one sheet do, whether it has a page or not.
theorem wrote_page {s : Sheet} (hdir : t.LeadsTo dir place)
    (hfile : fileFor s.name = .ok (pageFile s.name)) (h : t.Becomes (r.pageSteps dir s) u) :
    Wrote t u (pagePath dir s) (pagePlace place s) (r.draft s.name).text := by
  obtain ⟨-, hname, hdots⟩ := fileFor_eq_ok hfile
  obtain ⟨reached, hreached, hwrote⟩ := wrote_of_becomes h
  rw [pagePath, hdir.resolve_joinPath hname hdots hreached] at hwrote
  exact hwrote

/-- What the writing of the pages of some sheets does: how it ends, and that no other file
changes. -/
structure WritesPages (r : Report) (t u : FileTree) (dir : String) (place : List String)
    (sheets : List Sheet) (outcome : Except ReportError (List String)) (touched : List Sheet) :
    Prop where
  ended : Ended r u dir place sheets outcome touched
  other : ∀ q, (∀ s ∈ touched, q ≠ pagePlace place s) → u.node? q = t.node? q
  keeps : t.KeepsDirectories u

theorem writesPages_of_nothing {sheets : List Sheet} {outcome : Except ReportError (List String)}
    (h : Ended r t dir place sheets outcome []) :
    WritesPages r t t dir place sheets outcome [] where
  ended := h
  other := fun _ _ => rfl
  keeps := .refl t

theorem writesPages_of_noPage {s : Sheet} {rest : List Sheet} {file : String} {e : ReportError}
    (hfile : fileFor s.name = .ok file) (hpage : (r.compile s.name).result = .error e)
    (hwrote : Wrote t u (pagePath dir s) (pagePlace place s) "") :
    WritesPages r t u dir place (s :: rest) (.error e) [s] where
  ended := by
    rw [(fileFor_eq_ok hfile).1] at hfile
    exact @Ended.noPage r u dir place [] rest s e nofun hfile hpage hwrote.toHasText
  other := fun q hq => hwrote.other q (hq s List.mem_cons_self)
  keeps := hwrote.keeps

-- What is written for one sheet is kept while pages of sheets with other names are written.
theorem WritesPages.cons {v : FileTree} {s : Sheet} {rest touched : List Sheet} {page : String}
    {outcome : Except ReportError (List String)} (hnew : s.name ∉ rest.map Sheet.name)
    (hpage : (r.compile s.name).result = .ok page)
    (hwrote : Wrote t v (pagePath dir s) (pagePlace place s) page)
    (h : WritesPages r v u dir place rest outcome touched) :
    WritesPages r t u dir place (s :: rest) (outcome.map (pagePath dir s :: ·)) (s :: touched) where
  ended := by
    have hsame : u.node? (pagePlace place s) = v.node? (pagePlace place s) := by
      apply h.other
      intro s' hs'
      apply pagePlace_ne
      intro hname
      exact hnew (hname ▸ List.mem_map_of_mem (h.ended.subset hs'))
    exact h.ended.cons ⟨page, hpage, hwrote.toHasText.of_keepsDirectories h.keeps hsame⟩
  other := by
    intro q hq
    rw [List.forall_mem_cons] at hq
    rw [h.other q hq.2, hwrote.other q hq.1]
  keeps := hwrote.keeps.trans h.keeps

theorem writesPages_planSheets {sheets : List Sheet} (hnodup : (sheets.map Sheet.name).Nodup)
    (hdir : t.LeadsTo dir place) (h : t.Becomes (r.planSheets dir sheets).steps u) :
    ∃ touched, WritesPages r t u dir place sheets (r.planSheets dir sheets).outcome touched := by
  induction sheets generalizing t with
  | nil =>
    rw [planSheets, becomes_nil] at h
    subst h
    exact ⟨[], writesPages_of_nothing (.complete nofun)⟩
  | cons s rest ih =>
    rw [List.map_cons, List.nodup_cons] at hnodup
    obtain ⟨e, hfile, hplan⟩ | ⟨e, hfile, hfailure, hplan⟩ | ⟨hfile, hfailure, hplan⟩ :=
      planSheets_cons_cases r dir s rest
    · rw [hplan, becomes_nil] at h
      rw [hplan, ← h]
      exact ⟨[], writesPages_of_nothing (@Ended.badName r t dir place [] rest s e nofun hfile)⟩
    · rw [hplan] at h ⊢
      have hwrote := wrote_page hdir hfile h
      rw [text_draft_of_failure hfailure] at hwrote
      exact ⟨[s], writesPages_of_noPage hfile (compile_of_draft_failure hfailure) hwrote⟩
    · rw [hplan, becomes_append] at h
      rw [hplan]
      obtain ⟨v, hs, hrest⟩ := h
      have hwrote := wrote_page hdir hfile hs
      obtain ⟨touched, hpages⟩ := ih hnodup.2 (hdir.of_keepsDirectories hwrote.keeps) hrest
      exact ⟨s :: touched, hpages.cons hnodup.1 (compile_of_draft hfailure) hwrote⟩

theorem sublist_selected (r : Report) (only : List String) :
    (r.selected only).Sublist r.workbook.sheets := List.filter_sublist

theorem nodup_selected (r : Report) (only : List String) :
    ((r.selected only).map Sheet.name).Nodup :=
  r.workbook.nodup.sublist ((sublist_selected r only).map Sheet.name)

theorem becomes_plan_steps {only : List String}
    (hknown : (only.find? fun name => (r.workbook.sheet? name).isNone) = none) :
    t.Becomes (r.plan dir only).steps u ↔
      ∃ v, t.step (.makeDirectory dir) = (v, none) ∧
        FileTree.Becomes v (r.planSheets dir (r.selected only)).steps u := by
  have hghosts (names : List String) :
      names.map (fun name => Step.log (unlisted name)) = (names.map unlisted).map .log := by
    rw [List.map_map]
    rfl
  rw [plan, hknown]
  simp only [hghosts, becomes_append, becomes_logs, becomes_cons, exists_eq_left']

-- All steps succeed unless there is a directory where a page is to be written.
theorem exists_becomes_planSheets {sheets : List Sheet}
    (h : ∀ s ∈ sheets, t.IsWritable (pagePath dir s)) :
    ∃ u, t.Becomes (r.planSheets dir sheets).steps u := by
  induction sheets generalizing t with
  | nil => exact ⟨t, becomes_nil.mpr rfl⟩
  | cons s rest ih =>
    rw [List.forall_mem_cons] at h
    obtain ⟨v, hv⟩ : ∃ v, t.Becomes (r.pageSteps dir s) v :=
      exists_becomes_of_isWritable h.1 (r.draft s.name).text (r.draft s.name).entries
    obtain ⟨e, -, hplan⟩ | ⟨e, -, -, hplan⟩ | ⟨-, -, hplan⟩ := planSheets_cons_cases r dir s rest
    · exact ⟨t, hplan ▸ becomes_nil.mpr rfl⟩
    · exact ⟨v, hplan ▸ hv⟩
    · obtain ⟨place, -, hwrote⟩ := wrote_of_becomes hv
      obtain ⟨u, hu⟩ := ih fun s hs => (h.2 s hs).of_wrote hwrote
      exact ⟨u, hplan ▸ becomes_append.mpr ⟨v, hv, hu⟩⟩

theorem exists_becomes_plan {v : FileTree} {only : List String}
    (hmade : t.step (.makeDirectory dir) = (v, none))
    (h : ∀ s ∈ r.selected only, v.IsWritable (pagePath dir s)) :
    ∃ u, t.Becomes (r.plan dir only).steps u := by
  cases hfind : only.find? fun name => (r.workbook.sheet? name).isNone with
  | some name =>
    refine ⟨t, ?_⟩
    rw [plan, hfind, becomes_nil]
  | none =>
    obtain ⟨u, hu⟩ := exists_becomes_planSheets (r := r) h
    exact ⟨u, (becomes_plan_steps hfind).mpr ⟨v, hmade, hu⟩⟩

end Report

end LinkedSheets
