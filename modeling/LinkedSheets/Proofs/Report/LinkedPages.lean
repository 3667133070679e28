import LinkedSheets.Proofs.Markup.UrlReference
import LinkedSheets.Proofs.Report.Navigation
import LinkedSheets.Proofs.Report.Writing

/-!
# Links between the pages of a report

The pages of all sheets are written next to each other, and each of them has an entry for each of
them. An entry leads from the page on which it stands to the page of its sheet, unless the name of
the sheet begins like the scheme of a URL.
-/

namespace LinkedSheets

namespace Report

open Markup FileTree

/-- An anchor on the page in a place is the entry of a sheet whose page lies in a directory. Its
address leads to that page, or away from there if the sheet's name begins with a scheme. -/
structure IsEntry (directory page : List String) (s : Sheet) (a : Anchor) : Prop where
  shown : unescape a.shown = s.name
  scheme : scheme? (unescape a.href).toList = scheme? s.name.toList
  follow : follow? page (unescape a.href).toList =
    if (scheme? s.name.toList).isSome then none else some (pagePlace directory s)

theorem isEntry_entryAnchor {s : Sheet} (h : '/' ∉ s.name.toList) (place : List String)
    (current : Sheet) :
    IsEntry place (pagePlace place current) s (entryAnchor s.name) where
  shown := unescape_shown_entryAnchor s.name
  scheme := by rw [unescape_href_entryAnchor, scheme?_pageHref]
  follow := by
    rw [unescape_href_entryAnchor, follow?_pageHref h, pagePlace, List.dropLast_concat, pagePlace]

variable {r : Report} {t u : FileTree} {dir : String} {paths : List String}

theorem slash_not_mem_of_fileFor {name file : String} (h : fileFor name = .ok file) :
    '/' ∉ name.toList := by
  intro hslash
  rw [fileFor, if_pos (by simp only [hslash, or_true, true_or])] at h
  cases h

-- If all pages are written, all names are file names.
theorem fileFor_of_planSheets {sheets : List Sheet}
    (h : (r.planSheets dir sheets).outcome = .ok paths) :
    ∀ s ∈ sheets, ∃ file, fileFor s.name = .ok file := by
  induction sheets generalizing paths with
  | nil => nofun
  | cons s rest ih =>
    obtain ⟨e, -, hplan⟩ | ⟨e, -, -, hplan⟩ | ⟨hfile, -, hplan⟩ :=
      planSheets_cons_cases r dir s rest
    · rw [hplan] at h
      cases h
    · rw [hplan] at h
      cases h
    · rw [hplan] at h
      obtain ⟨others, hothers, -⟩ := map_eq_ok_iff.mp h
      exact List.forall_mem_cons.mpr ⟨⟨_, hfile⟩, ih hothers⟩

theorem selected_nil (r : Report) : r.selected [] = r.workbook.sheets :=
  List.filter_eq_self.mpr fun _ _ => rfl

theorem plan_nil_outcome : (r.plan dir []).outcome =
    (r.planSheets dir r.workbook.sheets).outcome := by
  rw [← selected_nil]
  rfl

theorem Ended.of_ok {place : List String} {sheets touched : List Sheet}
    (h : Ended r u dir place sheets (.ok paths) touched) :
    paths = sheets.map (pagePath dir) ∧ ∀ s ∈ sheets, r.HasPage u dir place s := by
  generalize houtcome : Except.ok paths = outcome at h
  cases h with
  | complete hpages => exact ⟨Except.ok.inj houtcome, hpages⟩
  | badName => cases houtcome
  | noPage => cases houtcome

-- If the writing of all pages succeeds, each sheet has its page in its file.
theorem hasPage_of_plan (h : t.Becomes (r.plan dir []).steps u)
    (hok : (r.plan dir []).outcome = .ok paths) :
    ∃ place, u.LeadsTo dir place ∧ paths = r.workbook.sheets.map (pagePath dir) ∧
      ∀ s ∈ r.workbook.sheets, r.HasPage u dir place s := by
  obtain ⟨v, hmade, hpages⟩ := (becomes_plan_steps rfl).mp h
  obtain ⟨-, place, hdir⟩ := kept_makeDirectory_step hmade
  obtain ⟨touched, hwrites⟩ := writesPages_planSheets (nodup_selected r []) hdir hpages
  have hended := hwrites.ended
  rw [selected_nil, ← plan_nil_outcome, hok] at hended
  obtain ⟨hpaths, hall⟩ := hended.of_ok
  exact ⟨place, hdir.of_keepsDirectories hwrites.keeps, hpaths, hall⟩

theorem nodup_pagePlace (r : Report) (place : List String) :
    (r.workbook.sheets.map (pagePlace place)).Nodup := by
  apply List.Nodup.map_on _ (List.Nodup.of_map Sheet.name r.workbook.nodup)
  intro s hs s' hs' hplace
  apply List.inj_on_of_nodup_map r.workbook.nodup hs hs'
  by_contra hname
  exact pagePlace_ne hname hplace

-- If all sheets have pages and names for their files, all files are listed.
theorem outcome_planSheets_of_pages {sheets : List Sheet}
    (h : ∀ s ∈ sheets, fileFor s.name = .ok (pageFile s.name) ∧
      ∃ page, (r.compile s.name).result = .ok page) :
    (r.planSheets dir sheets).outcome = .ok (sheets.map (pagePath dir)) := by
  induction sheets with
  | nil => rfl
  | cons s rest ih =>
    rw [List.forall_mem_cons] at h
    obtain ⟨⟨hname, page, hpage⟩, hrest⟩ := h
    obtain ⟨e, hfile, -⟩ | ⟨e, -, hfailure, -⟩ | ⟨-, -, hplan⟩ := planSheets_cons_cases r dir s rest
    · rw [hname] at hfile
      cases hfile
    · rw [failure_draft_of_compile hpage] at hfailure
      cases hfailure
    · rw [hplan, ih hrest]
      rfl

/-- A tree with nothing but a directory. -/
def directoryTree (name : String) : FileTree := Table.empty.put [name] .directory

-- All sheets of a report can be written into a new directory.
theorem exists_becomes_out
    (h : ∀ s ∈ r.workbook.sheets, fileFor s.name = .ok (pageFile s.name) ∧
      ∃ page, (r.compile s.name).result = .ok page)
    (hwritable : ∀ s ∈ r.workbook.sheets, (directoryTree "out").IsWritable (pagePath "out" s)) :
    ∃ u, FileTree.Becomes .empty (r.plan "out" []).steps u ∧
      (r.plan "out" []).outcome = .ok (r.workbook.sheets.map (pagePath "out")) := by
  have hmade : FileTree.step .empty (.makeDirectory "out") = (directoryTree "out", none) := rfl
  rw [← selected_nil] at hwritable
  obtain ⟨u, hu⟩ := exists_becomes_plan hmade hwritable
  exact ⟨u, hu, plan_nil_outcome.trans (outcome_planSheets_of_pages h)⟩

-- Without schemes in the names, all entries lead to the pages of their sheets.
theorem map_follow?_of_isEntry {directory page : List String} {sheets : List Sheet}
    {as : List Anchor} (h : List.Forall₂ (IsEntry directory page) sheets as)
    (hscheme : ∀ s ∈ sheets, scheme? s.name.toList = none) :
    as.map (fun a => (unescape a.shown, follow? page (unescape a.href).toList)) =
      sheets.map fun s => (s.name, some (pagePlace directory s)) := by
  induction h with
  | nil => rfl
  | cons hentry _ ih =>
    rw [List.forall_mem_cons] at hscheme
    rw [List.map_cons, List.map_cons, ih hscheme.2, hentry.shown, hentry.follow, hscheme.1]
    rfl

/-- The navigation of every page that is written has an entry for each sheet. If no dimensions are
recorded and the writing of all pages succeeds, the address of the entry leads from the page to the
file of that sheet's page and no other, unless the name of the sheet begins with a scheme: such an
address leads away from the directory. -/
theorem navigation_leads (hdimensions : r.dimensions.keys = [])
    (h : t.Becomes (r.plan dir []).steps u) (hok : (r.plan dir []).outcome = .ok paths) :
    ∃ place, u.LeadsTo dir place ∧ paths = r.workbook.sheets.map (pagePath dir) ∧
      (r.workbook.sheets.map (pagePlace place)).Nodup ∧
      ∀ s ∈ r.workbook.sheets, ∃ page, u.HasText (pagePath dir s) (pagePlace place s) page ∧
        List.Forall₂ (IsEntry place (pagePlace place s)) r.workbook.sheets
          (navigationAnchors page) := by
  obtain ⟨place, hdir, hpaths, hpages⟩ := hasPage_of_plan h hok
  refine ⟨place, hdir, hpaths, nodup_pagePlace r place, fun s hs => ?_⟩
  obtain ⟨page, hpage, htext⟩ := hpages s hs
  have hnavigation : r.navigation = r.workbook.sheets.map Sheet.name := by
    rw [navigation, hdimensions]
    rfl
  refine ⟨page, htext, ?_⟩
  rw [navigationAnchors_of_compile hpage, hnavigation, List.map_map, List.forall₂_map_right_iff,
    List.forall₂_same]
  intro target htarget
  rw [plan_nil_outcome] at hok
  obtain ⟨file, hfile⟩ := fileFor_of_planSheets hok target htarget
  exact isEntry_entryAnchor (slash_not_mem_of_fileFor hfile) place s

/-- A report of two sheets whose names have reserved characters. -/
def reserved : Report :=
  { linking "R&D 100%" (.leaf "") with
    workbook := (Workbook.empty.push (linkingSheet "R&D 100%" (.leaf ""))).push
      (linkingSheet "a#b?" (.leaf "")) }

/-- Two pages whose sheets have names with reserved characters link to each other. -/
theorem navigation_leads_reserved :
    ∃ u page page', FileTree.Becomes .empty (reserved.plan "out" []).steps u ∧
      u.HasText "out/R&D 100%.html" ["out", "R&D 100%.html"] page ∧
      u.HasText "out/a#b?.html" ["out", "a#b?.html"] page' ∧
      (navigationAnchors page).map (fun a =>
          (unescape a.shown, follow? ["out", "R&D 100%.html"] (unescape a.href).toList)) =
        [("R&D 100%", some ["out", "R&D 100%.html"]), ("a#b?", some ["out", "a#b?.html"])] ∧
      (navigationAnchors page').map (fun a =>
          (unescape a.shown, follow? ["out", "a#b?.html"] (unescape a.href).toList)) =
        [("R&D 100%", some ["out", "R&D 100%.html"]), ("a#b?", some ["out", "a#b?.html"])] := by
  have hsheets : reserved.workbook.sheets =
      [linkingSheet "R&D 100%" (.leaf ""), linkingSheet "a#b?" (.leaf "")] := rfl
  have hpages : ∀ s ∈ reserved.workbook.sheets, fileFor s.name = .ok (pageFile s.name) ∧
      ∃ page, (reserved.compile s.name).result = .ok page := by
    rw [hsheets, List.forall_mem_cons, List.forall_mem_singleton]
    refine ⟨⟨?_, _, compile_linkingSheet rfl rfl⟩, ?_, _, compile_linkingSheet rfl rfl⟩
    all_goals rw [fileFor, if_neg (by decide)]
  have hwritable : ∀ s ∈ reserved.workbook.sheets,
      (directoryTree "out").IsWritable (pagePath "out" s) := by
    rw [hsheets, List.forall_mem_cons, List.forall_mem_singleton]
    exact ⟨⟨["out", "R&D 100%.html"], rfl, by decide⟩, ["out", "a#b?.html"], rfl, by decide⟩
  have hscheme : ∀ s ∈ reserved.workbook.sheets, scheme? s.name.toList = none := by
    rw [hsheets, List.forall_mem_cons, List.forall_mem_singleton]
    exact ⟨rfl, rfl⟩
  obtain ⟨u, hu, hok⟩ := exists_becomes_out hpages hwritable
  obtain ⟨place, hdir, -, -, hentries⟩ := navigation_leads rfl hu hok
  obtain rfl : place = ["out"] := (Except.ok.inj hdir.walk).symm
  rw [hsheets, List.forall_mem_cons, List.forall_mem_singleton] at hentries
  obtain ⟨⟨page, htext, hfirst⟩, page', htext', hsecond⟩ := hentries
  exact ⟨u, page, page', hu, htext, htext', map_follow?_of_isEntry hfirst hscheme,
    map_follow?_of_isEntry hsecond hscheme⟩

/-- A page whose sheet's name begins like a scheme does not link to itself. -/
theorem navigation_leads_away :
    ∃ u page entry, (linking "a:b" (.leaf "")).dimensions.keys = [] ∧
      FileTree.Becomes .empty ((linking "a:b" (.leaf "")).plan "out" []).steps u ∧
      ((linking "a:b" (.leaf "")).plan "out" []).outcome = .ok ["out/a:b.html"] ∧
      u.HasText "out/a:b.html" ["out", "a:b.html"] page ∧ navigationAnchors page = [entry] ∧
      unescape entry.href = "a:b.html" ∧ scheme? (unescape entry.href).toList = some ['a'] ∧
      follow? ["out", "a:b.html"] (unescape entry.href).toList = none := by
  have hsheets : (linking "a:b" (.leaf "")).workbook.sheets = [linkingSheet "a:b" (.leaf "")] := rfl
  have hname : fileFor "a:b" = .ok (pageFile "a:b") := by
    rw [fileFor, if_neg (by decide)]
  have hpages : ∀ s ∈ (linking "a:b" (.leaf "")).workbook.sheets,
      fileFor s.name = .ok (pageFile s.name) ∧
        ∃ page, ((linking "a:b" (.leaf "")).compile s.name).result = .ok page := by
    rw [hsheets, List.forall_mem_singleton]
    exact ⟨hname, _, compile_linking "a:b" (.leaf "")⟩
  have hwritable : ∀ s ∈ (linking "a:b" (.leaf "")).workbook.sheets,
      (directoryTree "out").IsWritable (pagePath "out" s) := by
    rw [hsheets, List.forall_mem_singleton]
    exact ⟨["out", "a:b.html"], rfl, by decide⟩
  obtain ⟨u, hu, hok⟩ := exists_becomes_out hpages hwritable
  obtain ⟨place, hdir, -, hpages⟩ := hasPage_of_plan hu hok
  have hplace : place = ["out"] := (Except.ok.inj hdir.walk).symm
  subst hplace
  obtain ⟨page, hpage, htext⟩ := hpages (linkingSheet "a:b" (.leaf "")) List.mem_cons_self
  have hhref : unescape (entryAnchor "a:b").href = "a:b.html" := unescape_href_entryAnchor "a:b"
  refine ⟨u, page, entryAnchor "a:b", rfl, hu, hok, htext, ?_, hhref, ?_, ?_⟩
  · exact navigationAnchors_of_compile hpage
  · rw [hhref]
    rfl
  · rw [hhref]
    rfl

end Report

end LinkedSheets
