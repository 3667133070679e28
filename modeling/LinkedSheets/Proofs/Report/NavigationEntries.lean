import LinkedSheets.Proofs.Markup.LinkCell
import LinkedSheets.Proofs.Report.AllOrNothing
import LinkedSheets.Proofs.Report.Navigation
import LinkedSheets.Proofs.Workbook.Pushing

/-!
# The entries of the navigation

The navigation of a page is a row of cells with links, nothing else. There is one for each name that
is listed, and the one of the page itself is marked. Names are listed once each, however often
sheets have been pushed or dimensions recorded under them.
-/

namespace LinkedSheets

open Text Markup

namespace Markup.LinkCell

/-- The name that a cell shows. -/
def name (c : LinkCell) : String := unescape c.anchor.shown

/-- What marks the cell of the page itself. -/
def currentMark : List Char := " class='current'".toList

def isCurrent (c : LinkCell) : Bool := c.attributes = currentMark

end Markup.LinkCell

namespace Report

/-- The text of a navigation that has the given cells. -/
def navigationRow (cells : List LinkCell) : List Char :=
  "<table><tr>\n".toList ++ cells.flatMap (fun c => c.text ++ ['\n']) ++ "</tr></table>".toList

/-- The cells with links in the navigation of a page. -/
def navigationCells (page : String) : List LinkCell :=
  match cutNavigation? page with
  | some c => linkCells c.navigation
  | none => []

/-- The navigation of a page has cells with links, and nothing besides them. -/
def HasNavigationRow (page : String) : Prop :=
  ∃ c, cutNavigation? page = some c ∧ c.navigation = navigationRow (navigationCells page)

theorem linkCells_lines_append {cells : List LinkCell} (h : ∀ c ∈ cells, c.IsPlain)
    (rest : List Char) :
    linkCells (cells.flatMap (fun c => c.text ++ ['\n']) ++ rest) = cells ++ linkCells rest := by
  induction cells with
  | nil => rfl
  | cons c more ih =>
    have hnewline (cs : List Char) : linkCells (['\n'] ++ cs) = linkCells cs :=
      linkCells_append rfl cs
    have hmore : ∀ d ∈ more, d.IsPlain := fun d hd => h d (List.mem_cons_of_mem c hd)
    rw [List.flatMap_cons, List.append_assoc, List.append_assoc,
      linkCells_text_append (h c List.mem_cons_self), hnewline, ih hmore, List.cons_append]

/-- The cells of a navigation are read back. -/
theorem linkCells_navigationRow {cells : List LinkCell} (h : ∀ c ∈ cells, c.IsPlain) :
    linkCells (navigationRow cells) = cells := by
  have hend : linkCells "</tr></table>".toList = [] := linkCells_eq_nil rfl
  unfold navigationRow
  rw [List.append_assoc, linkCells_append rfl, linkCells_lines_append h, hend,
    List.append_nil]

/-- The cell that is written for a name on the page of another, or its own. -/
def entryCell (current name : String) : LinkCell where
  attributes := if name = current then LinkCell.currentMark else []
  anchor := entryAnchor name

theorem isPlain_entryCell (current name : String) : (entryCell current name).IsPlain where
  attributes := by
    show '>' ∉ if name = current then LinkCell.currentMark else []
    split
    · decide
    · exact List.not_mem_nil
  anchor := isPlain_entryAnchor name

theorem name_entryCell (current name : String) : (entryCell current name).name = name :=
  unescape_shown_entryAnchor name

theorem isCurrent_entryCell (current name : String) :
    (entryCell current name).isCurrent = decide (name = current) := by
  unfold LinkCell.isCurrent entryCell
  by_cases h : name = current
  · rw [if_pos h, decide_eq_true h, decide_eq_true rfl]
  · rw [if_neg h, decide_eq_false h]
    rfl

theorem toList_navigationLine_eq_text (current name : String) :
    (navigationLine current name).toList = (entryCell current name).text := by
  rw [toList_navigationLine, entryCell]
  split
  · rfl
  · rfl

theorem toList_entryLines (r : Report) (current : String) :
    (unlines (entryLines r current)).toList =
      (r.navigation.map (entryCell current)).flatMap fun c => c.text ++ ['\n'] := by
  unfold entryLines
  induction r.navigation with
  | nil => rfl
  | cons name more ih =>
    rw [List.map_cons, unlines_cons, String.toList_append, String.toList_append, ih,
      toList_navigationLine_eq_text, List.map_cons, List.flatMap_cons]
    rfl

theorem navigation_pageCut (r : Report) (s : Sheet) (a : Area) (stamp : String) :
    (r.pageCut s a stamp).navigation = navigationRow (r.navigation.map (entryCell s.name)) := by
  unfold navigationRow
  rw [← toList_entryLines]
  rfl

theorem navigationCells_page (r : Report) (s : Sheet) (a : Area) (stamp : String) :
    navigationCells (r.page s a stamp) = r.navigation.map (entryCell s.name) := by
  rw [navigationCells, cutNavigation?_page]
  show linkCells (r.pageCut s a stamp).navigation = _
  rw [navigation_pageCut]
  apply linkCells_navigationRow
  intro c hc
  obtain ⟨name, -, rfl⟩ := List.mem_map.mp hc
  exact isPlain_entryCell s.name name

/-- The navigation of the page of a sheet has the cells for the listed names, as that sheet's. -/
theorem navigationCells_of_compile {r : Report} {name page : String}
    (h : (r.compile name).result = .ok page) :
    HasNavigationRow page ∧ navigationCells page = r.navigation.map (entryCell name) := by
  obtain ⟨s, a, stamp, hs, -, -, -, rfl⟩ := compile_result_eq_ok_iff.mp h
  have hname := name_of_sheet? hs
  subst hname
  refine ⟨⟨_, cutNavigation?_page r s a stamp, ?_⟩, navigationCells_page r s a stamp⟩
  rw [navigation_pageCut, navigationCells_page]

theorem countP_isCurrent_entryCells (current : String) {names : List String} (h : names.Nodup) :
    (names.map (entryCell current)).countP LinkCell.isCurrent =
      if current ∈ names then 1 else 0 := by
  have hcurrent : LinkCell.isCurrent ∘ entryCell current = (· == current) := by
    funext name
    exact isCurrent_entryCell current name
  rw [List.countP_map, hcurrent, ← List.count_eq_countP]
  exact List.Nodup.count h

/-- What has been given under names, one after the other, is kept: each name once, in the order in
which they first came, and under each name what came last. -/
structure KeepsLast {α : Type} (names : List String) (find? : String → Option α)
    (given : List (String × α)) : Prop where
  nodup : names.Nodup
  order : names = (given.map Prod.fst).eraseDups
  last : ∀ name, find? name = (given.reverse.find? fun e => e.1 = name).map Prod.snd

theorem keepsLast_ofList {α : Type} (given : List (String × α)) :
    KeepsLast (Table.ofList given).keys (Table.ofList given).get? given where
  nodup := Table.nodup_keys_ofList given
  order := Table.keys_ofList given
  last := Table.get?_ofList given

theorem keepsLast_ofPushes (title : Option String) (pushed : List Sheet) :
    KeepsLast (Workbook.ofPushes title pushed).names (Workbook.ofPushes title pushed).sheet?
      (pushed.map Workbook.entryOf) where
  nodup := (Workbook.ofPushes title pushed).nodup
  order := by rw [Workbook.names_ofPushes, Workbook.map_fst_entryOf]
  last := by
    intro name
    rw [Workbook.sheet?_ofPushes, Table.get?_ofList]

/-- The names that are listed after sheets have been pushed and dimensions recorded. -/
def listed (pushed : List Sheet) (recorded : List (String × String)) : List String :=
  (if recorded = [] then pushed.map Sheet.name else recorded.map Prod.fst).eraseDups

theorem nodup_listed (pushed : List Sheet) (recorded : List (String × String)) :
    (listed pushed recorded).Nodup := nodup_eraseDups _

/-- The same report, but of another workbook and other dimensions. -/
def showing (r : Report) (w : Workbook) (d : Dimensions) : Report :=
  { r with workbook := w, dimensions := d }

theorem navigation_showing (r : Report) (title : Option String) (pushed : List Sheet)
    (recorded : List (String × String)) :
    (r.showing (.ofPushes title pushed) (.ofList recorded)).navigation =
      listed pushed recorded := by
  show (if (Table.ofList recorded).keys.isEmpty then (Workbook.ofPushes title pushed).names
    else (Table.ofList recorded).keys) = _
  rw [Table.keys_ofList, Workbook.names_ofPushes, listed]
  cases recorded with
  | nil => rfl
  | cons e rest =>
    rw [List.map_cons, if_neg (List.cons_ne_nil e rest), List.eraseDups_cons]
    rfl

/-- However sheets have been pushed and dimensions recorded, each name is there once, where it first
came, with what came last under it, and one more push or record changes nothing under other names.
Hence the navigation of every page is a row of cells with links, one for each distinct name that has
been recorded, or of a sheet if none has, in that order; just the cell of the page's own name is
marked, and there is one if the name is listed. -/
theorem navigation_of_stores (title : Option String) (pushed : List Sheet)
    (recorded : List (String × String)) :
    KeepsLast (Workbook.ofPushes title pushed).names (Workbook.ofPushes title pushed).sheet?
        (pushed.map Workbook.entryOf) ∧
    KeepsLast (Table.ofList recorded).keys (Table.ofList recorded).get? recorded ∧
    (∀ s : Sheet, (Workbook.ofPushes title (pushed ++ [s])).sheets =
      let before := (Workbook.ofPushes title pushed).sheets
      if s.name ∈ before.map Sheet.name then before.map fun t => if t.name = s.name then s else t
      else before ++ [s]) ∧
    (∀ e : String × String, (Table.ofList (recorded ++ [e])).entries =
      let before := (Table.ofList recorded).entries
      if e.1 ∈ before.map Prod.fst then before.map fun e' => if e'.1 = e.1 then e else e'
      else before ++ [e]) ∧
    ∀ (r : Report) (name page : String),
      ((r.showing (.ofPushes title pushed) (.ofList recorded)).compile name).result = .ok page →
      HasNavigationRow page ∧
      (navigationCells page).map LinkCell.name = listed pushed recorded ∧
      (∀ c ∈ navigationCells page, c.isCurrent = true ↔ c.name = name) ∧
      (navigationCells page).countP LinkCell.isCurrent =
        if name ∈ listed pushed recorded then 1 else 0 := by
  refine ⟨keepsLast_ofPushes title pushed, keepsLast_ofList recorded, ?_, ?_, ?_⟩
  · intro s
    rw [Workbook.ofPushes_concat]
    exact Workbook.sheets_push (.ofPushes title pushed) s
  · intro e
    rw [Table.ofList_concat]
    exact Table.entries_put (Table.nodup_keys_ofList recorded) e.1 e.2
  · intro r name page h
    obtain ⟨hrow, hcells⟩ := navigationCells_of_compile h
    rw [navigation_showing] at hcells
    rw [hcells]
    refine ⟨hrow, ?_, ?_, countP_isCurrent_entryCells name (nodup_listed pushed recorded)⟩
    · rw [List.map_map]
      have hname : LinkCell.name ∘ entryCell name = id := funext (name_entryCell name)
      rw [hname, List.map_id]
    · intro c hc
      obtain ⟨other, -, rfl⟩ := List.mem_map.mp hc
      rw [isCurrent_entryCell, name_entryCell, decide_eq_true_iff]

/-- Two sheets, one of which is pushed again. -/
def repushed : List Sheet :=
  [linkingSheet "S" (.leaf "1"), linkingSheet "T" (.leaf "2"), linkingSheet "S" (.leaf "3")]

/-- The page of the second comes with two cells, the second of which is marked. -/
theorem navigation_repushed : ∃ page,
    (((linking "" (.leaf "")).showing (.ofPushes none repushed) (.ofList [])).compile "T").result =
        .ok page ∧
      (navigationCells page).map LinkCell.name = ["S", "T"] ∧
      (navigationCells page).countP LinkCell.isCurrent = 1 := by
  have hsheet : (Workbook.ofPushes none repushed).sheet? "T" =
      some (linkingSheet "T" (.leaf "2")) := by
    rw [Workbook.sheet?_ofPushes]
    rfl
  have hpage := compile_linkingSheet
    (r := (linking "" (.leaf "")).showing (.ofPushes none repushed) (.ofList [])) hsheet rfl
  have hlisted : listed repushed [] = ["S", "T"] := by decide
  obtain ⟨-, -, -, -, hnavigation⟩ := navigation_of_stores none repushed []
  obtain ⟨-, hnames, -, hcount⟩ := hnavigation (linking "" (.leaf "")) "T" _ hpage
  rw [hlisted] at hnames hcount
  exact ⟨_, hpage, hnames, hcount⟩

end Report

end LinkedSheets
