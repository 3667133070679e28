import LinkedSheets.Proofs.Markup.Escaping
import LinkedSheets.Proofs.Report.Outcome
import LinkedSheets.Proofs.Text.Absence

/-!
# What pages are composed of

A page is a sequence of fragments of its own with texts between them that have no markup. Which
fragments these are depends on the shape of the page alone: its area, the places of the navigation,
the number of scripts, and whether there are a stylesheet and an attribution link.
-/

namespace LinkedSheets.Report

open Text Markup

/-- The entities that a page has. -/
def pageEntities : List String := characterEntities ++ ["&nbsp;", "&fnof;"]

/-- Text that neither is markup nor cuts an entity short. -/
structure Inert (t : String) : Prop where
  marks : marks t.toList = []
  ampersands : AmpersandsBegin pageEntities t.toList

/-- The text consists of given fragments, in their order, and of inert texts around them. -/
inductive Composed : List String → String → Prop where
  | own (f : String) : Composed [f] f
  | inert {t : String} (h : Inert t) : Composed [] t
  | append {fs gs : List String} {s t : String} (hs : Composed fs s) (ht : Composed gs t) :
      Composed (fs ++ gs) (s ++ t)

theorem inert_escape (s : String) : Inert (escape s) where
  marks := marks_escape s
  ampersands := (ampersandsBegin_escape s).mono (List.subset_append_left _ _)

theorem isAlphanum_of_isMark {c : Char} (h : isMark c = true) : c.isAlphanum = false := by
  simp only [isMark, Bool.or_eq_true, decide_eq_true_eq] at h
  rcases h with ((rfl | rfl) | rfl) | rfl
  · rfl
  · rfl
  · rfl
  · rfl

theorem inert_of_isAlphanum {t : String} (h : ∀ c ∈ t.toList, c.isAlphanum = true) : Inert t where
  marks := by
    apply List.filter_eq_nil_iff.mpr
    intro c hc hmark
    have hno := isAlphanum_of_isMark hmark
    rw [h c hc] at hno
    exact Bool.false_ne_true hno.symm
  ampersands := by
    apply ampersandsBegin_of_not_mem
    intro hmem
    exact absurd (h '&' hmem) (by decide)

theorem inert_text (cell : CellRef) : Inert cell.text := by
  apply inert_of_isAlphanum
  intro c hc
  rw [Char.isAlphanum, Bool.or_eq_true]
  exact CellRef.mem_toList_text hc

theorem inert_letters (column : UInt32) : Inert (Column.letters column) := by
  apply inert_of_isAlphanum
  intro c hc
  rw [Column.letters, String.toList_ofList] at hc
  rw [Char.isAlphanum, (Column.mem_lettersOf hc).1, Bool.true_or]

theorem inert_natText (n : Nat) : Inert (natText n) := by
  apply inert_of_isAlphanum
  intro c hc
  rw [natText, String.toList_ofList] at hc
  rw [Char.isAlphanum, CellRef.isDigit_of_mem_digits hc, Bool.or_true]

theorem inert_noFormula : Inert noFormula where
  marks := rfl
  ampersands := by decide

theorem Inert.not_mem {t : String} (h : Inert t) {c : Char} (hc : isMark c = true) :
    c ∉ t.toList := by
  intro hmem
  have hno := marks_eq_nil_iff.mp h.marks c hmem
  rw [hc] at hno
  exact Bool.false_ne_true hno.symm

theorem inert_formulaText (s : Sheet) (cell : CellRef) : Inert (formulaText s cell) := by
  unfold formulaText
  split
  · exact inert_escape _
  · exact inert_noFormula

namespace Composed

theorem marks_eq {fs : List String} {t : String} (h : Composed fs t) :
    marks t.toList = fs.flatMap fun f => marks f.toList := by
  induction h with
  | own f => rw [List.flatMap_singleton]
  | inert h => rw [h.marks, List.flatMap_nil]
  | append _ _ hs ht => rw [String.toList_append, marks_append, hs, ht, List.flatMap_append]

theorem ampersandsBegin {fs : List String} {t : String} (h : Composed fs t)
    (hfs : ∀ f ∈ fs, AmpersandsBegin pageEntities f.toList) :
    AmpersandsBegin pageEntities t.toList := by
  induction h with
  | own f => exact hfs f (List.mem_singleton.mpr rfl)
  | inert h => exact h.ampersands
  | append _ _ hs ht =>
    rw [String.toList_append]
    exact ampersandsBegin_append (hs fun f hf => hfs f (List.mem_append_left _ hf))
      (ht fun f hf => hfs f (List.mem_append_right _ hf))

-- What begins with a mark begins in a text only if it does in a fragment of it.
theorem isFreeOf {fs : List String} {t : String} (h : Composed fs t) {c : Char} {tag : List Char}
    (hc : isMark c = true) (hfs : (fs.all fun f => Text.isFreeOf (c :: tag) f.toList) = true) :
    Text.isFreeOf (c :: tag) t.toList = true := by
  induction h with
  | own f => rwa [List.all_cons, List.all_nil, Bool.and_true] at hfs
  | inert h => exact isFreeOf_of_not_mem (h.not_mem hc) tag
  | append _ _ hs ht =>
    rw [List.all_append, Bool.and_eq_true] at hfs
    rw [String.toList_append]
    exact isFreeOf_append (hs hfs.1) (ht hfs.2)

theorem escaped (s : String) : Composed [] (escape s) := .inert (inert_escape s)

theorem unlines {fss : List (List String)} {ls : List String}
    (h : List.Forall₂ Composed fss ls) :
    Composed (fss.flatMap fun fs => fs ++ ["\n"]) (Text.unlines ls) := by
  induction h with
  | nil => exact .inert (inert_escape "")
  | cons hl _ ih =>
    rw [List.flatMap_cons, unlines_cons]
    exact (hl.append (.own "\n")).append ih

-- Lines that are written for the items of a list, each from the fragments for its item.
theorem map {α : Type} {f : α → List String} {g : α → String} {xs : List α}
    (h : ∀ x ∈ xs, Composed (f x) (g x)) : List.Forall₂ Composed (xs.map f) (xs.map g) := by
  rw [List.forall₂_map_left_iff, List.forall₂_map_right_iff, List.forall₂_same]
  exact h

end Composed

def stylesheetFragments : Bool → List (List String)
  | true => [["<link href='", "' rel='stylesheet' type='text/css' />"]]
  | false => []

def scriptFragments : List String := ["<script type='text/javascript' src='", "'></script>"]

def headingFragments (stylesheet : Bool) (scripts : Nat) : List (List String) :=
  [["<html>"], ["<head>"], ["<meta charset='utf-8' />"], ["<title>", " - ", "</title>"]] ++
  stylesheetFragments stylesheet ++
  List.replicate scripts scriptFragments ++
  [["</head>"], ["<body>"], ["<div id='top'>"], ["<h1>", "</h1>"], ["<table>"], ["<tr>"],
    ["<td id='sheetref'>'", "'!<span id='selectedcell'></span></td>"],
    ["<td id='functionof'>&fnof;<i>x</i></td>"], ["<td id='selectedformula'>&nbsp;</td>"],
    ["</tr>"], ["</table>"], ["</div>"], ["<div id='worksheet'>"]]

def cellFragments : List String :=
  ["<td id='c", "' class='c", "' data-formula='", "'>", "</td>"]

def rowFragments (row : GridRow) : List (List String) :=
  [["<tr>"], ["<th>", "</th>"]] ++ row.cells.map (fun _ => cellFragments) ++ [["</tr>"]]

def tableHeadFragments (grid : Grid) : List (List String) :=
  [["<table class='cells'>"], ["<tr>"], ["<th></th>"]] ++
  grid.columns.map (fun _ => ["<th>", "</th>"]) ++
  [["</tr>"]]

def tableFragments (grid : Grid) : List (List String) :=
  tableHeadFragments grid ++
  grid.rows.flatMap rowFragments ++
  [["</table>"]]

def attributionFragments : Bool → List String
  | true => ["<a href='", "'>", "</a></p>"]
  | false => ["</p>"]

def footerFragments (link : Bool) : List (List String) :=
  [["<p>Generated on ", " by "] ++ attributionFragments link, ["</div>"]]

def entryFragments (current : Bool) : List String :=
  [if current then "<td class='current'>" else "<td>", "<a href='", "'>", "</a></td>"]

def navigationFragments (entries : List Bool) : List (List String) :=
  [["<div id='jumpbar'><table><tr>"]] ++ entries.map entryFragments ++ [["</tr></table></div>"]]

/-- All fragments of some lines have a property. -/
def allFragments (p : String → Bool) (fss : List (List String)) : Bool :=
  fss.all fun fs => fs.all p

-- The line ends between the lines add nothing.
theorem isFreeOf_unlines {fss : List (List String)} {ls : List String}
    (h : List.Forall₂ Composed fss ls) {c : Char} {tag : List Char} (hc : isMark c = true)
    (hend : Text.isFreeOf (c :: tag) "\n".toList = true)
    (hfss : allFragments (fun f => Text.isFreeOf (c :: tag) f.toList) fss = true) :
    Text.isFreeOf (c :: tag) (unlines ls).toList = true := by
  apply (Composed.unlines h).isFreeOf hc
  rw [List.all_flatMap]
  apply List.all_eq_true.mpr
  intro fs hfs
  have hline := List.all_eq_true.mp hfss fs hfs
  rw [List.all_append, hline, List.all_cons, hend]
  rfl

theorem allFragments_append (p : String → Bool) (fss gss : List (List String)) :
    allFragments p (fss ++ gss) = (allFragments p fss && allFragments p gss) := List.all_append

theorem allFragments_map {α : Type} {p : String → Bool} {f : α → List String}
    (h : ∀ x, (f x).all p = true) (xs : List α) : allFragments p (xs.map f) = true := by
  rw [allFragments, List.all_map]
  exact List.all_eq_true.mpr fun x _ => h x

theorem allFragments_replicate {p : String → Bool} {fs : List String}
    (h : allFragments p (List.replicate 1 fs) = true) (n : Nat) :
    allFragments p (List.replicate n fs) = true := by
  rw [List.replicate_one, allFragments, List.all_cons, List.all_nil, Bool.and_true] at h
  exact List.all_eq_true.mpr fun gs hgs => List.eq_of_mem_replicate hgs ▸ h

-- Whatever can stand in a section stands in its fullest form, so it is enough to check that one.
theorem allFragments_headingFragments {p : String → Bool}
    (h : allFragments p (headingFragments true 1) = true) (stylesheet : Bool) (scripts : Nat) :
    allFragments p (headingFragments stylesheet scripts) = true := by
  simp only [headingFragments, allFragments_append, Bool.and_eq_true] at h ⊢
  obtain ⟨⟨⟨hbegin, hstylesheet⟩, hscript⟩, hend⟩ := h
  refine ⟨⟨⟨hbegin, ?_⟩, ?_⟩, hend⟩
  · cases stylesheet with
    | true => exact hstylesheet
    | false => rfl
  · exact allFragments_replicate hscript scripts

theorem allFragments_tableHeadFragments {p : String → Bool}
    (h : allFragments p (tableHeadFragments ⟨[""], []⟩) = true) (grid : Grid) :
    allFragments p (tableHeadFragments grid) = true := by
  simp only [tableHeadFragments, allFragments_append, Bool.and_eq_true] at h ⊢
  obtain ⟨⟨hbegin, hheader⟩, hend⟩ := h
  rw [List.map_singleton, allFragments, List.all_cons, List.all_nil, Bool.and_true] at hheader
  exact ⟨⟨hbegin, allFragments_map (fun _ => hheader) _⟩, hend⟩

theorem allFragments_rowFragments {p : String → Bool}
    (h : allFragments p (rowFragments ⟨1, [⟨1, 1⟩]⟩) = true) (row : GridRow) :
    allFragments p (rowFragments row) = true := by
  simp only [rowFragments, allFragments_append, Bool.and_eq_true] at h ⊢
  obtain ⟨⟨hbegin, hcell⟩, hend⟩ := h
  rw [List.map_singleton, allFragments, List.all_cons, List.all_nil, Bool.and_true] at hcell
  exact ⟨⟨hbegin, allFragments_map (fun _ => hcell) _⟩, hend⟩

theorem allFragments_tableFragments {p : String → Bool}
    (h : allFragments p (tableFragments ⟨[""], [⟨1, [⟨1, 1⟩]⟩]⟩) = true) (grid : Grid) :
    allFragments p (tableFragments grid) = true := by
  simp only [tableFragments, allFragments_append, Bool.and_eq_true] at h ⊢
  obtain ⟨⟨hhead, hrow⟩, hend⟩ := h
  rw [List.flatMap_singleton] at hrow
  refine ⟨⟨allFragments_tableHeadFragments hhead grid, ?_⟩, hend⟩
  rw [allFragments, List.all_flatMap]
  exact List.all_eq_true.mpr fun row _ => allFragments_rowFragments hrow row

theorem allFragments_footerFragments {p : String → Bool}
    (hlink : allFragments p (footerFragments true) = true)
    (hnone : allFragments p (footerFragments false) = true) (link : Bool) :
    allFragments p (footerFragments link) = true := by
  cases link with
  | true => exact hlink
  | false => exact hnone

theorem allFragments_navigationFragments {p : String → Bool}
    (h : allFragments p (navigationFragments [true, false]) = true) (entries : List Bool) :
    allFragments p (navigationFragments entries) = true := by
  simp only [navigationFragments, allFragments_append, Bool.and_eq_true] at h ⊢
  obtain ⟨⟨hbegin, hentries⟩, hend⟩ := h
  simp only [allFragments, List.map_cons, List.map_nil, List.all_cons, List.all_nil,
    Bool.and_true, Bool.and_eq_true] at hentries
  refine ⟨⟨hbegin, allFragments_map (fun current => ?_) _⟩, hend⟩
  cases current with
  | true => exact hentries.1
  | false => exact hentries.2

theorem composed_stylesheetLines (stylesheet : Option String) :
    List.Forall₂ Composed (stylesheetFragments stylesheet.isSome) (stylesheetLines stylesheet) := by
  cases stylesheet with
  | none => exact .nil
  | some href => exact .cons (((Composed.own _).append (.escaped href)).append (.own _)) .nil

theorem composed_scriptLine (src : String) : Composed scriptFragments (scriptLine src) :=
  ((Composed.own _).append (.escaped src)).append (.own _)

theorem composed_scriptLines (scripts : List String) :
    List.Forall₂ Composed (List.replicate scripts.length scriptFragments)
      (scripts.map scriptLine) := by
  rw [← List.map_const']
  exact Composed.map fun src _ => composed_scriptLine src

-- The own fragments and the texts of a line alternate as they do in its definition.
theorem composed_headingLines (r : Report) (sheet : String) :
    List.Forall₂ Composed
      (headingFragments r.settings.stylesheet.isSome r.settings.scripts.length)
      (headingLines r sheet) := by
  have htitle : Composed ["<title>", " - ", "</title>"]
      ("<title>" ++ escape r.title ++ " - " ++ escape sheet ++ "</title>") :=
    ((((Composed.own _).append (.escaped r.title)).append (.own _)).append
      (.escaped sheet)).append (.own _)
  have hheading : Composed ["<h1>", "</h1>"] ("<h1>" ++ escape r.title ++ "</h1>") :=
    ((Composed.own _).append (.escaped r.title)).append (.own _)
  have hsheet : Composed ["<td id='sheetref'>'", "'!<span id='selectedcell'></span></td>"]
      ("<td id='sheetref'>'" ++ escape sheet ++ "'!<span id='selectedcell'></span></td>") :=
    ((Composed.own _).append (.escaped sheet)).append (.own _)
  have hbegin : List.Forall₂ Composed
      [["<html>"], ["<head>"], ["<meta charset='utf-8' />"], ["<title>", " - ", "</title>"]] _ :=
    .cons (.own _) (.cons (.own _) (.cons (.own _) (.cons htitle .nil)))
  have hend := List.Forall₂.cons hsheet (.cons (.own "<td id='functionof'>&fnof;<i>x</i></td>")
    (.cons (.own "<td id='selectedformula'>&nbsp;</td>") (.cons (.own "</tr>")
    (.cons (.own "</table>") (.cons (.own "</div>") (.cons (.own "<div id='worksheet'>") .nil))))))
  apply List.rel_append
  · apply List.rel_append
    · apply List.rel_append
      · exact hbegin
      · exact composed_stylesheetLines r.settings.stylesheet
    · exact composed_scriptLines r.settings.scripts
  · exact .cons (.own _) (.cons (.own _) (.cons (.own _) (.cons hheading (.cons (.own _)
      (.cons (.own _) hend)))))

theorem composed_header {text : String} (h : Inert text) :
    Composed ["<th>", "</th>"] ("<th>" ++ text ++ "</th>") :=
  ((Composed.own _).append (.inert h)).append (.own _)

theorem composed_cellLine (s : Sheet) (cell : CellRef) :
    Composed cellFragments (cellLine s cell) := by
  have hcell : Composed [] cell.text := .inert (inert_text cell)
  have hformula : Composed [] (formulaText s cell) := .inert (inert_formulaText s cell)
  exact ((((((((Composed.own _).append hcell).append (.own _)).append hcell).append
    (.own _)).append hformula).append (.own _)).append (.escaped _)).append (.own _)

theorem composed_rowLines (s : Sheet) (row : GridRow) :
    List.Forall₂ Composed (rowFragments row) (rowLines s row) := by
  have hcells : List.Forall₂ Composed (row.cells.map fun _ => cellFragments)
      (row.cells.map (cellLine s)) :=
    Composed.map fun cell _ => composed_cellLine s cell
  apply List.rel_append
  · apply List.rel_append
    · exact .cons (.own _) (.cons (composed_header (inert_natText _)) .nil)
    · exact hcells
  · exact .cons (.own _) .nil

theorem composed_tableHeadLines (a : Area) :
    List.Forall₂ Composed (tableHeadFragments a.grid)
      (["<table class='cells'>", "<tr>", "<th></th>"] ++
        a.grid.columns.map (fun column => "<th>" ++ column ++ "</th>") ++ ["</tr>"]) := by
  have hcolumns : List.Forall₂ Composed (a.grid.columns.map fun _ => ["<th>", "</th>"])
      (a.grid.columns.map fun column => "<th>" ++ column ++ "</th>") := by
    apply Composed.map
    intro text htext
    obtain ⟨column, -, rfl⟩ := List.mem_map.mp htext
    exact composed_header (inert_letters column)
  apply List.rel_append
  · apply List.rel_append
    · exact .cons (.own _) (.cons (.own _) (.cons (.own _) .nil))
    · exact hcolumns
  · exact .cons (.own _) .nil

theorem composed_tableLines (s : Sheet) (a : Area) :
    List.Forall₂ Composed (tableFragments a.grid) (tableLines s a.grid) := by
  have hrows : List.Forall₂ Composed (a.grid.rows.flatMap rowFragments)
      (a.grid.rows.flatMap (rowLines s)) := by
    induction a.grid.rows with
    | nil => exact .nil
    | cons row rest ih => exact List.rel_append (composed_rowLines s row) ih
  apply List.rel_append
  · apply List.rel_append
    · exact composed_tableHeadLines a
    · exact hrows
  · exact .cons (.own _) .nil

theorem composed_attribution (settings : Settings) :
    Composed (attributionFragments settings.attributionUrl.isSome) (attribution settings) := by
  unfold attribution
  cases settings.attributionUrl with
  | none => exact (Composed.escaped _).append (.own _)
  | some url =>
    exact ((((Composed.own _).append (.escaped url)).append (.own _)).append (.escaped _)).append
      (.own _)

theorem composed_footerLines (r : Report) (stamp : String) :
    List.Forall₂ Composed (footerFragments r.settings.attributionUrl.isSome)
      (footerLines r stamp) := by
  have hstamp : Composed ["<p>Generated on ", " by "]
      ("<p>Generated on " ++ escape stamp ++ " by ") :=
    ((Composed.own _).append (.escaped stamp)).append (.own _)
  exact .cons (hstamp.append (composed_attribution r.settings)) (.cons (.own _) .nil)

theorem composed_navigationLine (current name : String) :
    Composed (entryFragments (name = current)) (navigationLine current name) := by
  have hbegin : Composed [if decide (name = current) then "<td class='current'>" else "<td>"]
      (if name = current then "<td class='current'>" else "<td>") := by
    simp only [decide_eq_true_eq]
    exact .own _
  exact ((((hbegin.append (.own _)).append (.escaped _)).append (.own _)).append
    (.escaped name)).append (.own _)

theorem composed_navigationLines (r : Report) (current : String) :
    List.Forall₂ Composed (navigationFragments (r.navigation.map fun name => name = current))
      (navigationLines r current) := by
  have hentries : List.Forall₂ Composed
      ((r.navigation.map fun name => decide (name = current)).map entryFragments)
      (r.navigation.map (navigationLine current)) := by
    rw [List.map_map]
    exact Composed.map fun name _ => composed_navigationLine current name
  apply List.rel_append
  · apply List.rel_append
    · exact .cons (.own _) .nil
    · exact hentries
  · exact .cons (.own _) .nil

/-- What the markup of a page depends on. -/
structure PageShape where
  area : Area
  /-- For each entry of the navigation, whether it is that of the page. -/
  entries : List Bool
  scripts : Nat
  stylesheet : Bool
  attributionUrl : Bool

/-- The fragments of the lines of a page. -/
def PageShape.fragments (shape : PageShape) : List (List String) :=
  headingFragments shape.stylesheet shape.scripts ++ tableFragments shape.area.grid ++
    footerFragments shape.attributionUrl ++ navigationFragments shape.entries ++
    [["</body>"], ["</html>"]]

/-- The shape of a sheet's page over an area. -/
def shapeOver (r : Report) (sheet : String) (a : Area) : PageShape where
  area := a
  entries := r.navigation.map fun name => name = sheet
  scripts := r.settings.scripts.length
  stylesheet := r.settings.stylesheet.isSome
  attributionUrl := r.settings.attributionUrl.isSome

theorem composed_pageLines (r : Report) (s : Sheet) (a : Area) (stamp : String) :
    List.Forall₂ Composed (r.shapeOver s.name a).fragments (pageLines r s a stamp) := by
  apply List.rel_append
  · apply List.rel_append
    · apply List.rel_append
      · apply List.rel_append
        · exact composed_headingLines r s.name
        · exact composed_tableLines s a
      · exact composed_footerLines r stamp
    · exact composed_navigationLines r s.name
  · exact .cons (.own _) (.cons (.own _) .nil)

end LinkedSheets.Report
