import LinkedSheets.Proofs.Formula.Layout

/-!
# Where the links of a formula lead

Rendering a formula gives one link for each reference in its tree, in order, and nothing but text
besides. A link leads to the page of the sheet that the innermost sheet reference around it names,
or, if there is none, to the page that the formula is rendered for.
-/

namespace LinkedSheets

open Text Markup

/-- A reference in a formula. -/
structure Link where
  /-- The sheets named by the sheet references around it, from the innermost to the outermost. -/
  enclosing : List String
  fragment : String
  shown : String

namespace Link

/-- The link with one more sheet reference around it. -/
def within (sheet : Option String) (l : Link) : Link :=
  { l with enclosing := l.enclosing ++ sheet.toList }

/-- The page that a link leads to in a formula rendered for `page`. -/
def target (page : String) (l : Link) : String := (l.enclosing.head?.map pageHref).getD page

end Link

namespace Node

/-- The link of an operator that is a reference, before what is around it is known. -/
def reference? (tag : String) : List Node → Option Link
  | [.leaf cell] => if tag = "cell" then some ⟨[], stripAbsolute cell, cell⟩ else none
  | [.leaf first, .leaf last] =>
      if tag = "area" ∨ tag = "column_range" ∨ tag = "row_range" then
        some ⟨[], stripAbsolute first ++ ":" ++ stripAbsolute last, first ++ ":" ++ last⟩
      else none
  | _ => none

/-- The sheet that an operator names for what is in its second argument. -/
def sheetFor? (tag : String) : List Node → Option String
  | [.leaf sheet, _] => if tag = "sheet_reference" then some sheet else none
  | _ => none

mutual

/-- The references in a tree, from left to right. -/
def links : Node → List Link
  | .leaf _ => []
  | .sequence items => linksOfAll items
  | .tagged tag args =>
      (reference? tag args).toList ++ (linksOfAll args).map (Link.within (sheetFor? tag args))

def linksOfAll : List Node → List Link
  | [] => []
  | n :: rest => links n ++ linksOfAll rest

end

/-- The references that a layout has of its own or among its arguments. -/
def Layout.links : Layout → List Link
  | .link fragment shown => [⟨[], fragment, shown⟩]
  | .parts _ _ sheet args _ => (linksOfAll args).map (Link.within sheet)

theorem map_within_none (ls : List Link) : ls.map (Link.within none) = ls := by
  have hid : Link.within none = id := by
    funext l
    rw [Link.within, Option.toList_none, List.append_nil]
    rfl
  rw [hid, List.map_id]

theorem links_parts_none (before : List String) (separator : Option String) (args : List Node)
    (after : List String) :
    (Layout.parts before separator none args after).links = linksOfAll args :=
  map_within_none _

theorem links_listLayout (tag : String) (args : List Node) :
    (listLayout tag args).links = linksOfAll args := by
  rw [listLayout, links_parts_none, linksOfAll, links, List.nil_append]

theorem links_percentLayout (tag literal : String) : (percentLayout tag literal).links = [] := by
  unfold percentLayout
  cases percentage? literal with
  | some text => rfl
  | none => exact links_listLayout tag [.leaf literal]

theorem links_of_none {tag : String} {args : List Node} (hreference : reference? tag args = none)
    (hsheet : sheetFor? tag args = none) : links (.tagged tag args) = linksOfAll args := by
  rw [links, hreference, hsheet, map_within_none, Option.toList_none, List.nil_append]

theorem reference?_eq_none {tag : String} {args : List Node}
    (hcell : ∀ cell, tag = "cell" → args ≠ [.leaf cell])
    (hrange : ∀ first last, tag = "area" ∨ tag = "column_range" ∨ tag = "row_range" →
      args ≠ [.leaf first, .leaf last]) :
    reference? tag args = none := by
  unfold reference?
  split
  · exact if_neg fun h => hcell _ h rfl
  · exact if_neg fun h => hrange _ _ h rfl
  · rfl

theorem sheetFor?_eq_none {tag : String} {args : List Node}
    (h : ∀ sheet a, tag = "sheet_reference" → args ≠ [.leaf sheet, a]) :
    sheetFor? tag args = none := by
  unfold sheetFor?
  split
  · exact if_neg fun htag => h _ _ htag rfl
  · rfl

/-- The references of any operator but those that are references or name a sheet are those of its
arguments. -/
theorem links_of_rule {tag : String} {rule : Rule} (hrule : Rule.ofName? tag = some rule)
    (h : rule ∉ [Rule.cell, .area, .columnRange, .rowRange, .sheetReference]) (args : List Node) :
    links (.tagged tag args) = linksOfAll args := by
  have hne : ∀ other ∈ [Rule.cell, .area, .columnRange, .rowRange, .sheetReference],
      tag ≠ other.name := by
    intro other hother htag
    rw [htag, Rule.ofName?_name, Option.some.injEq] at hrule
    exact h (hrule ▸ hother)
  simp only [List.forall_mem_cons] at hne
  obtain ⟨hcell, harea, hcolumns, hrows, hsheet, -⟩ := hne
  apply links_of_none
  · apply reference?_eq_none
    · exact fun _ htag => absurd htag hcell
    · rintro _ _ (htag | htag | htag)
      · exact absurd htag harea
      · exact absurd htag hcolumns
      · exact absurd htag hrows
  · exact sheetFor?_eq_none fun _ _ htag => absurd htag hsheet

theorem links_range {tag : String}
    (h : tag = "area" ∨ tag = "column_range" ∨ tag = "row_range") (first last : String) :
    links (.tagged tag [.leaf first, .leaf last]) = (rangeLayout first last).links := by
  have hreference : reference? tag [.leaf first, .leaf last] =
      some ⟨[], stripAbsolute first ++ ":" ++ stripAbsolute last, first ++ ":" ++ last⟩ := if_pos h
  rw [links, hreference]
  rfl

theorem links_cell (cell : String) :
    links (.tagged "cell" [.leaf cell]) = (Layout.link (stripAbsolute cell) cell).links := by
  rfl

theorem links_sheetReference (sheet : String) (a : Node) :
    links (.tagged "sheet_reference" [.leaf sheet, a]) =
      (Layout.parts [] none (some sheet) [a] []).links := by
  have hreference : reference? "sheet_reference" [.leaf sheet, a] = none := by
    apply reference?_eq_none
    · exact fun _ htag => absurd htag (by decide)
    · exact fun _ _ htag => absurd htag (by decide)
  have hsheet : sheetFor? "sheet_reference" [.leaf sheet, a] = some sheet := rfl
  rw [links, hreference, hsheet, linksOfAll, links]
  rfl

theorem linksOfAll_leaf_cons (text : String) (rest : List Node) :
    linksOfAll (.leaf text :: rest) = linksOfAll rest := by
  rw [linksOfAll, links, List.nil_append]

-- The references of an operator are those that its layout has.
theorem links_tagged (tag : String) (args : List Node) :
    links (.tagged tag args) = (layout tag args).links := by
  unfold layout
  split
  -- The sheet reference, the three ranges and the cell.
  case h_12 hrule =>
    rw [← Rule.name_of_ofName? hrule]
    exact links_sheetReference _ _
  case h_13 hrule =>
    exact links_range (Or.inl (Rule.name_of_ofName? hrule).symm) _ _
  case h_14 hrule =>
    exact links_range (Or.inr (Or.inl (Rule.name_of_ofName? hrule).symm)) _ _
  case h_15 hrule =>
    exact links_range (Or.inr (Or.inr (Rule.name_of_ofName? hrule).symm)) _ _
  case h_16 hrule =>
    rw [← Rule.name_of_ofName? hrule]
    exact links_cell _
  case h_21 hsheet harea hcolumns hrows hcell _ _ _ _ =>
    -- The arguments do not fit the operator, so it is no reference and names no sheet.
    rw [links_listLayout]
    apply links_of_none
    · apply reference?_eq_none
      · rintro cell rfl
        exact hcell cell (Rule.ofName?_name .cell)
      · rintro first last (rfl | rfl | rfl)
        · exact harea first last (Rule.ofName?_name .area)
        · exact hcolumns first last (Rule.ofName?_name .columnRange)
        · exact hrows first last (Rule.ofName?_name .rowRange)
    · apply sheetFor?_eq_none
      rintro sheet a rfl
      exact hsheet sheet a (Rule.ofName?_name .sheetReference)
  -- A function and a sign leave out their first argument, which is text.
  case h_1 hrule =>
    rw [links_of_rule hrule (by decide), linksOfAll_leaf_cons, links_parts_none]
  case h_19 hrule =>
    rw [links_of_rule hrule (by decide), linksOfAll_leaf_cons, links_parts_none]
  -- A string and a percentage are text.
  case h_6 hrule =>
    rw [links_of_rule hrule (by decide)]
    rfl
  case h_7 hrule =>
    rw [links_of_rule hrule (by decide), links_percentLayout]
    rfl
  -- All other operators have just the references of their arguments.
  all_goals
    rename_i hrule
    rw [links_of_rule hrule (by decide)]
    exact (links_parts_none _ _ _ _).symm

end Node

/-- A piece of a rendered formula before it is known which page that is for. -/
inductive Segment where
  | text (content : String)
  | link (l : Link)

namespace Segment

def link? : Segment → Option Link
  | .text _ => none
  | .link l => some l

def within (sheet : Option String) : Segment → Segment
  | .text content => .text content
  | .link l => .link (l.within sheet)

/-- The piece for a page. -/
def piece (page : String) : Segment → Piece
  | .text content => .text content
  | .link l => .link (l.target page) l.fragment l.shown

/-- What is written of a segment on a page. -/
def write (page : String) : Segment → String
  | .text content => content
  | .link l => "<a href=\"" ++ l.target page ++ "#" ++ l.fragment ++ "\">" ++ l.shown ++ "</a>"

theorem write_piece (page : String) (s : Segment) : (s.piece page).write = s.write page := by
  cases s with
  | text content => rfl
  | link l => rfl

end Segment

theorem Link.target_within (page : String) (sheet : Option String) (l : Link) :
    (l.within sheet).target page = l.target ((sheet.map pageHref).getD page) := by
  obtain ⟨enclosing, fragment, shown⟩ := l
  cases enclosing with
  | nil =>
    cases sheet with
    | none => rfl
    | some name => rfl
  | cons inner outer => rfl

theorem Segment.piece_within (page : String) (sheet : Option String) (s : Segment) :
    (s.within sheet).piece page = s.piece ((sheet.map pageHref).getD page) := by
  cases s with
  | text content => rfl
  | link l =>
    rw [Segment.within, Segment.piece, Link.target_within]
    rfl

theorem Segment.link?_within (sheet : Option String) (s : Segment) :
    (s.within sheet).link? = s.link?.map (Link.within sheet) := by
  cases s with
  | text content => rfl
  | link l => rfl

/-- For every page the pieces come from the same segments, whose links are given. -/
def Scoped (pieces : String → List Piece) (links : List Link) : Prop :=
  ∃ segments : List Segment, segments.filterMap Segment.link? = links ∧
    ∀ page, pieces page = segments.map (Segment.piece page)

/-- The same of a list of parts. -/
def ScopedParts (parts : String → List (List Piece)) (links : List Link) : Prop :=
  ∃ segmentss : List (List Segment), segmentss.flatten.filterMap Segment.link? = links ∧
    ∀ page, parts page = segmentss.map (List.map (Segment.piece page))

namespace Scoped

variable {f g : String → List Piece} {ls ms : List Link}

theorem texts (contents : List String) : Scoped (fun _ => contents.map .text) [] := by
  refine ⟨contents.map .text, ?_, fun page => ?_⟩
  · rw [List.filterMap_map, List.filterMap_eq_nil_iff]
    exact fun _ _ => rfl
  · rw [List.map_map]
    rfl

theorem link (fragment shown : String) :
    Scoped (fun page => [.link page fragment shown]) [⟨[], fragment, shown⟩] :=
  ⟨[.link ⟨[], fragment, shown⟩], rfl, fun _ => rfl⟩

theorem append (hf : Scoped f ls) (hg : Scoped g ms) :
    Scoped (fun page => f page ++ g page) (ls ++ ms) := by
  obtain ⟨ss, hls, hf⟩ := hf
  obtain ⟨ts, hms, hg⟩ := hg
  refine ⟨ss ++ ts, ?_, fun page => ?_⟩
  · rw [List.filterMap_append, hls, hms]
  · show f page ++ g page = _
    rw [hf, hg, List.map_append]

theorem singleton (hf : Scoped f ls) : ScopedParts (fun page => [f page]) ls := by
  obtain ⟨ss, hls, hf⟩ := hf
  refine ⟨[ss], ?_, fun page => ?_⟩
  · rw [List.flatten_singleton, hls]
  · show [f page] = _
    rw [hf, List.map_singleton]

end Scoped

namespace ScopedParts

variable {f g : String → List (List Piece)} {ls ms : List Link}

theorem nil : ScopedParts (fun _ => []) [] := ⟨[], rfl, fun _ => rfl⟩

theorem append (hf : ScopedParts f ls) (hg : ScopedParts g ms) :
    ScopedParts (fun page => f page ++ g page) (ls ++ ms) := by
  obtain ⟨ss, hls, hf⟩ := hf
  obtain ⟨ts, hms, hg⟩ := hg
  refine ⟨ss ++ ts, ?_, fun page => ?_⟩
  · rw [List.flatten_append, List.filterMap_append, hls, hms]
  · show f page ++ g page = _
    rw [hf, hg, List.map_append]

theorem within (hf : ScopedParts f ls) (sheet : Option String) :
    ScopedParts (fun page => f ((sheet.map pageHref).getD page)) (ls.map (Link.within sheet)) := by
  obtain ⟨ss, hls, hf⟩ := hf
  refine ⟨ss.map (List.map (Segment.within sheet)), ?_, fun page => ?_⟩
  · rw [← List.map_flatten, List.filterMap_map, ← hls, List.map_filterMap]
    exact List.filterMap_congr fun s _ => Segment.link?_within sheet s
  · show f ((sheet.map pageHref).getD page) = _
    rw [hf, List.map_map]
    apply List.map_congr_left
    intro part _
    rw [Function.comp_apply, List.map_map]
    exact List.map_congr_left fun s _ => (Segment.piece_within page sheet s).symm

theorem flatten (hf : ScopedParts f ls) : Scoped (fun page => (f page).flatten) ls := by
  obtain ⟨ss, hls, hf⟩ := hf
  refine ⟨ss.flatten, hls, fun page => ?_⟩
  show (f page).flatten = _
  rw [hf, List.map_flatten]

theorem exists_separated (separator : String) (ss : List (List Segment)) :
    ∃ segments : List Segment,
      segments.filterMap Segment.link? = ss.flatten.filterMap Segment.link? ∧
      ∀ page, separated separator (ss.map (List.map (Segment.piece page))) =
        segments.map (Segment.piece page) := by
  induction ss with
  | nil => exact ⟨[], rfl, fun _ => rfl⟩
  | cons part rest ih =>
    cases rest with
    | nil => exact ⟨part, by rw [List.flatten_singleton], fun _ => rfl⟩
    | cons next more =>
      obtain ⟨segments, hlinks, hpieces⟩ := ih
      refine ⟨part ++ .text separator :: segments, ?_, fun page => ?_⟩
      · rw [List.filterMap_append, List.flatten_cons, List.filterMap_append, ← hlinks]
        rfl
      · rw [List.map_append, List.map_cons (l := segments), ← hpieces]
        rfl

theorem joined (hf : ScopedParts f ls) (separator : Option String) :
    Scoped (fun page => Node.joined separator (f page)) ls := by
  cases separator with
  | none => exact hf.flatten
  | some text =>
    obtain ⟨ss, hls, hf⟩ := hf
    obtain ⟨segments, hlinks, hpieces⟩ := exists_separated text ss
    refine ⟨segments, hlinks.trans hls, fun page => ?_⟩
    show separated text (f page) = _
    rw [hf]
    exact hpieces page

end ScopedParts

namespace Node

-- The parts of nodes are scoped if those of each node are.
theorem scopedParts_of_forall {args : List Node}
    (h : ∀ a ∈ args, ScopedParts (fun page => parts page [a]) a.links) :
    ScopedParts (fun page => parts page args) (linksOfAll args) := by
  induction args with
  | nil => simpa only [parts, linksOfAll] using ScopedParts.nil
  | cons a rest ih =>
    have hrest := ih fun b hb => h b (List.mem_cons_of_mem a hb)
    simp only [parts_cons _ a rest, linksOfAll]
    exact (h a List.mem_cons_self).append hrest

theorem scoped_layout (l : Layout)
    (h : ∀ a ∈ l.args, ScopedParts (fun page => parts page [a]) a.links) :
    Scoped (fun page => l.pieces page) l.links := by
  cases l with
  | link fragment shown => exact Scoped.link fragment shown
  | parts before separator sheet args after =>
    have hargs := ((scopedParts_of_forall h).within sheet).joined separator
    have hall := ((Scoped.texts before).append hargs).append (Scoped.texts after)
    rw [List.nil_append, List.append_nil] at hall
    exact hall

theorem scopedParts_singleton (n : Node) :
    ScopedParts (fun page => parts page [n]) n.links := by
  induction n using Node.induction with
  | leaf text =>
    simp only [parts, pieces, links]
    exact (Scoped.texts [text]).singleton
  | tagged tag args ih =>
    simp only [parts, pieces_tagged, links_tagged]
    apply Scoped.singleton
    apply scoped_layout
    intro a ha
    rcases List.mem_cons.mp (args_layout_subset tag args ha) with rfl | hmem
    · simp only [parts, pieces, links]
      exact (Scoped.texts [tag]).singleton
    · exact ih a hmem
  | sequence items ih =>
    simp only [parts, links, List.append_nil]
    exact scopedParts_of_forall ih

theorem scoped_pieces (n : Node) : Scoped (fun page => n.pieces page) n.links := by
  have hflat := (scopedParts_singleton n).flatten
  simp only [flatten_parts_singleton] at hflat
  exact hflat

/-- A formula rendered for any page is the same texts and links: a link for each reference in the
tree, in order, that leads to the page of the innermost sheet named around it, and to the page that
the formula is for if none is. -/
theorem pieces_eq_segments (n : Node) :
    ∃ segments : List Segment, segments.filterMap Segment.link? = n.links ∧
      ∀ page, n.pieces page = segments.map (Segment.piece page) ∧
        writePieces (n.pieces page) = String.join (segments.map (Segment.write page)) := by
  obtain ⟨segments, hlinks, hpieces⟩ := n.scoped_pieces
  refine ⟨segments, hlinks, fun page => ⟨hpieces page, ?_⟩⟩
  have hpage : n.pieces page = segments.map (Segment.piece page) := hpieces page
  rw [writePieces, hpage, List.map_map]
  exact congrArg String.join (List.map_congr_left fun s _ => Segment.write_piece page s)

example :
    links (.tagged "arithmetic"
      [.tagged "sheet_reference"
        [.leaf "S", .tagged "sheet_reference" [.leaf "T", .tagged "cell" [.leaf "$A$1"]]],
      .tagged "sheet_reference" [.tagged "cell" [.leaf "B2"]]]) =
    [⟨["T", "S"], "A1", "$A$1"⟩, ⟨[], "B2", "B2"⟩] := by rfl

end Node

end LinkedSheets
