import LinkedSheets.Formula.Rendering
import Mathlib.Data.List.Basic

/-!
# Layouts of operators

What an operator is rendered to is either one link or the parts of some of its arguments with text
around and between them. Which of them it is does not depend on the page.
-/

namespace LinkedSheets

open Text Markup

namespace Node

-- What holds of a node if it holds of those right under it holds of every node.
theorem induction {P : Node → Prop} (leaf : ∀ text, P (.leaf text))
    (tagged : ∀ tag args, (∀ a ∈ args, P a) → P (.tagged tag args))
    (sequence : ∀ items, (∀ a ∈ items, P a) → P (.sequence items)) (n : Node) : P n := by
  apply Node.rec (motive_1 := P) (motive_2 := fun args => ∀ a ∈ args, P a) leaf tagged sequence
  · exact fun a ha => absurd ha List.not_mem_nil
  · intro a rest ha hrest b hb
    rcases List.mem_cons.mp hb with rfl | hb
    · exact ha
    · exact hrest b hb

/-- What an operator with its arguments is rendered to. -/
inductive Layout where
  | link (fragment shown : String)
  /-- The parts of arguments one after the other, or with a separator, as they are on the page, or
  on that of a sheet, with texts around them. -/
  | parts (before : List String) (separator sheet : Option String) (args : List Node)
      (after : List String)

def listLayout (tag : String) (args : List Node) : Layout :=
  .parts ["["] (some ", ") none (.leaf tag :: args) ["]"]

def textLayout (content : String) : Layout := .parts [content] none none [] []

def rangeLayout (first last : String) : Layout :=
  .link (stripAbsolute first ++ ":" ++ stripAbsolute last) (first ++ ":" ++ last)

/-- A percentage whose argument is no number is written as a list. -/
def percentLayout (tag literal : String) : Layout :=
  match percentage? literal with
  | some text => textLayout text
  | none => listLayout tag [.leaf literal]

def layout (tag : String) (args : List Node) : Layout :=
  match Rule.ofName? tag, args with
  | some .function, .leaf name :: rest => .parts [capitals name ++ "("] (some ", ") none rest [")"]
  | some .brackets, args => .parts ["("] none none args [")"]
  | some .stringJoin, args => .parts [] (some "&") none args []
  | some .arithmetic, args => .parts [] none none args []
  | some .comparison, args => .parts [] none none args []
  | some .string, [.leaf text] => textLayout (quoted text)
  | some .percentage, [.leaf literal] => percentLayout tag literal
  | some .number, [arg] => .parts [] none none [arg] []
  | some .operator, [arg] => .parts [] none none [arg] []
  | some .namedReference, [arg] => .parts [] none none [arg] []
  | some .error, [arg] => .parts [] none none [arg] []
  | some .sheetReference, [.leaf sheet, reference] => .parts [] none (some sheet) [reference] []
  | some .area, [.leaf first, .leaf last] => rangeLayout first last
  | some .columnRange, [.leaf first, .leaf last] => rangeLayout first last
  | some .rowRange, [.leaf first, .leaf last] => rangeLayout first last
  | some .cell, [.leaf reference] => .link (stripAbsolute reference) reference
  | some .booleanFalse, [] => textLayout "FALSE"
  | some .booleanTrue, [] => textLayout "TRUE"
  | some .sign, .leaf sign :: rest => .parts [sign] none none rest []
  | some .null, [] => textLayout ", "
  | _, args => listLayout tag args

def joined : Option String → List (List Piece) → List Piece
  | none, ps => ps.flatten
  | some separator, ps => separated separator ps

def Layout.pieces (page : String) : Layout → List Piece
  | .link fragment shown => [.link page fragment shown]
  | .parts before separator sheet args after =>
      before.map .text ++ joined separator (Node.parts ((sheet.map pageHref).getD page) args) ++
        after.map .text

theorem parts_cons (page : String) (a : Node) (rest : List Node) :
    parts page (a :: rest) = parts page [a] ++ parts page rest := by
  cases a with
  | leaf text => simp only [parts, List.cons_append, List.nil_append]
  | tagged tag args => simp only [parts, List.cons_append, List.nil_append]
  | sequence items => simp only [parts, List.append_nil]

theorem flatten_parts_singleton (page : String) (a : Node) :
    (parts page [a]).flatten = pieces page a := by
  cases a with
  | leaf text => simp only [parts, List.flatten_singleton]
  | tagged tag args => simp only [parts, List.flatten_singleton]
  | sequence items => simp only [parts, pieces, List.append_nil]

theorem pieces_listLayout (page tag : String) (args : List Node) :
    (listLayout tag args).pieces page = bracketed tag (parts page args) := by
  simp only [listLayout, Layout.pieces, parts, pieces]
  rfl

theorem pieces_joined (page : String) (separator : Option String) (args : List Node) :
    (Layout.parts [] separator none args []).pieces page = joined separator (parts page args) :=
  List.append_nil _

theorem pieces_single (page : String) (a : Node) :
    (Layout.parts [] none none [a] []).pieces page = pieces page a := by
  rw [pieces_joined, joined, flatten_parts_singleton]

theorem pieces_percentLayout (page tag literal : String) :
    (percentLayout tag literal).pieces page =
      match percentage? literal with
      | some text => [.text text]
      | none => bracketed tag [[.text literal]] := by
  unfold percentLayout
  cases percentage? literal with
  | some text => rfl
  | none => exact pieces_listLayout page tag [.leaf literal]

theorem pieces_tagged (page tag : String) (args : List Node) :
    pieces page (.tagged tag args) = (layout tag args).pieces page := by
  unfold pieces layout
  generalize Rule.ofName? tag = rule
  split
  · rfl
  · rfl
  · exact (pieces_joined page (some "&") _).symm
  · exact (pieces_joined page none _).symm
  · exact (pieces_joined page none _).symm
  · rfl
  · exact (pieces_percentLayout page tag _).symm
  · exact (pieces_single page _).symm
  · exact (pieces_single page _).symm
  · exact (pieces_single page _).symm
  · exact (pieces_single page _).symm
  · rename_i sheet reference
    exact (flatten_parts_singleton (pageHref sheet) reference).symm.trans (List.append_nil _).symm
  · rfl
  · rfl
  · rfl
  · rfl
  · rfl
  · rfl
  · exact (List.append_nil _).symm
  · rfl
  · -- The layout has the same alternatives, so only its last one is left.
    refine (pieces_listLayout page tag _).symm.trans (congrArg (Layout.pieces page) ?_)
    simp_all only

/-- The arguments whose parts an operator is rendered to, if it is no link. -/
def Layout.args : Layout → List Node
  | .link _ _ => []
  | .parts _ _ _ args _ => args

theorem args_percentLayout_subset (tag literal : String) :
    (percentLayout tag literal).args ⊆ [.leaf tag, .leaf literal] := by
  unfold percentLayout
  cases percentage? literal with
  | some text => exact List.nil_subset _
  | none => exact List.Subset.refl _

-- An operator renders nothing but its arguments and its tag.
theorem args_layout_subset (tag : String) (args : List Node) :
    (layout tag args).args ⊆ .leaf tag :: args := by
  unfold layout
  split
  case h_7 => exact args_percentLayout_subset tag _
  all_goals simp [Layout.args, textLayout, rangeLayout, listLayout]

end Node

end LinkedSheets
