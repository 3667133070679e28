import LinkedSheets.Cell.Reference
import LinkedSheets.Formula.Node
import LinkedSheets.Formula.Rule
import LinkedSheets.Markup.Href
import LinkedSheets.Number.Layout
import LinkedSheets.Text.Blank
import LinkedSheets.Text.Capital
import LinkedSheets.Text.Quoted

/-!
# Rendered formulae

A formula is rendered to pieces of text and links. A reference links to a cell of the page it lies
on, or of the page of the innermost sheet reference around it. An operator without a rule, or with
arguments that its rule has no use for, is written as a list in square brackets.
-/

namespace LinkedSheets

open Text Markup

/-- A link goes to a place on a page; no page means the one that it stands on. -/
inductive Piece where
  | text (content : String)
  | link (page fragment shown : String)
deriving DecidableEq

def Piece.write : Piece → String
  | .text content => content
  | .link page fragment shown => "<a href=\"" ++ page ++ "#" ++ fragment ++ "\">" ++ shown ++ "</a>"

/-- The text of pieces one after the other. -/
def writePieces (pieces : List Piece) : String := String.join (pieces.map Piece.write)

/-- Percentages are written in full, without exponent, and the larger one of two equally near
decimals is taken. -/
def percentageLayout : NumberLayout where
  isPositional _ := true
  pointZero := false
  half := .up

/-- A hundred times the number that a literal denotes, and a percent sign. -/
def percentage? (literal : String) : Option String :=
  (Binary64.read? (trim literal.toList)).map fun p =>
    String.ofList (percentageLayout.write (p.scale 100)) ++ "%"

/-- Parts with a text between each two of them. -/
def separated (separator : String) : List (List Piece) → List Piece
  | [] => []
  | [part] => part
  | part :: rest => part ++ .text separator :: separated separator rest

def rangeLink (page first last : String) : Piece :=
  .link page (stripAbsolute first ++ ":" ++ stripAbsolute last) (first ++ ":" ++ last)

/-- An operator and its arguments as a list in square brackets. -/
def bracketed (tag : String) (args : List (List Piece)) : List Piece :=
  .text "[" :: separated ", " ([.text tag] :: args) ++ [.text "]"]

namespace Node

mutual

/-- The pieces of a node whose references lie on `page`. -/
def pieces (page : String) : Node → List Piece
  | .leaf text => [.text text]
  | .sequence items => (parts page items).flatten
  | .tagged tag args =>
      match Rule.ofName? tag, args with
      | some .function, .leaf name :: rest =>
          .text (capitals name ++ "(") :: separated ", " (parts page rest) ++ [.text ")"]
      | some .brackets, args => .text "(" :: (parts page args).flatten ++ [.text ")"]
      | some .stringJoin, args => separated "&" (parts page args)
      | some .arithmetic, args => (parts page args).flatten
      | some .comparison, args => (parts page args).flatten
      | some .string, [.leaf text] => [.text (quoted text)]
      | some .percentage, [.leaf literal] =>
          match percentage? literal with
          | some text => [.text text]
          | none => bracketed tag [[.text literal]]
      | some .number, [arg] => pieces page arg
      | some .operator, [arg] => pieces page arg
      | some .namedReference, [arg] => pieces page arg
      | some .error, [arg] => pieces page arg
      | some .sheetReference, [.leaf sheet, reference] => pieces (pageHref sheet) reference
      | some .area, [.leaf first, .leaf last] => [rangeLink page first last]
      | some .columnRange, [.leaf first, .leaf last] => [rangeLink page first last]
      | some .rowRange, [.leaf first, .leaf last] => [rangeLink page first last]
      | some .cell, [.leaf reference] => [.link page (stripAbsolute reference) reference]
      | some .booleanFalse, [] => [.text "FALSE"]
      | some .booleanTrue, [] => [.text "TRUE"]
      | some .sign, .leaf sign :: rest => .text sign :: (parts page rest).flatten
      | some .null, [] => [.text ", "]
      | _, args => bracketed tag (parts page args)

/-- The pieces of each argument. The items of a sequence count as arguments of their own. -/
def parts (page : String) : List Node → List (List Piece)
  | [] => []
  | .sequence items :: rest => parts page items ++ parts page rest
  | arg :: rest => pieces page arg :: parts page rest

end

/-- The markup of a formula on the page of its own sheet. -/
def render (n : Node) : String := writePieces (n.pieces "")

end Node

end LinkedSheets
