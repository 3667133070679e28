/-!
# Rendering rules

The operators that have a rendering of their own, and their names in a formula tree.
-/

namespace LinkedSheets

inductive Rule where
  | function
  | brackets
  | stringJoin
  | arithmetic
  | comparison
  | string
  | percentage
  | number
  | operator
  | sheetReference
  | area
  | cell
  | columnRange
  | rowRange
  | namedReference
  | error
  | booleanFalse
  | booleanTrue
  | sign
  | null
deriving DecidableEq

namespace Rule

def all : List Rule :=
  [.function, .brackets, .stringJoin, .arithmetic, .comparison, .string, .percentage, .number,
    .operator, .sheetReference, .area, .cell, .columnRange, .rowRange, .namedReference, .error,
    .booleanFalse, .booleanTrue, .sign, .null]

def name : Rule → String
  | .function => "function"
  | .brackets => "brackets"
  | .stringJoin => "string_join"
  | .arithmetic => "arithmetic"
  | .comparison => "comparison"
  | .string => "string"
  | .percentage => "percentage"
  | .number => "number"
  | .operator => "operator"
  | .sheetReference => "sheet_reference"
  | .area => "area"
  | .cell => "cell"
  | .columnRange => "column_range"
  | .rowRange => "row_range"
  | .namedReference => "named_reference"
  | .error => "error"
  | .booleanFalse => "boolean_false"
  | .booleanTrue => "boolean_true"
  | .sign => "prefix"
  | .null => "null"

def ofName? (name : String) : Option Rule := all.find? (·.name = name)

theorem ofName?_name (r : Rule) : ofName? r.name = some r := by
  cases r <;> decide

theorem name_of_ofName? {name : String} {r : Rule} (h : ofName? name = some r) : r.name = name := by
  simpa using List.find?_some h

end Rule

end LinkedSheets
