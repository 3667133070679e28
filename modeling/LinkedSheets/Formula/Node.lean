/-!
# Formula trees
-/

namespace LinkedSheets

/-- A parsed formula: a literal, an operator with its arguments, or nodes without an operator. -/
inductive Node where
  | leaf (text : String)
  | tagged (tag : String) (args : List Node)
  | sequence (items : List Node)

end LinkedSheets
