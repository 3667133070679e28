import LinkedSheets.Text.Quoted

/-!
# What can be wrong with a reference
-/

namespace LinkedSheets

/-- Both causes hold the text that was read. -/
inductive RefError where
  | invalid (text : String)
  | outOfRange (text : String)
deriving DecidableEq

def RefError.message : RefError → String
  | .invalid text => "Invalid cell reference: " ++ Text.quoted text
  | .outOfRange text => "Cell reference out of range: " ++ Text.quoted text

end LinkedSheets
