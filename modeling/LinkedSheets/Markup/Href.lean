import LinkedSheets.Text.Hex

/-!
# Page links

The relative URL of a sheet's page: the sheet's name, percent-encoded, and `.html`.
-/

namespace LinkedSheets.Markup

open Text

/-- Characters that stand for themselves in a page's URL: visible ASCII except those that would end
an attribute or the path. -/
def isPlain (c : Char) : Bool :=
  0x20 < c.toNat && c.toNat < 0x7F && !"\"#%'<>?".toList.contains c

def percentByte (b : UInt8) : List Char :=
  ['%', hexDigit (b.toNat / 16), hexDigit (b.toNat % 16)]

def percentChar (c : Char) : List Char :=
  if isPlain c then [c] else (String.utf8EncodeChar c).flatMap percentByte

def percentEncode (s : String) : String := String.ofList (s.toList.flatMap percentChar)

/-- The file that holds a sheet's page. -/
def pageFile (sheet : String) : String := sheet ++ ".html"

def pageHref (sheet : String) : String := percentEncode sheet ++ ".html"

end LinkedSheets.Markup
