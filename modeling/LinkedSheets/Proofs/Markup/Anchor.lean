import LinkedSheets.Proofs.Markup.CellElement

/-!
# Anchors

The links of a text as a reader that knows nothing of it finds them: whatever looks like
`<a href='…'>…</a>`, or the same with double quotes, from left to right.
-/

namespace LinkedSheets.Markup

open Text

/-- What stands in the gaps of an anchor. -/
structure Anchor where
  href : List Char
  shown : List Char

namespace Anchor

def opening (quote : Char) : List Char := "<a href=".toList ++ [quote]
def closing : List Char := "/a>".toList

/-- The anchor itself, with its address in given quotes. -/
def text (quote : Char) (a : Anchor) : List Char :=
  opening quote ++ a.href ++ quote :: (['>'] ++ a.shown ++ '<' :: closing)

/-- Nothing in the gaps ends them early. -/
structure IsPlain (quote : Char) (a : Anchor) : Prop where
  href : quote ∉ a.href
  shown : '<' ∉ a.shown

/-- The anchor that a text begins with, and the text after it. -/
def read? (quote : Char) (cs : List Char) : Option (Anchor × List Char) := do
  let (href, cs) ← CellElement.readGap? (opening quote) quote cs
  let (shown, cs) ← CellElement.readGap? ['>'] '<' cs
  let cs ← cs.dropPrefix? closing
  return (⟨href, shown⟩, cs)

theorem read?_eq_some_iff {quote : Char} {cs after : List Char} {a : Anchor} :
    read? quote cs = some (a, after) ↔ cs = a.text quote ++ after ∧ a.IsPlain quote := by
  simp only [read?, bind, Option.bind_eq_some_iff, pure, Option.some.injEq, Prod.mk.injEq,
    Prod.exists, dropPrefix?_eq_some_iff_append, CellElement.readGap?_eq_some_iff]
  constructor
  · rintro ⟨href, _, ⟨rfl, hhref⟩, shown, _, ⟨rfl, hshown⟩, _, rfl, rfl, rfl⟩
    refine ⟨?_, hhref, hshown⟩
    simp only [text, List.append_assoc, List.cons_append]
  · rintro ⟨rfl, hplain⟩
    refine ⟨a.href, _, ⟨?_, hplain.href⟩, a.shown, _, ⟨rfl, hplain.shown⟩, after, rfl, rfl, rfl⟩
    simp only [text, List.append_assoc, List.cons_append]

theorem length_lt_of_read? {quote : Char} {cs after : List Char} {a : Anchor}
    (h : read? quote cs = some (a, after)) : after.length < cs.length := by
  rw [(read?_eq_some_iff.mp h).1]
  simp only [text, List.length_append, List.length_cons]
  omega

/-- Reads the anchor that a text begins with. -/
def scanner (quote : Char) : Scanner Anchor := ⟨read? quote, length_lt_of_read?⟩

theorem beginsWith_opening (quote : Char) : (scanner quote).BeginsWith (opening quote) := by
  intro cs a after h
  rw [(read?_eq_some_iff.mp h).1, text]
  simp only [List.append_assoc]
  exact List.prefix_append (opening quote) _

end Anchor

open Anchor

/-- The anchors of a text. Whatever is no anchor is skipped. -/
def anchors (quote : Char) (cs : List Char) : List Anchor := (scanner quote).all cs

variable {quote : Char}

-- Text without anchors is skipped.
theorem anchors_append {cs : List Char} (h : isFreeOf (opening quote) cs = true)
    (rest : List Char) : anchors quote (cs ++ rest) = anchors quote rest :=
  Scanner.all_append (beginsWith_opening quote) h rest

theorem anchors_text_append {a : Anchor} (h : a.IsPlain quote) (rest : List Char) :
    anchors quote (a.text quote ++ rest) = a :: anchors quote rest :=
  Scanner.all_of_read?_eq_some (s := scanner quote) (read?_eq_some_iff.mpr ⟨rfl, h⟩)

theorem anchors_eq_nil {cs : List Char} (h : isFreeOf (opening quote) cs = true) :
    anchors quote cs = [] :=
  Scanner.all_eq_nil (beginsWith_opening quote) h

theorem anchors_text {a : Anchor} (h : a.IsPlain quote) : anchors quote (a.text quote) = [a] := by
  rw [← List.append_nil (a.text quote), anchors_text_append h, anchors_eq_nil rfl]

end LinkedSheets.Markup
