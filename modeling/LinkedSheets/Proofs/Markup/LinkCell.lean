import LinkedSheets.Proofs.Markup.Anchor

/-!
# Cells with links

Table cells that hold nothing but an anchor, as a reader that knows nothing of the page finds them:
whatever looks like `<td…><a href='…'>…</a></td>`, from left to right.
-/

namespace LinkedSheets.Markup

open Text

/-- What stands in the gaps of a cell with a link. -/
structure LinkCell where
  /-- The rest of the opening tag, after its name. -/
  attributes : List Char
  anchor : Anchor

namespace LinkCell

def opening : List Char := "<td".toList
def closing : List Char := "</td>".toList

/-- The cell itself. -/
def text (c : LinkCell) : List Char :=
  opening ++ c.attributes ++ '>' :: (c.anchor.text '\'' ++ closing)

/-- Nothing in the gaps ends them early. -/
structure IsPlain (c : LinkCell) : Prop where
  attributes : '>' ∉ c.attributes
  anchor : c.anchor.IsPlain '\''

/-- The cell that a text begins with, and the text after it. -/
def read? (cs : List Char) : Option (LinkCell × List Char) := do
  let (attributes, cs) ← CellElement.readGap? opening '>' cs
  let (anchor, cs) ← Anchor.read? '\'' cs
  let cs ← cs.dropPrefix? closing
  return (⟨attributes, anchor⟩, cs)

theorem read?_eq_some_iff {cs after : List Char} {c : LinkCell} :
    read? cs = some (c, after) ↔ cs = c.text ++ after ∧ c.IsPlain := by
  simp only [read?, bind, Option.bind_eq_some_iff, pure, Option.some.injEq, Prod.mk.injEq,
    Prod.exists, dropPrefix?_eq_some_iff_append, CellElement.readGap?_eq_some_iff,
    Anchor.read?_eq_some_iff]
  constructor
  · rintro ⟨attributes, _, ⟨rfl, hattributes⟩, anchor, _, ⟨rfl, hanchor⟩, _, rfl, rfl, rfl⟩
    refine ⟨?_, hattributes, hanchor⟩
    simp only [text, List.append_assoc, List.cons_append]
  · rintro ⟨rfl, hplain⟩
    refine ⟨c.attributes, _, ⟨?_, hplain.attributes⟩, c.anchor, _, ⟨rfl, hplain.anchor⟩, after, rfl,
      rfl, rfl⟩
    simp only [text, List.append_assoc, List.cons_append]

theorem length_lt_of_read? {cs after : List Char} {c : LinkCell}
    (h : read? cs = some (c, after)) : after.length < cs.length := by
  rw [(read?_eq_some_iff.mp h).1]
  simp only [text, List.length_append, List.length_cons]
  omega

/-- Reads the cell that a text begins with. -/
def scanner : Scanner LinkCell := ⟨read?, length_lt_of_read?⟩

theorem beginsWith_opening : scanner.BeginsWith opening := by
  intro cs c after h
  rw [(read?_eq_some_iff.mp h).1, text]
  simp only [List.append_assoc]
  exact List.prefix_append opening _

end LinkCell

open LinkCell

/-- The cells with links of a text. Whatever is no such cell is skipped. -/
def linkCells (cs : List Char) : List LinkCell := scanner.all cs

-- Text without cells is skipped.
theorem linkCells_append {cs : List Char} (h : isFreeOf opening cs = true) (rest : List Char) :
    linkCells (cs ++ rest) = linkCells rest :=
  Scanner.all_append beginsWith_opening h rest

theorem linkCells_text_append {c : LinkCell} (h : c.IsPlain) (rest : List Char) :
    linkCells (c.text ++ rest) = c :: linkCells rest :=
  Scanner.all_of_read?_eq_some (s := scanner) (read?_eq_some_iff.mpr ⟨rfl, h⟩)

theorem linkCells_eq_nil {cs : List Char} (h : isFreeOf opening cs = true) : linkCells cs = [] :=
  Scanner.all_eq_nil beginsWith_opening h

end LinkedSheets.Markup
