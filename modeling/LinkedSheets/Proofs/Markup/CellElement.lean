import LinkedSheets.Proofs.Text.Scanning
import Mathlib

/-!
# Cell elements

A reader that knows nothing of the page finds its cells again: it cuts out of a text whatever looks
like `<td id='c…' class='c…' data-formula='…'>…</td>`, from left to right.
-/

namespace LinkedSheets.Markup

open Text

/-- What stands in the gaps of a cell element. -/
structure CellElement where
  /-- The rest of the identifier, after its `c`. -/
  id : List Char
  /-- The rest of the class, after its `c`. -/
  className : List Char
  formula : List Char
  body : List Char

namespace CellElement

def opening : List Char := "<td id='c".toList
def beforeClass : List Char := " class='c".toList
def beforeFormula : List Char := " data-formula='".toList
def closing : List Char := "/td>".toList

/-- The element itself. -/
def text (e : CellElement) : List Char :=
  opening ++ e.id ++ '\'' :: (beforeClass ++ e.className ++ '\'' ::
    (beforeFormula ++ e.formula ++ '\'' :: (['>'] ++ e.body ++ '<' :: closing)))

/-- Nothing in the gaps ends them early. -/
structure IsPlain (e : CellElement) : Prop where
  id : '\'' ∉ e.id
  className : '\'' ∉ e.className
  formula : '\'' ∉ e.formula
  body : '<' ∉ e.body

/-- What stands between a given text, with which `cs` has to begin, and the next `stop`. -/
def readGap? (before : List Char) (stop : Char) (cs : List Char) :
    Option (List Char × List Char) :=
  (cs.dropPrefix? before).bind (splitOnce stop)

/-- The element that a text begins with, and the text after it. -/
def read? (cs : List Char) : Option (CellElement × List Char) := do
  let (id, cs) ← readGap? opening '\'' cs
  let (className, cs) ← readGap? beforeClass '\'' cs
  let (formula, cs) ← readGap? beforeFormula '\'' cs
  let (body, cs) ← readGap? ['>'] '<' cs
  let cs ← cs.dropPrefix? closing
  return (⟨id, className, formula, body⟩, cs)

theorem readGap?_eq_some_iff {before gap cs after : List Char} {stop : Char} :
    readGap? before stop cs = some (gap, after) ↔
      cs = before ++ gap ++ stop :: after ∧ stop ∉ gap := by
  rw [readGap?, Option.bind_eq_some_iff]
  constructor
  · rintro ⟨rest, hbefore, hgap⟩
    obtain ⟨hrest, hstop⟩ := splitOnce_eq_some hgap
    rw [dropPrefix?_eq_some_iff_append.mp hbefore, hrest, List.append_assoc]
    exact ⟨rfl, hstop⟩
  · rintro ⟨rfl, hstop⟩
    exact ⟨gap ++ stop :: after, dropPrefix?_eq_some_iff_append.mpr (List.append_assoc ..),
      splitOnce_append hstop after⟩

-- Reading takes an element off a text, and takes every element that is there.
theorem read?_eq_some_iff {cs after : List Char} {e : CellElement} :
    read? cs = some (e, after) ↔ cs = e.text ++ after ∧ e.IsPlain := by
  simp only [read?, bind, Option.bind_eq_some_iff, pure, Option.some.injEq, Prod.mk.injEq,
    Prod.exists, dropPrefix?_eq_some_iff_append, readGap?_eq_some_iff]
  constructor
  · rintro ⟨id, _, ⟨rfl, hid⟩, className, _, ⟨rfl, hclass⟩, formula, _, ⟨rfl, hformula⟩, body, _,
      ⟨rfl, hbody⟩, _, rfl, rfl, rfl⟩
    refine ⟨?_, hid, hclass, hformula, hbody⟩
    simp only [text, List.append_assoc, List.cons_append]
  · rintro ⟨rfl, hplain⟩
    refine ⟨e.id, _, ⟨?_, hplain.id⟩, e.className, _, ⟨rfl, hplain.className⟩, e.formula, _,
      ⟨rfl, hplain.formula⟩, e.body, _, ⟨rfl, hplain.body⟩, after, rfl, rfl, rfl⟩
    simp only [text, List.append_assoc, List.cons_append]

theorem length_lt_of_read? {cs after : List Char} {e : CellElement}
    (h : read? cs = some (e, after)) : after.length < cs.length := by
  rw [(read?_eq_some_iff.mp h).1]
  simp only [text, List.length_append, List.length_cons]
  omega

/-- Reads the element that a text begins with. -/
def scanner : Scanner CellElement := ⟨read?, length_lt_of_read?⟩

theorem beginsWith_opening : scanner.BeginsWith opening := by
  intro cs e after h
  rw [(read?_eq_some_iff.mp h).1, text]
  simp only [List.append_assoc]
  exact List.prefix_append opening _

end CellElement

open CellElement

/-- The cell elements of a text. Whatever is no element is skipped. -/
def cellElements (cs : List Char) : List CellElement :=
  match _h : read? cs with
  | some (e, after) => e :: cellElements after
  | none =>
      match cs with
      | [] => []
      | _ :: rest => cellElements rest
termination_by cs.length
decreasing_by
  · exact length_lt_of_read? _h
  · simp

theorem cellElements_eq_all (cs : List Char) : cellElements cs = scanner.all cs := by
  fun_induction cellElements cs with
  | case1 cs e after h ih => rw [Scanner.all_of_read?_eq_some h, ih]
  | case2 h => exact Scanner.all_nil.symm
  | case3 c rest h ih => rw [Scanner.all_cons_of_read?_eq_none h, ih]

theorem opening_eq_cons : opening = '<' :: "td id='c".toList := rfl

-- Text without elements is skipped.
theorem cellElements_append {cs : List Char} (h : isFreeOf opening cs = true) (rest : List Char) :
    cellElements (cs ++ rest) = cellElements rest := by
  rw [cellElements_eq_all, cellElements_eq_all, Scanner.all_append beginsWith_opening h]

theorem cellElements_text_append {e : CellElement} (h : e.IsPlain) (rest : List Char) :
    cellElements (e.text ++ rest) = e :: cellElements rest := by
  have hread : scanner.read? (e.text ++ rest) = some (e, rest) := read?_eq_some_iff.mpr ⟨rfl, h⟩
  rw [cellElements_eq_all, cellElements_eq_all, Scanner.all_of_read?_eq_some hread]

theorem cellElements_nil : cellElements [] = [] := by
  rw [cellElements_eq_all, Scanner.all_nil]

end LinkedSheets.Markup
