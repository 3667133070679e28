import LinkedSheets.Sheet

/-!
# Workbooks
-/

namespace LinkedSheets

/-- Sheets in their order, with different names. -/
structure Workbook where
  title : Option String
  sheets : List Sheet
  nodup : (sheets.map Sheet.name).Nodup

namespace Workbook

/-- A workbook that has no sheets yet. -/
def titled (title : Option String) : Workbook := ⟨title, [], List.nodup_nil⟩

def empty : Workbook := titled none

def pushIn (s : Sheet) : List Sheet → List Sheet
  | [] => [s]
  | t :: rest => if t.name = s.name then s :: rest else t :: pushIn s rest

theorem map_name_pushIn (s : Sheet) (sheets : List Sheet) :
    (pushIn s sheets).map Sheet.name =
      if s.name ∈ sheets.map Sheet.name then sheets.map Sheet.name
      else sheets.map Sheet.name ++ [s.name] := by
  induction sheets with
  | nil => simp [pushIn]
  | cons t rest ih =>
    simp only [pushIn]
    split
    · rename_i h
      simp [h]
    · rename_i h
      simp only [List.map_cons, ih, List.mem_cons, Ne.symm h, false_or]
      split <;> simp

theorem nodup_pushIn (s : Sheet) {sheets : List Sheet} (h : (sheets.map Sheet.name).Nodup) :
    ((pushIn s sheets).map Sheet.name).Nodup := by
  rw [map_name_pushIn]
  exact Table.nodup_ite_append h

/-- Adds a sheet; one of the same name is replaced in its place. -/
def push (w : Workbook) (s : Sheet) : Workbook :=
  { w with sheets := pushIn s w.sheets, nodup := nodup_pushIn s w.nodup }

def sheet? (w : Workbook) (name : String) : Option Sheet := w.sheets.find? (·.name = name)

def names (w : Workbook) : List String := w.sheets.map Sheet.name

theorem find?_pushIn (s : Sheet) (name : String) (sheets : List Sheet) :
    (pushIn s sheets).find? (·.name = name) =
      if name = s.name then some s else sheets.find? (·.name = name) := by
  induction sheets with
  | nil =>
    by_cases h : name = s.name
    · simp [pushIn, h]
    · simp [pushIn, h, Ne.symm h]
  | cons t rest ih =>
    simp only [pushIn]
    split
    · rename_i ht
      by_cases h : name = s.name
      · simp [h]
      · simp [h, Ne.symm h, ht]
    · rename_i ht
      by_cases h : name = s.name
      · subst h
        simp [ht, ih]
      · by_cases ht' : t.name = name
        · simp [h, ht']
        · simp [h, ht', ih]

/-- A sheet is found under its name once it has been pushed, and no other look-up changes. -/
theorem sheet?_push (w : Workbook) (s : Sheet) (name : String) :
    (w.push s).sheet? name = if name = s.name then some s else w.sheet? name :=
  find?_pushIn s name w.sheets

theorem names_push (w : Workbook) (s : Sheet) :
    (w.push s).names = if s.name ∈ w.names then w.names else w.names ++ [s.name] :=
  map_name_pushIn s w.sheets

end Workbook

end LinkedSheets
