import LinkedSheets.Proofs.Table.Filling
import LinkedSheets.Workbook

/-!
# Workbooks filled sheet by sheet

A workbook is a table of its sheets under their names, so what holds of a table that is filled holds
of it: its sheets come in the order in which their names first came, the last sheet of a name is the
one that is found, and pushing a sheet leaves all others where they are.
-/

namespace LinkedSheets.Workbook

/-- A workbook into which sheets have been pushed one after the other. -/
def ofPushes (title : Option String) (pushed : List Sheet) : Workbook :=
  pushed.foldl push (titled title)

/-- A sheet under its name. -/
def entryOf (s : Sheet) : String × Sheet := (s.name, s)

theorem map_fst_entryOf (sheets : List Sheet) :
    (sheets.map entryOf).map Prod.fst = sheets.map Sheet.name := List.map_map

theorem map_entryOf_injective : Function.Injective (List.map entryOf) :=
  List.map_injective_iff.mpr fun _ _ h => (Prod.mk.inj h).2

theorem map_entryOf_pushIn (s : Sheet) (sheets : List Sheet) :
    (pushIn s sheets).map entryOf = Table.putIn s.name s (sheets.map entryOf) := by
  induction sheets with
  | nil => rfl
  | cons t rest ih =>
    simp only [pushIn, List.map_cons]
    rw [entryOf, Table.putIn]
    split
    · rfl
    · rw [List.map_cons, ih, entryOf]

theorem ofPushes_concat (title : Option String) (pushed : List Sheet) (s : Sheet) :
    ofPushes title (pushed ++ [s]) = (ofPushes title pushed).push s := by
  rw [ofPushes, List.foldl_append]
  rfl

-- Pushing sheets is putting them in under their names.
theorem map_entryOf_ofPushes (title : Option String) (pushed : List Sheet) :
    (ofPushes title pushed).sheets.map entryOf = (Table.ofList (pushed.map entryOf)).entries := by
  induction pushed using List.reverseRecOn with
  | nil => rfl
  | append_singleton pushed s ih =>
    have hpush : ((ofPushes title pushed).push s).sheets.map entryOf = _ :=
      map_entryOf_pushIn s (ofPushes title pushed).sheets
    rw [ofPushes_concat, hpush, ih, List.map_append, List.map_singleton, Table.ofList_concat]
    rfl

theorem names_ofPushes (title : Option String) (pushed : List Sheet) :
    (ofPushes title pushed).names = (pushed.map Sheet.name).eraseDups := by
  rw [names, ← map_fst_entryOf, map_entryOf_ofPushes, ← map_fst_entryOf pushed]
  exact Table.keys_ofList (pushed.map entryOf)

theorem lookup_map_entryOf (name : String) (sheets : List Sheet) :
    (sheets.map entryOf).lookup name = sheets.find? (·.name = name) := by
  induction sheets with
  | nil => rfl
  | cons s rest ih =>
    rw [List.map_cons, entryOf, Table.lookup_cons, List.find?_cons, ih]
    by_cases h : name = s.name
    · rw [if_pos h, decide_eq_true h.symm]
    · rw [if_neg h, decide_eq_false (Ne.symm h)]

/-- A sheet is looked up in the table of the sheets. -/
theorem sheet?_ofPushes (title : Option String) (pushed : List Sheet) (name : String) :
    (ofPushes title pushed).sheet? name = (Table.ofList (pushed.map entryOf)).get? name := by
  rw [sheet?, ← lookup_map_entryOf, map_entryOf_ofPushes, Table.get?]

theorem sheet?_eq_none_iff {w : Workbook} {name : String} :
    w.sheet? name = none ↔ name ∉ w.names := by
  rw [sheet?, List.find?_eq_none, names, List.mem_map]
  simp only [decide_eq_true_eq, not_exists, not_and]

/-- Pushing a sheet changes no sheet of another name, nor the place of any. -/
theorem sheets_push (w : Workbook) (s : Sheet) :
    (w.push s).sheets =
      if s.name ∈ w.names then w.sheets.map fun t => if t.name = s.name then s else t
      else w.sheets ++ [s] := by
  have hnames : w.names = (w.sheets.map entryOf).map Prod.fst := (map_fst_entryOf w.sheets).symm
  have hnodup : ((w.sheets.map entryOf).map Prod.fst).Nodup := hnames ▸ w.nodup
  apply map_entryOf_injective
  show (pushIn s w.sheets).map entryOf = _
  rw [map_entryOf_pushIn, hnames]
  split
  · rename_i hmem
    rw [Table.putIn_of_mem s.name s hnodup hmem, List.map_map, List.map_map]
    apply List.map_congr_left
    intro t _
    show (if t.name = s.name then (s.name, s) else entryOf t) =
      entryOf (if t.name = s.name then s else t)
    rw [apply_ite entryOf]
    rfl
  · rename_i hnew
    rw [Table.putIn_of_notMem s.name s hnew, List.map_append]
    rfl

end LinkedSheets.Workbook
