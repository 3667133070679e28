import LinkedSheets.Proofs.Sheet.Insertions
import LinkedSheets.Proofs.Workbook.Decoding

/-!
# Loading workbooks

A document is loaded if all its sheets are acceptable, and otherwise the first thing in it that is
not decides on the error. The sheets that are loaded hold what the document has: what its last entry
for a cell says.
-/

namespace LinkedSheets

namespace SheetEntries

/-- What the last entry whose key spells a cell holds. -/
def lastFor? (c : CellRef) (entries : List (String × Json)) : Option Json :=
  (entries.reverse.find? fun e => (CellRef.parse e.1).toOption = some c).map Prod.snd

theorem lastFor?_concat (c : CellRef) (entries : List (String × Json)) (key : String) (j : Json) :
    lastFor? c (entries ++ [(key, j)]) =
      if (CellRef.parse key).toOption = some c then some j else lastFor? c entries := by
  rw [lastFor?, List.reverse_append, List.reverse_singleton, List.singleton_append,
    List.find?_cons]
  by_cases h : (CellRef.parse key).toOption = some c
  · rw [if_pos h, decide_eq_true h]
    rfl
  · rw [if_neg h, decide_eq_false h]
    rfl

end SheetEntries

namespace Sheet

open SheetEntries

section

variable {α : Type} {decode? : Json → Option α} {put : Sheet → String → α → Sheet}
  {refusal : String → Json → LoadError}

theorem putEntry_eq_ok_iff {s t : Sheet} {key : String} {j : Json} :
    putEntry decode? put refusal s (key, j) = .ok t ↔ ∃ a, decode? j = some a ∧ put s key a = t := by
  rw [putEntry]
  cases decode? j with
  | none => simp
  | some a => simp

theorem exists_putEntries_iff {s : Sheet} {entries : List (String × Json)} :
    (∃ t, entries.foldlM (putEntry decode? put refusal) s = .ok t) ↔
      ∀ e ∈ entries, ∃ a, decode? e.2 = some a := by
  apply exists_foldlM_eq_ok_iff
  rintro s ⟨key, j⟩
  simp only [putEntry_eq_ok_iff]
  rw [exists_comm]
  simp only [exists_and_left, exists_eq', and_true]

-- The first entry that cannot be decoded decides on the error.
theorem putEntries_eq_error {s : Sheet} {entries : List (String × Json)} {e : LoadError}
    (h : entries.foldlM (putEntry decode? put refusal) s = .error e) :
    ∃ before key j after, entries = before ++ (key, j) :: after ∧
      (∀ x ∈ before, ∃ a, decode? x.2 = some a) ∧ decode? j = none ∧ e = refusal key j := by
  obtain ⟨before, ⟨key, j⟩, after, t, heq, hbefore, hj⟩ := foldlM_eq_error h
  refine ⟨before, key, j, after, heq, exists_putEntries_iff.mp ⟨t, hbefore⟩, ?_⟩
  rw [putEntry] at hj
  cases hdecode : decode? j with
  | none =>
    rw [hdecode] at hj
    exact ⟨rfl, (Except.error.inj hj).symm⟩
  | some a =>
    rw [hdecode] at hj
    cases hj

theorem putEntries_keeps {β : Type} {f : Sheet → β} {s t : Sheet}
    {entries : List (String × Json)}
    (h : entries.foldlM (putEntry decode? put refusal) s = .ok t)
    (hkeep : ∀ s key a, f (put s key a) = f s) : f t = f s := by
  apply foldlM_keeps h
  rintro s ⟨key, j⟩ t ht
  obtain ⟨a, -, rfl⟩ := putEntry_eq_ok_iff.mp ht
  exact hkeep s key a

-- A look-up for a cell finds the last entry for it.
theorem rel_putEntries {c : CellRef} {f : Sheet → Option α} {s t : Sheet}
    {entries : List (String × Json)}
    (h : entries.foldlM (putEntry decode? put refusal) s = .ok t)
    (hput : ∀ s key a, f (put s key a) =
      if (CellRef.parse key).toOption = some c then some a else f s) (hs : f s = none) :
    Option.Rel (fun j a => decode? j = some a) (lastFor? c entries) (f t) := by
  induction entries using List.reverseRecOn generalizing t with
  | nil =>
    rw [← Except.ok.inj h, hs]
    exact .none
  | append_singleton entries entry ih =>
    obtain ⟨key, j⟩ := entry
    simp only [List.foldlM_append, List.foldlM_cons, List.foldlM_nil, bind_pure, bind_eq_ok_iff,
      putEntry_eq_ok_iff] at h
    obtain ⟨u, hu, a, ha, rfl⟩ := h
    rw [lastFor?_concat, hput]
    -- The last entry hides the earlier ones for its own cell only.
    split
    · exact .some ha
    · exact ih hu

end

/-- A sheet can be made of what is written: it has the shape of one, its values are pairs, and in
its formulae there are no objects. -/
def Acceptable (j : Json) : Prop :=
  ∃ entries, Written j entries ∧ (∀ e ∈ entries.values, ∃ v, CellValue.Written e.2 v) ∧
    ∀ e ∈ entries.formulae, ¬ e.2.HasObject

/-- Seen through its look-ups, the sheet has for each cell what the last entries for it hold. -/
structure Holds (s : Sheet) (entries : SheetEntries) : Prop where
  value : ∀ c : CellRef, c.IsProper →
    Option.Rel CellValue.Written (lastFor? c entries.values) (s.value? c)
  formula : ∀ c : CellRef, c.IsProper →
    Option.Rel (fun j n => Node.ofJson? j = some n) (lastFor? c entries.formulae) (s.formula? c)

/-- What is wrong with a sheet that is not acceptable. What comes before it is right. -/
inductive Fault (name : String) (j : Json) : LoadError → Prop where
  | shape {problem : Json.ShapeError} (h : SheetEntries.ofJson j = .error problem) :
      Fault name j (.badSheet problem)
  | badValue {entries : SheetEntries} {before after : List (String × Json)} {key : String}
      {found : Json} (h : Written j entries)
      (hvalues : entries.values = before ++ (key, found) :: after)
      (hbefore : ∀ e ∈ before, ∃ v, CellValue.Written e.2 v)
      (hfound : ¬ ∃ v, CellValue.Written found v) : Fault name j (.badValue name key found)
  | badFormula {entries : SheetEntries} {before after : List (String × Json)} {key : String}
      {found : Json} (h : Written j entries)
      (hvalues : ∀ e ∈ entries.values, ∃ v, CellValue.Written e.2 v)
      (hformulae : entries.formulae = before ++ (key, found) :: after)
      (hbefore : ∀ e ∈ before, ¬ e.2.HasObject) (hfound : found.HasObject) :
      Fault name j (.badFormula name key)

theorem exists_putValues_iff {s : Sheet} {entries : List (String × Json)} :
    (∃ t, s.putValues entries = .ok t) ↔ ∀ e ∈ entries, ∃ v, CellValue.Written e.2 v := by
  rw [putValues, exists_putEntries_iff]
  simp only [CellValue.ofJson?_eq_some_iff]

theorem exists_ofJson?_iff {j : Json} : (∃ n, Node.ofJson? j = some n) ↔ ¬ j.HasObject := by
  rw [← Node.ofJson?_eq_none_iff, ← ne_eq, Option.ne_none_iff_exists']

theorem exists_putFormulae_iff {s : Sheet} {entries : List (String × Json)} :
    (∃ t, s.putFormulae entries = .ok t) ↔ ∀ e ∈ entries, ¬ e.2.HasObject := by
  rw [putFormulae, exists_putEntries_iff]
  simp only [exists_ofJson?_iff]

theorem ofJson_eq_ok_iff {name : String} {j : Json} {s : Sheet} :
    ofJson name j = .ok s ↔
      ∃ entries t, Written j entries ∧ (ofName name).putValues entries.values = .ok t ∧
        t.putFormulae entries.formulae = .ok s := by
  simp only [← SheetEntries.ofJson_eq_ok_iff]
  unfold ofJson
  cases SheetEntries.ofJson j with
  | error problem => simp
  | ok entries =>
    cases hvalues : (ofName name).putValues entries.values with
    | error e => simp [hvalues]
    | ok t => simp [hvalues]

theorem exists_ofJson_iff {name : String} {j : Json} :
    (∃ s, ofJson name j = .ok s) ↔ Acceptable j := by
  simp only [ofJson_eq_ok_iff]
  constructor
  · rintro ⟨s, entries, t, hw, hvalues, hformulae⟩
    exact ⟨entries, hw, exists_putValues_iff.mp ⟨t, hvalues⟩,
      exists_putFormulae_iff.mp ⟨s, hformulae⟩⟩
  · rintro ⟨entries, hw, hvalues, hformulae⟩
    obtain ⟨t, ht⟩ := exists_putValues_iff.mpr hvalues
    obtain ⟨s, hs⟩ := exists_putFormulae_iff.mpr hformulae
    exact ⟨s, entries, t, hw, ht, hs⟩

theorem name_ofJson {name : String} {j : Json} {s : Sheet} (h : ofJson name j = .ok s) :
    s.name = name := by
  obtain ⟨entries, t, -, hvalues, hformulae⟩ := ofJson_eq_ok_iff.mp h
  have ht : t.name = name := putEntries_keeps (f := Sheet.name) hvalues fun _ _ _ => rfl
  have hs : s.name = t.name := putEntries_keeps (f := Sheet.name) hformulae fun _ _ _ => rfl
  rw [hs, ht]

-- Values do not change what is found of formulae, nor formulae what is found of values.
theorem exists_holds_ofJson {name : String} {j : Json} {s : Sheet} (h : ofJson name j = .ok s) :
    ∃ entries, Written j entries ∧ s.Holds entries := by
  obtain ⟨entries, t, hw, hvalues, hformulae⟩ := ofJson_eq_ok_iff.mp h
  have hkept : s.values = t.values :=
    putEntries_keeps (f := Sheet.values) hformulae fun _ _ _ => rfl
  have hnone : t.formulae = .empty :=
    putEntries_keeps (f := Sheet.formulae) hvalues fun _ _ _ => rfl
  refine ⟨entries, hw, fun c hc => ?_, fun c hc => ?_⟩
  · have hput (s : Sheet) (key : String) (v : CellValue) : (s.putValue key v).value? c = _ :=
      get?_put_key s.values key v hc
    have hrel := rel_putEntries (f := fun s => s.value? c) hvalues hput rfl
    simp only [CellValue.ofJson?_eq_some_iff] at hrel
    rw [value?, hkept]
    exact hrel
  · have hput (s : Sheet) (key : String) (n : Node) : (s.putFormula key n).formula? c = _ :=
      get?_put_key s.formulae key n hc
    have hempty : t.formula? c = none := by rw [formula?, hnone, Table.get?_empty]
    exact rel_putEntries (f := fun s => s.formula? c) hformulae hput hempty

theorem fault_of_ofJson {name : String} {j : Json} {e : LoadError} (h : ofJson name j = .error e) :
    Fault name j e := by
  unfold ofJson at h
  split at h
  · rename_i problem hproblem
    cases h
    exact .shape hproblem
  · rename_i entries hentries
    have hw := SheetEntries.ofJson_eq_ok_iff.mp hentries
    split at h
    · rename_i e' hvalues
      cases h
      obtain ⟨before, key, found, after, heq, hbefore, hnone, rfl⟩ := putEntries_eq_error hvalues
      simp only [CellValue.ofJson?_eq_some_iff] at hbefore
      refine .badValue hw heq hbefore ?_
      rintro ⟨v, hv⟩
      rw [CellValue.ofJson?_eq_some_iff.mpr hv] at hnone
      cases hnone
    · rename_i t hvalues
      obtain ⟨before, key, found, after, heq, hbefore, hnone, rfl⟩ := putEntries_eq_error h
      simp only [exists_ofJson?_iff] at hbefore
      have hname : t.name = name := putEntries_keeps (f := Sheet.name) hvalues fun _ _ _ => rfl
      rw [hname]
      exact .badFormula hw (exists_putValues_iff.mp ⟨t, hvalues⟩) heq hbefore
        (Node.ofJson?_eq_none_iff found |>.mp hnone)

end Sheet

theorem LoadError.message_badValue (sheet key : String) (found : Json) :
    (badValue sheet key found).message =
      "Invalid workbook: sheet '" ++ sheet ++ "' value " ++ key ++
        ": expected [kind, literal], got " ++ found.write := by
  have hjoin : ": expected [kind, literal], got " = ": " ++ "expected [kind, literal], got " := by
    decide
  unfold message CellValue.refusal
  simp only [hjoin, String.append_assoc, -String.reduceAppend]

theorem LoadError.message_badFormula (sheet key : String) :
    (badFormula sheet key).message =
      "Invalid workbook: sheet '" ++ sheet ++ "' formula " ++ key ++
        ": objects are not valid formula nodes" := by
  have hjoin : ": objects are not valid formula nodes" =
      ": " ++ "objects are not valid formula nodes" := by
    decide
  unfold message Node.refusal
  simp only [hjoin, String.append_assoc, -String.reduceAppend]

namespace Workbook

open SheetEntries

theorem pushJson_eq_ok_iff {w w' : Workbook} {name : String} {j : Json} :
    pushJson w (name, j) = .ok w' ↔ ∃ s, Sheet.ofJson name j = .ok s ∧ w.push s = w' := by
  rw [pushJson]
  cases Sheet.ofJson name j with
  | error e => simp [Except.map]
  | ok s => simp [Except.map]

theorem exists_pushAll_iff {w : Workbook} {sheets : List (String × Json)} :
    (∃ w', sheets.foldlM pushJson w = .ok w') ↔ ∀ e ∈ sheets, Sheet.Acceptable e.2 := by
  apply exists_foldlM_eq_ok_iff
  rintro w ⟨name, j⟩
  rw [← @Sheet.exists_ofJson_iff name j]
  simp only [pushJson_eq_ok_iff]
  rw [exists_comm]
  simp only [exists_and_left, exists_eq', and_true]

theorem pushAll_eq_error {w : Workbook} {sheets : List (String × Json)} {e : LoadError}
    (h : sheets.foldlM pushJson w = .error e) :
    ∃ before name j after, sheets = before ++ (name, j) :: after ∧
      (∀ x ∈ before, Sheet.Acceptable x.2) ∧ Sheet.ofJson name j = .error e := by
  obtain ⟨before, ⟨name, j⟩, after, w', heq, hbefore, hj⟩ := foldlM_eq_error h
  refine ⟨before, name, j, after, heq, exists_pushAll_iff.mp ⟨w', hbefore⟩, ?_⟩
  rw [pushJson] at hj
  cases hsheet : Sheet.ofJson name j with
  | error e' =>
    rw [hsheet] at hj
    rw [Except.error.inj hj]
  | ok s =>
    rw [hsheet] at hj
    cases hj

theorem title_pushAll {w w' : Workbook} {sheets : List (String × Json)}
    (h : sheets.foldlM pushJson w = .ok w') : w'.title = w.title := by
  apply foldlM_keeps h
  rintro w ⟨name, j⟩ w' hw'
  obtain ⟨s, -, rfl⟩ := pushJson_eq_ok_iff.mp hw'
  rfl

-- Sheets with new names come after those that are there.
theorem names_push_of_notMem {w : Workbook} {s : Sheet} (h : s.name ∉ w.names) :
    (w.push s).names = w.names ++ [s.name] := by
  rw [names_push, if_neg h]

theorem names_pushAll {w w' : Workbook} {sheets : List (String × Json)}
    (hnew : (w.names ++ sheets.map Prod.fst).Nodup) (h : sheets.foldlM pushJson w = .ok w') :
    w'.names = w.names ++ sheets.map Prod.fst := by
  induction sheets generalizing w with
  | nil => rw [Except.ok.inj h, List.map_nil, List.append_nil]
  | cons entry rest ih =>
    obtain ⟨name, j⟩ := entry
    simp only [List.foldlM_cons, bind_eq_ok_iff, pushJson_eq_ok_iff] at h
    obtain ⟨-, ⟨s, hs, rfl⟩, h⟩ := h
    rw [List.map_cons] at hnew ⊢
    have hname := Sheet.name_ofJson hs
    have hnotMem : s.name ∉ w.names := by
      rw [hname]
      exact fun hmem => (List.nodup_append.mp hnew).2.2 name hmem name List.mem_cons_self rfl
    have hpush := names_push_of_notMem hnotMem
    rw [hname] at hpush
    have hnew' : ((w.push s).names ++ rest.map Prod.fst).Nodup := by
      rw [hpush, List.append_assoc]
      exact hnew
    rw [ih hnew' h, hpush, List.append_assoc]
    rfl

-- A sheet stays what it is while sheets of other names are pushed.
theorem sheet?_pushAll_of_notMem {w w' : Workbook} {sheets : List (String × Json)}
    (h : sheets.foldlM pushJson w = .ok w') {name : String}
    (hname : name ∉ sheets.map Prod.fst) : w'.sheet? name = w.sheet? name := by
  induction sheets generalizing w with
  | nil => rw [Except.ok.inj h]
  | cons entry rest ih =>
    obtain ⟨name', j⟩ := entry
    simp only [List.foldlM_cons, bind_eq_ok_iff, pushJson_eq_ok_iff] at h
    obtain ⟨-, ⟨s, hs, rfl⟩, h⟩ := h
    rw [List.map_cons, List.mem_cons, not_or] at hname
    rw [ih h hname.2, sheet?_push, Sheet.name_ofJson hs, if_neg hname.1]

theorem sheet?_pushAll {w w' : Workbook} {sheets : List (String × Json)}
    (hnodup : (sheets.map Prod.fst).Nodup) (h : sheets.foldlM pushJson w = .ok w')
    {e : String × Json} (he : e ∈ sheets) :
    ∃ s, Sheet.ofJson e.1 e.2 = .ok s ∧ w'.sheet? e.1 = some s := by
  induction sheets generalizing w with
  | nil => exact absurd he List.not_mem_nil
  | cons entry rest ih =>
    rw [List.map_cons, List.nodup_cons] at hnodup
    obtain ⟨name, j⟩ := entry
    simp only [List.foldlM_cons, bind_eq_ok_iff, pushJson_eq_ok_iff] at h
    obtain ⟨-, ⟨s, hs, rfl⟩, h⟩ := h
    rcases List.mem_cons.mp he with rfl | hmem
    · refine ⟨s, hs, ?_⟩
      rw [sheet?_pushAll_of_notMem h hnodup.1, sheet?_push, if_pos (Sheet.name_ofJson hs).symm]
    · exact ih hnodup.2 h hmem

theorem load_eq {content : String} {title : Option String} {sheets : List (String × Json)}
    (h : readDocument content = .ok (title, sheets)) :
    load content = sheets.foldlM pushJson (titled title) := by
  rw [load, h]
  rfl

/-- A document that can be read is loaded if all its sheets are acceptable. The workbook then has
its title and its sheets in their order, and each of these holds what the last entries for its cells
say. Otherwise the first sheet that is not acceptable decides on the error, by what is wrong with it
first; a value or a formula is named in it with its sheet and its key. -/
theorem load_faithful {content : String} {title : Option String} {sheets : List (String × Json)}
    (h : readDocument content = .ok (title, sheets)) :
    ((∃ w, load content = .ok w) ↔ ∀ e ∈ sheets, Sheet.Acceptable e.2) ∧
    (∀ w, load content = .ok w →
      w.title = title ∧ w.names = sheets.map Prod.fst ∧
        ∀ e ∈ sheets, ∃ s entries, w.sheet? e.1 = some s ∧ Written e.2 entries ∧
          s.Holds entries) ∧
    (∀ e, load content = .error e →
      ∃ before name j after, sheets = before ++ (name, j) :: after ∧
        (∀ x ∈ before, Sheet.Acceptable x.2) ∧ ¬ Sheet.Acceptable j ∧ Sheet.Fault name j e ∧
        (∀ key found, e = .badValue name key found →
          e.message = "Invalid workbook: sheet '" ++ name ++ "' value " ++ key ++
            ": expected [kind, literal], got " ++ found.write) ∧
        (∀ key, e = .badFormula name key →
          e.message = "Invalid workbook: sheet '" ++ name ++ "' formula " ++ key ++
            ": objects are not valid formula nodes")) := by
  have hnodup := nodup_readDocument h
  have hnew : ((titled title).names ++ sheets.map Prod.fst).Nodup := hnodup
  rw [load_eq h]
  refine ⟨exists_pushAll_iff, ?_, ?_⟩
  · intro w hw
    refine ⟨title_pushAll hw, names_pushAll hnew hw, fun e he => ?_⟩
    obtain ⟨s, hs, hfound⟩ := sheet?_pushAll hnodup hw he
    obtain ⟨entries, hwritten, hholds⟩ := Sheet.exists_holds_ofJson hs
    exact ⟨s, entries, hfound, hwritten, hholds⟩
  · intro e he
    obtain ⟨before, name, j, after, rfl, hbefore, hj⟩ := pushAll_eq_error he
    refine ⟨before, name, j, after, rfl, hbefore, ?_, Sheet.fault_of_ofJson hj, ?_, ?_⟩
    · rw [← Sheet.exists_ofJson_iff]
      rintro ⟨s, hs⟩
      exact absurd (hj.symm.trans hs) (by simp)
    · rintro key found rfl
      exact LoadError.message_badValue name key found
    · rintro key rfl
      exact LoadError.message_badFormula name key

/-- A document with two entries for the same cell. -/
def respelled : String :=
  "[null, \x7b\"S\": [\x7b\"A01\": [\"string\", \"x\"], \"$a$1\": [\"string\", \"y\"]\x7d]\x7d]"

def respelledEntries : List (String × Json) :=
  [("A01", .array [.string "string", .string "x"]),
    ("$a$1", .array [.string "string", .string "y"])]

theorem readDocument_respelled :
    readDocument respelled = .ok (none, [("S", .array [.object respelledEntries])]) := by
  cbv

theorem lastFor?_respelled :
    lastFor? ⟨1, 1⟩ respelledEntries = some (.array [.string "string", .string "y"]) := by
  have hentries : respelledEntries =
      [("A01", .array [.string "string", .string "x"])] ++
        [("$a$1", .array [.string "string", .string "y"])] := rfl
  rw [hentries, lastFor?_concat]
  rfl

/-- The cell has what its second entry says. -/
theorem load_respelled :
    ∃ w s, load respelled = .ok w ∧ w.names = ["S"] ∧ w.sheet? "S" = some s ∧
      s.value? ⟨1, 1⟩ = some ⟨.text, "y"⟩ ∧ s.formula? ⟨1, 1⟩ = none := by
  obtain ⟨hloaded, hholds, -⟩ := load_faithful readDocument_respelled
  have hacceptable : Sheet.Acceptable (.array [.object respelledEntries]) := by
    refine ⟨_, .values _, ?_, fun e he => absurd he List.not_mem_nil⟩
    intro e he
    simp only [respelledEntries, List.mem_cons, List.not_mem_nil, or_false] at he
    rcases he with rfl | rfl
    · exact ⟨_, .pair "string" rfl⟩
    · exact ⟨_, .pair "string" rfl⟩
  obtain ⟨w, hw⟩ := hloaded.mpr fun e he => List.mem_singleton.mp he ▸ hacceptable
  obtain ⟨-, hnames, hsheets⟩ := hholds w hw
  obtain ⟨s, entries, hs, hwritten, hvalues, hformulae⟩ := hsheets _ List.mem_cons_self
  cases hwritten
  have hvalue : Option.Rel CellValue.Written (lastFor? ⟨1, 1⟩ respelledEntries)
      (s.value? ⟨1, 1⟩) :=
    hvalues ⟨1, 1⟩ (by decide)
  have hformula : Option.Rel (fun j n => Node.ofJson? j = some n) none (s.formula? ⟨1, 1⟩) :=
    hformulae ⟨1, 1⟩ (by decide)
  rw [lastFor?_respelled] at hvalue
  refine ⟨w, s, hw, hnames, hs, ?_, ?_⟩
  · cases hfound : s.value? ⟨1, 1⟩ with
    | none =>
      rw [hfound] at hvalue
      cases hvalue
    | some v =>
      rw [hfound] at hvalue
      cases hvalue with
      | some h =>
        cases h
        rfl
  · cases hfound : s.formula? ⟨1, 1⟩ with
    | none => rfl
    | some n =>
      rw [hfound] at hformula
      cases hformula

end Workbook

end LinkedSheets
