import LinkedSheets.Proofs.Json.Distinct
import Mathlib.Data.List.Basic
import Mathlib.Data.List.Induction

/-!
# What can be decoded

The JSON that values, formulae and sheets are written in, said without the functions that decode it.
-/

namespace LinkedSheets

/-- Somewhere in the value there is an object. -/
inductive Json.HasObject : Json → Prop where
  | object (fields : List (String × Json)) : HasObject (.object fields)
  | item {items : List Json} {j : Json} (hmem : j ∈ items) (h : HasObject j) :
      HasObject (.array items)

theorem Json.hasObject_array_iff {items : List Json} :
    (Json.array items).HasObject ↔ ∃ j ∈ items, j.HasObject := by
  constructor
  · intro h
    cases h with
    | item hmem h => exact ⟨_, hmem, h⟩
  · rintro ⟨j, hmem, h⟩
    exact .item hmem h

/-- A value is written as the name of its kind and a literal. -/
inductive CellValue.Written : Json → CellValue → Prop where
  | pair (kind : String) {literal : Json} (h : literal.isContainer = false) :
      Written (.array [.string kind, literal]) ⟨.ofName kind, literal.literal⟩

theorem CellValue.ofJson?_eq_some_iff {j : Json} {v : CellValue} :
    ofJson? j = some v ↔ Written j v := by
  constructor
  · intro h
    unfold ofJson? at h
    split at h
    · split at h
      · cases h
      · rename_i kind literal hliteral
        cases h
        exact .pair kind (eq_false_of_ne_true hliteral)
    · cases h
  · rintro ⟨kind, hliteral⟩
    rw [ofJson?, hliteral]
    rfl

namespace Node

-- The tag of an operator is no object, so it may count as an item.
theorem ofJson?_array_eq_none_iff {items : List Json} :
    ofJson? (.array items) = none ↔ ofItems? items = none := by
  unfold ofJson?
  split
  · rename_i tag args h
    cases h
    simp only [ofItems?, ofJson?, Option.map_eq_none_iff]
  · rename_i h
    cases h
    exact Option.map_eq_none_iff
  · rename_i h
    cases h
  · rename_i h _
    exact absurd rfl (h items)

mutual

-- The induction is on values and on the items of arrays, as the decoding is.
theorem ofJson?_eq_none_iff : (j : Json) → (ofJson? j = none ↔ j.HasObject)
  | .array items => by
      rw [ofJson?_array_eq_none_iff, ofItems?_eq_none_iff items, Json.hasObject_array_iff]
  | .object fields => iff_of_true rfl (.object fields)
  | .null => iff_of_false (Option.some_ne_none _) nofun
  | .bool _ => iff_of_false (Option.some_ne_none _) nofun
  | .number _ => iff_of_false (Option.some_ne_none _) nofun
  | .string _ => iff_of_false (Option.some_ne_none _) nofun

theorem ofItems?_eq_none_iff : (items : List Json) →
    (ofItems? items = none ↔ ∃ j ∈ items, j.HasObject)
  | [] => by simp [ofItems?]
  | j :: rest => by
      rw [ofItems?, List.exists_mem_cons_iff, ← ofJson?_eq_none_iff j,
        ← ofItems?_eq_none_iff rest]
      cases ofJson? j with
      | none => simp
      | some n => simp

end

end Node

namespace SheetEntries

/-- The entries that the last field of a name holds. -/
def entriesUnder (name : String) (fields : List (String × Json)) : List (String × Json) :=
  match fields.reverse.lookup name with
  | some (.object entries) => entries
  | _ => []

/-- A field that a sheet can have: an object under one of two names. -/
inductive IsField : String × Json → Prop where
  | values (entries : List (String × Json)) : IsField ("values", .object entries)
  | formulae (entries : List (String × Json)) : IsField ("formulae", .object entries)

/-- A sheet is an object of such fields, which may be missing, or an array of what they hold. -/
inductive Written : Json → SheetEntries → Prop where
  | object {fields : List (String × Json)} (h : ∀ f ∈ fields, IsField f) :
      Written (.object fields) ⟨entriesUnder "values" fields, entriesUnder "formulae" fields⟩
  | neither : Written (.array []) ⟨[], []⟩
  | values (values : List (String × Json)) : Written (.array [.object values]) ⟨values, []⟩
  | both (values formulae : List (String × Json)) :
      Written (.array [.object values, .object formulae]) ⟨values, formulae⟩

theorem entriesUnder_concat (name key : String) (entries : List (String × Json))
    (fields : List (String × Json)) :
    entriesUnder name (fields ++ [(key, .object entries)]) =
      if name = key then entries else entriesUnder name fields := by
  unfold entriesUnder
  rw [List.reverse_append, List.reverse_singleton, List.singleton_append, Table.lookup_cons]
  by_cases h : name = key
  · rw [if_pos h, if_pos h]
  · rw [if_neg h, if_neg h]

theorem asMap_eq_ok_iff {j : Json} {entries : List (String × Json)} :
    j.asMap = .ok entries ↔ j = .object entries := by
  cases j <;> simp [Json.asMap, Json.wrongType]

-- What one field of an object changes.
theorem putField_eq_ok_iff {e e' : SheetEntries} {name : String} {j : Json} :
    putField e (name, j) = .ok e' ↔
      ∃ entries, j = .object entries ∧
        (name = "values" ∧ ⟨entries, e.formulae⟩ = e' ∨
          name = "formulae" ∧ ⟨e.values, entries⟩ = e') := by
  simp only [putField]
  split
  · rename_i h
    simp only [bind_eq_ok_iff, asMap_eq_ok_iff, h, true_and, String.reduceEq, false_and, or_false,
      pure, Except.pure, Except.ok.injEq]
  · rename_i hvalues
    split
    · rename_i h
      simp only [bind_eq_ok_iff, asMap_eq_ok_iff, h, true_and, String.reduceEq, false_and,
        false_or, pure, Except.pure, Except.ok.injEq]
    · rename_i hformulae
      simp only [hvalues, hformulae, throw, throwThe, MonadExceptOf.throw, reduceCtorEq, false_and,
        or_self, and_false, exists_false]

theorem foldlM_putField_eq_ok_iff {fields : List (String × Json)} {e : SheetEntries} :
    fields.foldlM putField ⟨[], []⟩ = .ok e ↔
      (∀ f ∈ fields, IsField f) ∧
        ⟨entriesUnder "values" fields, entriesUnder "formulae" fields⟩ = e := by
  induction fields using List.reverseRecOn generalizing e with
  | nil =>
    have hnone (name : String) : entriesUnder name [] = [] := rfl
    simp only [List.foldlM_nil, List.not_mem_nil, false_imp_iff, implies_true, true_and, hnone,
      pure, Except.pure, Except.ok.injEq]
  | append_singleton fields f ih =>
    obtain ⟨name, j⟩ := f
    simp only [List.foldlM_append, List.foldlM_cons, List.foldlM_nil, bind_pure, bind_eq_ok_iff,
      ih, List.forall_mem_append, List.forall_mem_singleton]
    constructor
    · rintro ⟨e', ⟨hfields, rfl⟩, hput⟩
      obtain ⟨entries, rfl, ⟨rfl, rfl⟩ | ⟨rfl, rfl⟩⟩ := putField_eq_ok_iff.mp hput
      · refine ⟨⟨hfields, .values entries⟩, ?_⟩
        simp only [entriesUnder_concat, if_true, String.reduceEq, if_false]
      · refine ⟨⟨hfields, .formulae entries⟩, ?_⟩
        simp only [entriesUnder_concat, if_true, String.reduceEq, if_false]
    · rintro ⟨⟨hfields, hfield⟩, rfl⟩
      refine ⟨_, ⟨hfields, rfl⟩, ?_⟩
      rw [putField_eq_ok_iff]
      cases hfield with
      | values entries =>
        refine ⟨entries, rfl, Or.inl ⟨rfl, ?_⟩⟩
        simp only [entriesUnder_concat, if_true, String.reduceEq, if_false]
      | formulae entries =>
        refine ⟨entries, rfl, Or.inr ⟨rfl, ?_⟩⟩
        simp only [entriesUnder_concat, if_true, String.reduceEq, if_false]

theorem ofJson_eq_ok_iff {j : Json} {e : SheetEntries} : ofJson j = .ok e ↔ Written j e := by
  constructor
  · intro h
    unfold ofJson at h
    split at h
    · obtain ⟨hfields, rfl⟩ := foldlM_putField_eq_ok_iff.mp h
      exact .object hfields
    · cases h
      exact .neither
    · simp only [bind_eq_ok_iff, asMap_eq_ok_iff] at h
      obtain ⟨values, rfl, h⟩ := h
      cases h
      exact .values values
    · simp only [bind_eq_ok_iff, asMap_eq_ok_iff] at h
      obtain ⟨values, rfl, formulae, rfl, h⟩ := h
      split at h
      · rename_i hmore
        cases h
        rw [List.isEmpty_iff.mp hmore]
        exact .both values formulae
      · cases h
    · cases h
  · intro h
    cases h with
    | object h => exact foldlM_putField_eq_ok_iff.mpr ⟨h, rfl⟩
    | neither => rfl
    | values values => rfl
    | both values formulae => rfl

end SheetEntries

end LinkedSheets
