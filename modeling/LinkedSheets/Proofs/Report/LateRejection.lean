import LinkedSheets.Proofs.Report.Outcome
import LinkedSheets.Proofs.Sheet.Insertions

/-!
# References that are rejected late

A reference that spells no cell is kept as a key, trimmed, without dollar signs and in capitals, and
is read a second time when the area of the sheet is asked for. The two readings differ where a
dollar sign stands between a blank and an end of the reference, as in `$ A1`: the first reading
rejects it, the second one does not. Then the area is that of a cell whose value no look-up finds.
-/

namespace LinkedSheets

open Text

namespace CellRef

/-- Some cell is read from the reference. -/
def Accepted (reference : String) : Prop := ∃ c, parse reference = .ok c

theorem body_stripAbsolute (reference : String) :
    body (stripAbsolute reference) = trim (body reference) := by
  rw [body, toList_stripAbsolute, dollarless_trim_dollarless, body, trim_dollarless_trim]

theorem parse_stripAbsolute_eq_ok_iff {reference : String} {c : CellRef} :
    parse (stripAbsolute reference) = .ok c ↔ Spells (trim (body reference)) c := by
  rw [parse_eq_ok_iff, body_stripAbsolute]

/-- Blanks at the ends are what an accepted reference must not have once the dollar signs are
gone. -/
theorem parse_eq_ok_iff_stripAbsolute {reference : String} {c : CellRef} :
    parse reference = .ok c ↔
      parse (stripAbsolute reference) = .ok c ∧ trim (body reference) = body reference := by
  rw [parse_stripAbsolute_eq_ok_iff, parse_eq_ok_iff]
  constructor
  · intro h
    have htrim : trim (body reference) = body reference := trim_eq_self h.isBlank
    exact ⟨by rw [htrim]; exact h, htrim⟩
  · rintro ⟨h, htrim⟩
    rw [htrim] at h
    exact h

theorem accepted_iff (reference : String) :
    Accepted reference ↔
      Accepted (stripAbsolute reference) ∧ trim (body reference) = body reference := by
  rw [Accepted, Accepted, ← exists_and_right]
  exact exists_congr fun c => parse_eq_ok_iff_stripAbsolute

end CellRef

namespace Sheet

open CellRef

theorem body_key_of_error {reference : String} {e : RefError} (h : parse reference = .error e) :
    body (key reference) = (trim (body reference)).map Char.toUpper := by
  have hself : dollarless (trim (body reference)) = trim (body reference) :=
    dollarless_eq_self fun x hx => ne_dollar_of_mem_dollarless (mem_of_mem_trim hx)
  rw [body, toList_key_of_error h, trim_map_toUpper, dollarless_map_toUpper, hself]

-- A key is read as the reference is read without its dollar signs.
theorem parse_key_eq_ok_iff {reference : String} {c : CellRef} :
    parse (key reference) = .ok c ↔ parse (stripAbsolute reference) = .ok c := by
  cases hp : parse reference with
  | ok d =>
    rw [key_of_ok hp, parse_text (isProper_of_parse hp),
      (parse_eq_ok_iff_stripAbsolute.mp hp).1]
  | error e =>
    rw [parse_eq_ok_iff, body_key_of_error hp, spells_map_toUpper, parse_stripAbsolute_eq_ok_iff]

-- No cell has the key of a rejected reference that is accepted without its dollar signs.
theorem key_ne_text {reference : String} (h : ¬ Accepted reference)
    (hs : Accepted (stripAbsolute reference)) (d : CellRef) : key reference ≠ d.text := by
  intro hkey
  obtain ⟨c, hc⟩ := hs
  rw [← parse_key_eq_ok_iff, hkey, parse_eq_ok_iff, body_text] at hc
  cases hp : parse reference with
  | ok e => exact h ⟨e, hp⟩
  | error e =>
    rw [← hkey, toList_key_of_error hp, spells_map_toUpper, ← parse_eq_ok_iff] at hc
    exact h ⟨c, hc⟩

end Sheet

namespace Report

open CellRef

theorem area_ofInsertions_isOk_iff (r : Report) (name : String) (is : List Insertion) :
    (∃ a, (r.area (Sheet.ofInsertions name is)).result = .ok a) ↔
      ∀ reference ∈ Insertion.valueReferences is, Accepted (stripAbsolute reference) := by
  rw [area_result_isOk_iff]
  simp only [Sheet.mem_keys_ofInsertions, forall_exists_index, and_imp,
    forall_apply_eq_imp_iff₂, Sheet.parse_key_eq_ok_iff]
  rfl

-- The area covers the cell of every reference, be it only accepted when it is read again.
theorem contains_of_ofInsertions {r : Report} {name : String} {is : List Insertion} {a : Area}
    (ha : (r.area (Sheet.ofInsertions name is)).result = .ok a) {reference : String}
    (hr : reference ∈ Insertion.valueReferences is) {c : CellRef}
    (hc : parse (stripAbsolute reference) = .ok c) : a.Contains c :=
  contains_of_parse_key ha (Sheet.mem_keys_ofInsertions.mpr ⟨reference, hr, rfl⟩)
    (Sheet.parse_key_eq_ok_iff.mpr hc)

-- The last value of an accepted reference is found.
theorem exists_value?_ofInsertions {name : String} {is : List Insertion} {reference : String}
    (hr : reference ∈ Insertion.valueReferences is) {c : CellRef}
    (hc : parse reference = .ok c) :
    ∃ v, (Sheet.ofInsertions name is).value? c = some v ∧ Insertion.lastValue? c is = some v := by
  obtain ⟨v, hv⟩ := Option.isSome_iff_exists.mp (Insertion.isSome_lastValue? hr hc)
  have hfound := Sheet.value?_ofInsertions name is (isProper_of_parse hc)
  exact ⟨v, hfound.trans hv, hv⟩

/-- What becomes of the references of values. The area is known if all of them are accepted without
their dollar signs, which falls short of all being accepted exactly if one of them has blanks at an
end that its dollar signs hide. The values of accepted references are found in the area; that of a
reference with hidden blanks is stored under a key that no cell has, although its cell counts for
the area. -/
theorem area_ofInsertions (r : Report) (name : String) (is : List Insertion) :
    ((∃ a, (r.area (Sheet.ofInsertions name is)).result = .ok a) ↔
      ∀ reference ∈ Insertion.valueReferences is, Accepted (stripAbsolute reference)) ∧
    (((∃ a, (r.area (Sheet.ofInsertions name is)).result = .ok a) ↔
        ∀ reference ∈ Insertion.valueReferences is, Accepted reference) ↔
      ¬ ((∀ reference ∈ Insertion.valueReferences is, Accepted (stripAbsolute reference)) ∧
        ∃ reference ∈ Insertion.valueReferences is, trim (body reference) ≠ body reference)) ∧
    (∀ reference c, parse reference = .ok c ↔
      parse (stripAbsolute reference) = .ok c ∧ trim (body reference) = body reference) ∧
    (∀ reference c, parse (Sheet.key reference) = .ok c ↔
      parse (stripAbsolute reference) = .ok c) ∧
    (∀ a, (r.area (Sheet.ofInsertions name is)).result = .ok a →
      ∀ reference ∈ Insertion.valueReferences is, ∀ c,
        (parse reference = .ok c → a.Contains c ∧ ∃ v,
          (Sheet.ofInsertions name is).value? c = some v ∧
            Insertion.lastValue? c is = some v) ∧
        (parse (stripAbsolute reference) = .ok c → ¬ Accepted reference →
          a.Contains c ∧ ∀ d : CellRef, Sheet.key reference ≠ d.text)) := by
  -- Of all references at once: the first reading is the second one and no hidden blanks.
  have hall : (∀ reference ∈ Insertion.valueReferences is, Accepted reference) ↔
      (∀ reference ∈ Insertion.valueReferences is, Accepted (stripAbsolute reference)) ∧
        ∀ reference ∈ Insertion.valueReferences is, trim (body reference) = body reference := by
    rw [← forall₂_and]
    exact forall₂_congr fun reference _ => accepted_iff reference
  refine ⟨area_ofInsertions_isOk_iff r name is, ?_, fun _ _ => parse_eq_ok_iff_stripAbsolute,
    fun _ _ => Sheet.parse_key_eq_ok_iff, ?_⟩
  · rw [area_ofInsertions_isOk_iff, hall]
    constructor
    · rintro h ⟨hstripped, reference, hr, hne⟩
      exact hne ((h.mp hstripped).2 reference hr)
    · intro h
      refine ⟨fun hstripped => ⟨hstripped, fun reference hr => ?_⟩, And.left⟩
      by_contra hne
      exact h ⟨hstripped, reference, hr, hne⟩
  · intro a ha reference hr c
    constructor
    · intro hc
      have hcontains := contains_of_ofInsertions ha hr (parse_eq_ok_iff_stripAbsolute.mp hc).1
      exact ⟨hcontains, exists_value?_ofInsertions hr hc⟩
    · intro hc hnot
      exact ⟨contains_of_ofInsertions ha hr hc, Sheet.key_ne_text hnot ⟨c, hc⟩⟩

/-- The reference `$ A1` is rejected, but the area of a sheet with a value under it is known, and
the value is lost. -/
theorem area_of_hidden_blank :
    ¬ Accepted "$ A1" ∧
      (∃ a, ((ofWorkbook .empty .standard ⟨⟨2024, 2, 29⟩, 0, 0, 0, 0, 0⟩).area
        (Sheet.ofInsertions "S" [.value "$ A1" ⟨.number, "1"⟩])).result = .ok a) ∧
      (Sheet.ofInsertions "S" [.value "$ A1" ⟨.number, "1"⟩]).value? ⟨1, 1⟩ = none := by
  have hrejected : parse "$ A1" = .error (.invalid "$ A1") := rfl
  refine ⟨?_, ?_, ?_⟩
  · rintro ⟨c, hc⟩
    rw [hrejected] at hc
    exact absurd hc (by simp)
  · rw [area_ofInsertions_isOk_iff]
    intro reference hr
    rw [List.mem_singleton.mp hr]
    exact ⟨⟨1, 1⟩, rfl⟩
  · rw [Sheet.value?_ofInsertions _ _ (by decide)]
    rfl

end Report

end LinkedSheets
