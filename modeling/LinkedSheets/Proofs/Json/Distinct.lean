import LinkedSheets.Proofs.Stepwise
import LinkedSheets.Workbook.Document

/-!
# Keys of documents

The keys of an object are all different, whatever keys are written: one that comes again changes the
field that is there. So no sheet of a document replaces another one.
-/

namespace LinkedSheets

open Json

theorem Json.nodup_readFields {fuel depth : Nat} {first : Bool}
    {before fields : List (String × Json)} {cs rest : List Char}
    (hbefore : (before.map Prod.fst).Nodup)
    (h : readFields fuel depth first before cs = .ok (fields, rest)) :
    (fields.map Prod.fst).Nodup := by
  induction fuel generalizing first before cs with
  | zero => simp [readFields] at h
  | succ fuel ih =>
    unfold readFields at h
    split at h
    · simp at h
    · cases h
      exact hbefore
    · split at h
      · simp at h
      · split at h
        · simp at h
        · exact ih (Table.nodup_putIn _ _ hbefore) h

theorem Json.refuse_ne_ok {α : Type} {expected : Shape} {cs : List Char} {a : α} :
    refuse expected cs ≠ .ok a := by
  unfold refuse
  split
  · simp
  · simp
  · split <;> simp

namespace WorkbookFields

theorem nodup_readSheets {fuel : Nat} {cs rest : List Char} {sheets : List (String × Json)}
    (h : readSheets fuel cs = .ok (sheets, rest)) : (sheets.map Prod.fst).Nodup := by
  unfold readSheets at h
  split at h
  · simp at h
  · split at h
    · have hnone : (([] : List (String × Json)).map Prod.fst).Nodup := List.nodup_nil
      exact nodup_readFields hnone h
    · exact absurd h refuse_ne_ok

/-- The sheets, if they have been read, have different names. -/
def NamesDiffer (found : WorkbookFields) : Prop :=
  ∀ sheets, found.sheets = some sheets → (sheets.map Prod.fst).Nodup

theorem namesDiffer_of_nodup {title : Option (Option String)} {sheets : List (String × Json)}
    (h : (sheets.map Prod.fst).Nodup) : NamesDiffer ⟨title, some sheets⟩ := by
  intro others hothers
  rw [← Option.some.inj hothers]
  exact h

theorem namesDiffer_readObject {fuel steps : Nat} {first : Bool} {found all : WorkbookFields}
    {cs rest : List Char} (hfound : found.NamesDiffer)
    (h : readObject fuel steps first found cs = .ok (all, rest)) : all.NamesDiffer := by
  induction steps generalizing first found cs with
  | zero => simp [readObject] at h
  | succ steps ih =>
    rw [readObject, bind_eq_ok_iff] at h
    obtain ⟨⟨key, rest'⟩, -, h⟩ := h
    simp only at h
    split at h
    · cases h
      exact hfound
    · split at h
      · cases h
      · simp only [bind_eq_ok_iff] at h
        obtain ⟨after, -, ⟨title, more⟩, -, h⟩ := h
        have htitle : NamesDiffer ⟨some title, found.sheets⟩ := hfound
        exact ih htitle h
    · split at h
      · cases h
      · simp only [bind_eq_ok_iff] at h
        obtain ⟨after, -, ⟨sheets, more⟩, hsheets, h⟩ := h
        have hnames : NamesDiffer ⟨found.title, some sheets⟩ :=
          namesDiffer_of_nodup (nodup_readSheets hsheets)
        exact ih hnames h
    · cases h

theorem namesDiffer_readArray {fuel : Nat} {all : WorkbookFields} {cs rest : List Char}
    (h : readArray fuel cs = .ok (all, rest)) : all.NamesDiffer := by
  rw [readArray, bind_eq_ok_iff] at h
  obtain ⟨⟨more, rest'⟩, -, h⟩ := h
  simp only at h
  split at h
  · cases h
  · rw [bind_eq_ok_iff] at h
    obtain ⟨⟨title, rest'⟩, -, h⟩ := h
    rw [bind_eq_ok_iff] at h
    obtain ⟨⟨more, rest'⟩, -, h⟩ := h
    simp only at h
    split at h
    · cases h
    · rw [bind_eq_ok_iff] at h
      obtain ⟨⟨sheets, rest'⟩, hsheets, h⟩ := h
      simp only at h
      split at h
      · cases h
      · split at h
        · cases h
          exact namesDiffer_of_nodup (nodup_readSheets hsheets)
        · cases h

theorem namesDiffer_readContainer {fuel : Nat} {all : WorkbookFields} {cs rest : List Char}
    (h : readContainer fuel cs = .ok (all, rest)) : all.NamesDiffer := by
  unfold readContainer at h
  split at h
  · cases h
  · split at h
    · exact namesDiffer_readArray h
    · split at h
      · exact namesDiffer_readObject (fun sheets hsheets => by cases hsheets) h
      · exact absurd h refuse_ne_ok

theorem nodup_readFrom {fuel : Nat} {title : Option String} {sheets : List (String × Json)}
    {cs rest : List Char} (h : readFrom fuel cs = .ok ((title, sheets), rest)) :
    (sheets.map Prod.fst).Nodup := by
  rw [readFrom, bind_eq_ok_iff] at h
  obtain ⟨⟨found, rest'⟩, hfound, h⟩ := h
  have hnames := namesDiffer_readContainer hfound
  simp only at h
  split at h
  · cases h
  · rename_i sheets' hsheets
    cases h
    exact hnames sheets hsheets

end WorkbookFields

theorem atEnd_eq_ok {α : Type} {read : Reader α} {cs : List Char} {a : α}
    (h : atEnd read cs = .ok a) : ∃ rest, read cs = .ok (a, rest) := by
  rw [atEnd, bind_eq_ok_iff] at h
  obtain ⟨⟨found, rest⟩, hfound, h⟩ := h
  simp only at h
  split at h
  · cases h
    exact ⟨rest, hfound⟩
  · cases h

/-- The sheets of a document have different names. -/
theorem Workbook.nodup_readDocument {content : String} {title : Option String}
    {sheets : List (String × Json)} (h : readDocument content = .ok (title, sheets)) :
    (sheets.map Prod.fst).Nodup := by
  obtain ⟨rest, hread⟩ := atEnd_eq_ok h
  exact WorkbookFields.nodup_readFrom hread

end LinkedSheets
