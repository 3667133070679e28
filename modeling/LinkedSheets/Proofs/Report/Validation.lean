import LinkedSheets.Proofs.Report.AllOrNothing
import LinkedSheets.Proofs.Time.Writable

/-!
# What validation promises

Settings are validated before there is a page, and the time is written when the page is made. Both
look at the timestamp format. They agree on it unless the format has an offset that can only be
read: no format is refused that could be written, but one with such an offset is let through.
-/

namespace LinkedSheets.Report

open Text TimeFormat

/-- The sheet is known, its keys can be read, and it is not too large for a page. -/
def HasGrid (r : Report) (name : String) : Prop :=
  ∃ s cells, r.workbook.sheet? name = some s ∧ s.values.keys.mapM CellRef.parse = .ok cells ∧
    extentOf cells ≤ maxCells.toNat

/-- The format has an offset that can only be read. -/
def HasLenientOffset (s : Settings) : Prop := .lenientOffset ∈ items s.timestampFormat.toList

theorem compile_result_eq_error_iff {r : Report} {name : String} {e : ReportError} :
    (r.compile name).result = .error e ↔ (r.checked name).result = .error e := by
  rw [compile_eq]
  cases (r.checked name).result with
  | ok lines => simp [Except.map]
  | error e' => simp [Except.map]

theorem validate_eq_ok_iff {s : Settings} :
    s.validate = .ok () ↔ .unknown ∉ items s.timestampFormat.toList := by
  rw [← isValid_iff, Settings.validate]
  split
  · rename_i h
    exact iff_of_true rfl h
  · rename_i h
    exact iff_of_false (by simp) h

theorem validate_eq_error_iff {s : Settings} {c : Settings.FormatError} :
    s.validate = .error c ↔
      .unknown ∈ items s.timestampFormat.toList ∧ c = ⟨s.timestampFormat⟩ := by
  unfold Settings.validate
  split
  · rename_i h
    exact iff_of_false (by simp) fun hc => isValid_iff.mp h hc.1
  · rename_i h
    have hmem : .unknown ∈ items s.timestampFormat.toList := by
      by_contra hnot
      exact h (isValid_iff.mpr hnot)
    rw [Except.error.injEq, eq_comm, and_iff_right hmem]

-- A page fails over its time when nothing else is in its way.
theorem compile_eq_format_iff {r : Report} {name : String} {c : Settings.FormatError} :
    (r.compile name).result = .error (.format c) ↔
      r.HasGrid name ∧ c = ⟨r.settings.timestampFormat⟩ ∧
        write? r.settings.timestampFormat r.moment = none := by
  rw [compile_result_eq_error_iff]
  constructor
  · intro h
    cases obstacle_of_checked h with
    | format hs hcells hsize hstamp => exact ⟨⟨_, _, hs, hcells, hsize⟩, rfl, hstamp⟩
  · rintro ⟨⟨s, cells, hs, hcells, hsize⟩, rfl, hstamp⟩
    exact checked_of_format hs hcells hsize hstamp

theorem exists_compile_iff {r : Report} {name : String} :
    (∃ page, (r.compile name).result = .ok page) ↔
      r.HasGrid name ∧ write? r.settings.timestampFormat r.moment ≠ none := by
  constructor
  · rintro ⟨page, h⟩
    obtain ⟨s, a, stamp, hs, ha, hsize, hstamp, -⟩ := compile_result_eq_ok_iff.mp h
    obtain ⟨cells, hcells, rfl⟩ := area_result_eq_ok_iff.mp ha
    rw [← UInt64.not_lt, maxCells_lt_iff hcells, Nat.not_lt] at hsize
    refine ⟨⟨s, cells, hs, hcells, hsize⟩, fun hnone => ?_⟩
    exact absurd (hstamp.symm.trans (stamp_eq_error_iff.mpr ⟨hnone, rfl⟩)) (by simp)
  · rintro ⟨⟨s, cells, hs, hcells, hsize⟩, hwrite⟩
    obtain ⟨stamp, hstamp⟩ := Option.ne_none_iff_exists'.mp hwrite
    rw [← Nat.not_lt, ← maxCells_lt_iff hcells, UInt64.not_lt] at hsize
    have hstamp' : r.stamp = .ok stamp := by rw [Report.stamp, hstamp]
    exact ⟨_, compile_result_eq_ok_iff.mpr
      ⟨s, areaOf cells, stamp, hs, area_result_eq_ok_iff.mpr ⟨cells, hcells, rfl⟩, hsize, hstamp',
        rfl⟩⟩

/-- What validation promises of the pages. A page whose sheet has a grid is made exactly if the
settings are accepted and their format has no offset that can only be read; otherwise it fails over
the format. So validation and the pages agree except on the settings that are accepted with such an
offset, which only one directive stands for. -/
theorem compile_format_iff_validate (r : Report) (name : String) :
    ((∃ page, (r.compile name).result = .ok page) ↔
      r.HasGrid name ∧ r.settings.validate = .ok () ∧ ¬ HasLenientOffset r.settings) ∧
    (∀ c, (r.compile name).result = .error (.format c) ↔
      r.HasGrid name ∧ c = ⟨r.settings.timestampFormat⟩ ∧
        (r.settings.validate = .error c ∨ HasLenientOffset r.settings)) ∧
    (r.HasGrid name →
      ((r.settings.validate = .ok () ↔ ∀ c, (r.compile name).result ≠ .error (.format c)) ↔
        ¬ (r.settings.validate = .ok () ∧ HasLenientOffset r.settings))) ∧
    (HasLenientOffset r.settings → "%#z".toList <:+: r.settings.timestampFormat.toList) := by
  have hnone : write? r.settings.timestampFormat r.moment = none ↔
      ¬ r.settings.validate = .ok () ∨ HasLenientOffset r.settings := by
    rw [write?_eq_none_iff, validate_eq_ok_iff, not_not]
    rfl
  refine ⟨?_, ?_, ?_, isInfix_of_lenientOffset_mem⟩
  · rw [exists_compile_iff, ne_eq, hnone, not_or, not_not]
  · intro c
    rw [compile_eq_format_iff, write?_eq_none_iff, validate_eq_error_iff]
    refine and_congr_right fun _ => and_congr_right fun hc => ?_
    rw [and_iff_left hc]
    rfl
  · intro hgrid
    have hfails : (∀ c, (r.compile name).result ≠ .error (.format c)) ↔
        ¬ (¬ r.settings.validate = .ok () ∨ HasLenientOffset r.settings) := by
      simp only [ne_eq, compile_eq_format_iff, hnone, hgrid, true_and, not_and, forall_eq]
    rw [hfails]
    tauto

/-- A report of a single cell with its time in a given format. -/
def timed (format : String) : Report :=
  { single "" with settings := { Settings.standard with timestampFormat := format } }

/-- A format that is accepted although no time can be written in it. -/
theorem compile_of_lenientOffset :
    (timed "%#z").settings.validate = .ok () ∧ (timed "%#z").HasGrid "S" ∧
      ((timed "%#z").compile "S").result = .error (.format ⟨"%#z"⟩) := by
  have hgrid : (timed "%#z").HasGrid "S" :=
    ⟨singleSheet "", [⟨1, 1⟩], sheet?_single "", rfl, by decide⟩
  exact ⟨rfl, hgrid, compile_eq_format_iff.mpr ⟨hgrid, rfl, rfl⟩⟩

end LinkedSheets.Report
