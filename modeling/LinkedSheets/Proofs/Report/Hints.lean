import LinkedSheets.Proofs.Area.Spelling
import LinkedSheets.Proofs.Report.Navigation
import LinkedSheets.Proofs.Report.Validation

/-!
# What recorded dimensions change

Reports that only differ in their recorded dimensions have the same areas, fail in the same way, and
have pages that differ at most in their navigation. What is recorded of a sheet is compared with its
data: a warning is logged if it spells no area or another one.
-/

namespace LinkedSheets.Report

open Text

/-- The report with other recorded dimensions. -/
def recording (r : Report) (d : Dimensions) : Report := { r with dimensions := d }

/-- Pages that are the same before and after their navigation. -/
def AgreeAround (page page' : String) : Prop :=
  ∃ c c', cutNavigation? page = some c ∧ c.text = page.toList ∧
    cutNavigation? page' = some c' ∧ c'.text = page'.toList ∧
    c.before = c'.before ∧ c.after = c'.after

/-- Either there are two pages that agree around their navigation, or none for the same reason. -/
inductive AgreeUpToNavigation : Except ReportError String → Except ReportError String → Prop where
  | page {page page' : String} (h : AgreeAround page page') :
      AgreeUpToNavigation (.ok page) (.ok page')
  | error (e : ReportError) : AgreeUpToNavigation (.error e) (.error e)

/-- An entry that is logged over what is recorded of a sheet. -/
inductive IsHintWarning (sheet : String) : LogEntry → Prop where
  | differs (recorded area : Area) :
      IsHintWarning sheet (warning ("Sheet '" ++ sheet ++ "': recorded dimensions " ++
        recorded.text ++ " differ from its data, using " ++ area.text))
  | unreadable (hint : String) (e : RefError) :
      IsHintWarning sheet (warning ("Sheet '" ++ sheet ++ "': ignoring unreadable dimensions " ++
        quoted hint ++ ": " ++ e.message))

variable {r : Report} {s : Sheet}

theorem area_result_recording (r : Report) (d : Dimensions) (s : Sheet) :
    ((r.recording d).area s).result = (r.area s).result := by
  unfold area
  cases s.extent with
  | error e => rfl
  | ok extent => rfl

-- Nothing that is found out before a page is written depends on what is recorded.
theorem checked_result_recording (r : Report) (d : Dimensions) (name : String) (e : ReportError) :
    ((r.recording d).checked name).result = .error e ↔ (r.checked name).result = .error e := by
  have hsheet : (r.recording d).workbook.sheet? name = r.workbook.sheet? name := rfl
  have hstamp : (r.recording d).stamp = r.stamp := rfl
  unfold checked
  rw [hsheet]
  cases r.workbook.sheet? name with
  | none => exact Iff.rfl
  | some s =>
    simp only [area_result_recording, hstamp]
    cases (r.area s).result with
    | error e => exact Iff.rfl
    | ok a =>
      by_cases hsize : maxCells < a.cellCount
      · simp only [hsize, if_true]
      · cases r.stamp with
        | error e => simp only [hsize, if_false]
        | ok stamp => simp only [hsize, if_false, reduceCtorEq]

theorem agreeAround_page (r : Report) (d : Dimensions) (s : Sheet) (a : Area) (stamp : String) :
    AgreeAround (r.page s a stamp) ((r.recording d).page s a stamp) := by
  have hcut := cutNavigation?_page r s a stamp
  have hcut' := cutNavigation?_page (r.recording d) s a stamp
  exact ⟨_, _, hcut, text_of_cutNavigation? hcut, hcut', text_of_cutNavigation? hcut', rfl, rfl⟩

theorem page_recording {d : Dimensions} (h : (r.recording d).navigation = r.navigation)
    (s : Sheet) (a : Area) (stamp : String) :
    (r.recording d).page s a stamp = r.page s a stamp := by
  have hlines : navigationLines (r.recording d) s.name = navigationLines r s.name := by
    rw [navigationLines, h, navigationLines]
  rw [page, pageLines, hlines, page, pageLines]
  rfl

-- Whatever page there is comes from the same sheet, area and time.
theorem compile_recording (r : Report) (d : Dimensions) (name : String) :
    (∃ s a stamp, (r.compile name).result = .ok (r.page s a stamp) ∧
      ((r.recording d).compile name).result = .ok ((r.recording d).page s a stamp)) ∨
    ∃ e, (r.compile name).result = .error e ∧ ((r.recording d).compile name).result = .error e := by
  cases h : (r.compile name).result with
  | ok page =>
    left
    obtain ⟨s, a, stamp, hs, ha, hsize, hstamp, rfl⟩ := compile_result_eq_ok_iff.mp h
    rw [← area_result_recording r d] at ha
    exact ⟨s, a, stamp, rfl,
      compile_result_eq_ok_iff.mpr ⟨s, a, stamp, hs, ha, hsize, hstamp, rfl⟩⟩
  | error e =>
    right
    refine ⟨e, rfl, ?_⟩
    rw [compile_result_eq_error_iff, checked_result_recording, ← compile_result_eq_error_iff, h]

-- All entries over what is recorded begin in the same way, the one over missing values does not.
theorem prefix_of_isHintWarning {sheet : String} {e : LogEntry} (h : IsHintWarning sheet e) :
    "Sheet '".toList ++ (sheet.toList ++ "':".toList) <+: e.message.toList := by
  cases h with
  | differs recorded area =>
    have hbegin : "': recorded dimensions ".toList =
        "':".toList ++ " recorded dimensions ".toList := by decide
    simp only [warning, String.toList_append, hbegin, List.append_assoc,
      List.prefix_append_right_inj]
    exact List.prefix_append _ _
  | unreadable hint e =>
    have hbegin : "': ignoring unreadable dimensions ".toList =
        "':".toList ++ " ignoring unreadable dimensions ".toList := by decide
    simp only [warning, String.toList_append, hbegin, List.append_assoc,
      List.prefix_append_right_inj]
    exact List.prefix_append _ _

theorem not_isHintWarning_noValues (sheet : String) : ¬ IsHintWarning sheet (noValues sheet) := by
  intro h
  have hprefix := prefix_of_isHintWarning h
  simp only [noValues, warning, String.toList_append, List.append_assoc,
    List.prefix_append_right_inj] at hprefix
  exact absurd hprefix (by decide)

theorem isHintWarning_of_mem {sheet hint : String} {a : Area} {e : LogEntry}
    (h : e ∈ hintWarnings sheet a hint) : IsHintWarning sheet e := by
  unfold hintWarnings at h
  split at h
  · rename_i recorded _
    split at h
    · cases h
    · rw [List.mem_singleton.mp h]
      exact .differs recorded a
  · rename_i cause _
    rw [List.mem_singleton.mp h]
    exact .unreadable hint cause

-- There is something to say unless the hint spells the area.
theorem hintWarnings_eq_nil_iff {sheet hint : String} {a : Area} :
    hintWarnings sheet a hint = [] ↔ Area.parse hint = .ok a := by
  unfold hintWarnings
  split
  · rename_i recorded hparse
    rw [hparse, Except.ok.injEq]
    split
    · rename_i hsame
      exact iff_of_true rfl hsame
    · rename_i hsame
      exact iff_of_false (List.cons_ne_nil _ _) hsame
  · rename_i cause hparse
    rw [hparse]
    exact iff_of_false (List.cons_ne_nil _ _) (by simp)

-- What is logged over what is recorded is logged once the area is known.
theorem mem_entries_area_iff {e : LogEntry} :
    e ∈ (r.area s).entries ∧ IsHintWarning s.name e ↔
      ∃ a hint, (r.area s).result = .ok a ∧ r.dimensions.get? s.name = some hint ∧
        e ∈ hintWarnings s.name a hint := by
  have hunused (unused : Prop) [Decidable unused] :
      ¬ (e ∈ (if unused then [noValues s.name] else []) ∧ IsHintWarning s.name e) := by
    rintro ⟨hmem, hwarning⟩
    split at hmem
    · rw [List.mem_singleton.mp hmem] at hwarning
      exact not_isHintWarning_noValues s.name hwarning
    · cases hmem
  unfold area
  cases s.extent with
  | error cause => simp
  | ok extent =>
    simp only [List.mem_append, or_and_right, hunused, false_or, Except.ok.injEq]
    cases r.dimensions.get? s.name with
    | none => simp
    | some hint =>
      simp only [Option.some.injEq, and_iff_left_of_imp isHintWarning_of_mem]
      constructor
      · intro h
        exact ⟨_, hint, rfl, rfl, h⟩
      · rintro ⟨a, hint, rfl, rfl, h⟩
        exact h

/-- A warning is logged over what is recorded of a sheet exactly if its area is known and the hint
spells no area or another one. -/
theorem exists_isHintWarning_iff :
    (∃ e ∈ (r.area s).entries, IsHintWarning s.name e) ↔
      ∃ a hint, (r.area s).result = .ok a ∧ r.dimensions.get? s.name = some hint ∧
        ((∃ cause, Area.parse hint = .error cause) ∨
          ∃ recorded, Area.parse hint = .ok recorded ∧ recorded ≠ a) := by
  simp only [mem_entries_area_iff]
  constructor
  · rintro ⟨e, a, hint, ha, hhint, hmem⟩
    refine ⟨a, hint, ha, hhint, ?_⟩
    have hnot : Area.parse hint ≠ .ok a := by
      intro hok
      rw [hintWarnings_eq_nil_iff.mpr hok] at hmem
      cases hmem
    cases hparse : Area.parse hint with
    | error cause => exact Or.inl ⟨cause, rfl⟩
    | ok recorded => exact Or.inr ⟨recorded, rfl, fun hsame => hnot (hsame ▸ hparse)⟩
  · rintro ⟨a, hint, ha, hhint, hparse⟩
    have hne : hintWarnings s.name a hint ≠ [] := by
      rw [ne_eq, hintWarnings_eq_nil_iff]
      intro hok
      rcases hparse with ⟨cause, hcause⟩ | ⟨recorded, hrecorded, hne⟩
      · rw [hcause] at hok
        cases hok
      · rw [hrecorded] at hok
        exact hne (Except.ok.inj hok)
    obtain ⟨e, he⟩ := List.exists_mem_of_ne_nil _ hne
    exact ⟨e, a, hint, ha, hhint, he⟩

theorem isProper_start_of_area {a : Area} (h : (r.area s).result = .ok a) :
    a.start.IsProper := by
  obtain ⟨cells, hcells, rfl⟩ := area_result_eq_ok_iff.mp h
  rw [(corners_areaOf hcells).1]
  decide

/-- Recorded dimensions are hints. Whatever they are, a sheet has the same area or the same error,
and a page is the same outside its navigation, and altogether if the navigation lists the same
names. A warning is logged over them exactly if the area is known and the hint spells no area or
another one, so none is logged over any spelling of the area, such as its own text. -/
theorem dimensions_are_hints (r : Report) (d : Dimensions) :
    (∀ s, ((r.recording d).area s).result = (r.area s).result) ∧
    (∀ name, AgreeUpToNavigation (r.compile name).result ((r.recording d).compile name).result) ∧
    ((r.recording d).navigation = r.navigation →
      ∀ name, ((r.recording d).compile name).result = (r.compile name).result) ∧
    (∀ s, (∃ e ∈ (r.area s).entries, IsHintWarning s.name e) ↔
      ∃ a hint, (r.area s).result = .ok a ∧ r.dimensions.get? s.name = some hint ∧
        ((∃ cause, Area.parse hint = .error cause) ∨
          ∃ recorded, Area.parse hint = .ok recorded ∧ recorded ≠ a)) ∧
    ∀ s a, (r.area s).result = .ok a →
      a.IsSpelledBy a.text ∧
      ∀ hint, r.dimensions.get? s.name = some hint → a.IsSpelledBy hint →
        ∀ e ∈ (r.area s).entries, ¬ IsHintWarning s.name e := by
  refine ⟨area_result_recording r d, fun name => ?_, fun hnavigation name => ?_,
    fun s => exists_isHintWarning_iff,
    fun s a ha => ⟨?_, fun hint hhint hspelled e he hwarning => ?_⟩⟩
  · obtain ⟨s, a, stamp, hpage, hpage'⟩ | ⟨e, he, he'⟩ := compile_recording r d name
    · rw [hpage, hpage']
      exact .page (agreeAround_page r d s a stamp)
    · rw [he, he']
      exact .error e
  · obtain ⟨s, a, stamp, hpage, hpage'⟩ | ⟨e, he, he'⟩ := compile_recording r d name
    · rw [hpage, hpage', page_recording hnavigation]
    · rw [he, he']
  · exact Area.isSpelledBy_text (isProper_start_of_area ha)
  · obtain ⟨a', hint', ha', hhint', hmem⟩ := mem_entries_area_iff.mp ⟨he, hwarning⟩
    rw [ha, Except.ok.injEq] at ha'
    rw [hhint, Option.some.injEq] at hhint'
    subst ha' hhint'
    rw [hintWarnings_eq_nil_iff.mpr (Area.parse_eq_ok_iff.mpr hspelled)] at hmem
    cases hmem

end LinkedSheets.Report
