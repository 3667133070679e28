import LinkedSheets.Proofs.Report.Composition

/-!
# Text never becomes markup

The marks of a page are those of the fragments of its shape, whatever texts stand between them.
-/

namespace LinkedSheets.Report

open Text Markup

/-- The shape of a sheet's page, if the sheet has an area. -/
def shape? (r : Report) (name : String) : Option PageShape :=
  (r.workbook.sheet? name).bind fun s => (r.area s).result.toOption.map (r.shapeOver s.name)

theorem ampersandsBegin_fragments (shape : PageShape) :
    allFragments (fun f => AmpersandsBegin pageEntities f.toList) shape.fragments = true := by
  simp only [PageShape.fragments, allFragments_append, Bool.and_eq_true]
  refine ⟨⟨⟨⟨?_, ?_⟩, ?_⟩, ?_⟩, ?_⟩
  · apply allFragments_headingFragments
    decide
  · apply allFragments_tableFragments
    decide
  · apply allFragments_footerFragments
    · decide
    · decide
  · apply allFragments_navigationFragments
    decide
  · decide

-- A page is composed of the fragments of its shape.
theorem exists_composed_of_compile {r : Report} {name page : String}
    (h : (r.compile name).result = .ok page) :
    ∃ shape, r.shape? name = some shape ∧
      Composed (shape.fragments.flatMap fun fs => fs ++ ["\n"]) page := by
  obtain ⟨s, a, stamp, hs, ha, -, -, rfl⟩ := compile_result_eq_ok_iff.mp h
  refine ⟨r.shapeOver s.name a, ?_, Composed.unlines (composed_pageLines r s a stamp)⟩
  rw [shape?, hs, Option.bind_some, ha]
  rfl

/-- Every ampersand of a page begins an entity, and the marks of two pages of the same shape are the
same, whatever texts are on them. -/
theorem marks_compile {r : Report} {name page : String} (h : (r.compile name).result = .ok page) :
    AmpersandsBegin pageEntities page.toList ∧
      ∀ (other : Report) (name' page' : String), (other.compile name').result = .ok page' →
        r.shape? name = other.shape? name' → marks page.toList = marks page'.toList := by
  obtain ⟨shape, hs, hpage⟩ := exists_composed_of_compile h
  constructor
  · apply hpage.ampersandsBegin
    intro f hf
    obtain ⟨fs, hfs, hmem⟩ := List.mem_flatMap.mp hf
    rcases List.mem_append.mp hmem with hmem | hmem
    · have hall := List.all_eq_true.mp (ampersandsBegin_fragments shape) fs hfs
      exact of_decide_eq_true (List.all_eq_true.mp hall f hmem)
    · rw [List.mem_singleton.mp hmem]
      decide
  · intro other name' page' h' hshape
    obtain ⟨shape', hs', hpage'⟩ := exists_composed_of_compile h'
    have hsame : shape = shape' := Option.some.inj (hs.symm.trans (hshape.trans hs'))
    rw [hpage.marks_eq, hpage'.marks_eq, hsame]

theorem shape?_single (text : String) :
    (single text).shape? "S" = (single "").shape? "S" := by
  rw [shape?, sheet?_single, Option.bind_some, area_single]
  rw [shape?, sheet?_single, Option.bind_some, area_single]
  rfl

/-- Marks in the title, the value and the formula of a page leave its marks as they are without
them. -/
theorem marks_compile_single :
    ∃ page page', ((single "<'\"&>").compile "S").result = .ok page ∧
      ((single "").compile "S").result = .ok page' ∧
      AmpersandsBegin pageEntities page.toList ∧ marks page.toList = marks page'.toList := by
  obtain ⟨hampersands, hmarks⟩ := marks_compile (compile_single "<'\"&>")
  have hsame := hmarks (single "") "S" _ (compile_single "") (shape?_single _)
  exact ⟨_, _, compile_single _, compile_single _, hampersands, hsame⟩

end LinkedSheets.Report
