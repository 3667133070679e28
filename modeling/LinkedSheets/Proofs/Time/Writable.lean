import LinkedSheets.Proofs.Stepwise
import LinkedSheets.Time.Format

/-!
# What can be written

Whether a moment can be written in a format depends on the format alone: every item of it must be
known, and none must be an offset that can only be read.
-/

namespace LinkedSheets.TimeFormat

open Text

theorem writeItem?_eq_none_iff {t : Moment} {i : Item} :
    writeItem? t i = none ↔ i = .unknown ∨ i = .lenientOffset := by
  cases i <;> simp [writeItem?]

theorem write?_eq_none_iff {format : String} {t : Moment} :
    write? format t = none ↔
      .unknown ∈ items format.toList ∨ .lenientOffset ∈ items format.toList := by
  rw [write?, Option.map_eq_none_iff, mapM_eq_none_iff]
  simp only [writeItem?_eq_none_iff, and_or_left, exists_or, exists_eq_right]

theorem isValid_iff {format : String} :
    isValid format = true ↔ .unknown ∉ items format.toList := by
  rw [isValid, Bool.not_eq_true', List.contains_eq_mem, decide_eq_false_iff_not]

theorem lenientOffset_notMem_repadded (pad : Pad) (c : Char) :
    .lenientOffset ∉ repadded pad c := by
  unfold repadded
  split <;> simp

theorem lenientOffset_notMem_directive (c : Char) : .lenientOffset ∉ directive c := by
  unfold directive
  split
  · simp
  · fun_cases lettered c <;> decide

-- What is found beyond the items of the first characters is found in the whole.
theorem isInfix_of_mem_append {cs rest tag : List Char} {is : List Item} {i : Item}
    (ih : i ∈ items rest → tag <:+: rest) (n : Nat) (hrest : cs.drop n = rest) (hi : i ∉ is)
    (h : i ∈ is ++ items rest) : tag <:+: cs := by
  have hmem := (List.mem_append.mp h).resolve_left hi
  rw [← hrest] at ih hmem
  exact (ih hmem).trans (List.drop_suffix n cs).isInfix

/-- Only one directive stands for an offset that can only be read. -/
theorem isInfix_of_lenientOffset_mem {cs : List Char} (h : .lenientOffset ∈ items cs) :
    ['%', '#', 'z'] <:+: cs := by
  have hsingle {cs rest : List Char} {i : Item}
      (ih : .lenientOffset ∈ items rest → ['%', '#', 'z'] <:+: rest) (n : Nat)
      (hrest : cs.drop n = rest) (hi : .lenientOffset ≠ i)
      (h : .lenientOffset ∈ i :: items rest) : ['%', '#', 'z'] <:+: cs :=
    isInfix_of_mem_append ih n hrest (fun hmem => hi (List.mem_singleton.mp hmem)) h
  fun_induction items cs with
  | case1 => exact absurd h List.not_mem_nil
  | case2 c rest ih =>
    exact isInfix_of_mem_append ih 3 rfl (lenientOffset_notMem_repadded _ c) h
  | case3 c rest ih =>
    exact isInfix_of_mem_append ih 3 rfl (lenientOffset_notMem_repadded _ c) h
  | case4 c rest ih =>
    exact isInfix_of_mem_append ih 3 rfl (lenientOffset_notMem_repadded _ c) h
  | case5 rest ih => exact ⟨[], rest, rfl⟩
  | case6 rest ih => exact hsingle ih 5 rfl (by decide) h
  | case7 rest ih => exact hsingle ih 4 rfl (by decide) h
  | case8 rest ih => exact hsingle ih 3 rfl (by decide) h
  | case9 rest ih => exact hsingle ih 4 rfl (by decide) h
  | case10 rest ih => exact hsingle ih 4 rfl (by decide) h
  | case11 rest ih => exact hsingle ih 4 rfl (by decide) h
  | case12 rest ih => exact hsingle ih 3 rfl (by decide) h
  | case13 rest ih => exact hsingle ih 3 rfl (by decide) h
  | case14 rest ih => exact hsingle ih 3 rfl (by decide) h
  | case15 rest ih => exact hsingle ih 3 rfl (by decide) h
  | case16 => exact absurd h (by decide)
  | case17 c rest =>
    rename_i ih
    exact isInfix_of_mem_append ih 2 rfl (lenientOffset_notMem_directive c) h
  | case18 c rest =>
    rename_i ih
    exact hsingle ih 1 rfl (by simp) h

end LinkedSheets.TimeFormat
