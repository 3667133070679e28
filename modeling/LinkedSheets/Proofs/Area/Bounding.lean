import LinkedSheets.Proofs.Area.Extent

/-!
# The least area

The bounding area of references starts at `A1`, holds the cell of each of them, and lies within
every other area that does so. It has the row of the last cell in the order of cells, which looks at
rows first, and the column of a cell that no other is right of.
-/

namespace LinkedSheets

namespace CellRef

/-- The order of cells as an order of numbers. -/
def rank (c : CellRef) : Nat := c.row.toNat * 2 ^ 32 + c.col.toNat

theorem lt_iff_rank_lt {c d : CellRef} : c < d ↔ c.rank < d.rank := by
  have hc := c.col.toNat_lt
  have hd := d.col.toNat_lt
  show c.row < d.row ∨ c.row = d.row ∧ c.col < d.col ↔ _
  rw [UInt32.lt_iff_toNat_lt, UInt32.lt_iff_toNat_lt, ← UInt32.toNat_inj, rank, rank]
  omega

end CellRef

namespace Area

variable {keys keys' : List String} {cells cells' : List CellRef} {a b : Area}

/-- A cell is named by one of some references. -/
def Names (keys : List String) (c : CellRef) : Prop := ∃ key ∈ keys, CellRef.parse key = .ok c

/-- The smallest of all areas from `A1` on that hold certain cells. -/
structure IsBoundingOf (a : Area) (P : CellRef → Prop) : Prop where
  start : a.start = origin
  holds : ∀ c, P c → a.Contains c
  least : ∀ b : Area, b.start = origin → (∀ c, P c → b.Contains c) →
    ∀ c, a.Contains c → b.Contains c
  row_last : ∃ last, P last ∧ (∀ c, P c → ¬ last < c) ∧ a.finish.row = last.row
  col_widest : ∃ widest, P widest ∧ (∀ c, P c → c.col ≤ widest.col) ∧ a.finish.col = widest.col

theorem IsBoundingOf.eq {P : CellRef → Prop} (ha : a.IsBoundingOf P) (hb : b.IsBoundingOf P) :
    a = b := by
  apply eq_of_contains_iff
  intro c
  exact ⟨ha.least b hb.start hb.holds c, hb.least a ha.start ha.holds c⟩

theorem corners_of_bounding (hproper : ∀ c ∈ cells, c.IsProper) (h : bounding cells = some a) :
    a.start = origin ∧ a.finish.row.toNat = largest (cells.map fun c => c.row.toNat) ∧
      a.finish.col.toNat = largest (cells.map fun c => c.col.toNat) := by
  have hcorners := bounding_getD hproper
  rw [h] at hcorners
  exact hcorners

theorem bounding_eq_none_iff : bounding cells = none ↔ cells = [] := by
  cases cells with
  | nil => simp [bounding]
  | cons c rest => simp [bounding]

theorem ne_nil_of_bounding (h : bounding cells = some a) : cells ≠ [] := by
  rintro rfl
  cases h

theorem largest_map_le {f : CellRef → Nat} {m : Nat} (hm : 1 ≤ m) (h : ∀ c ∈ cells, f c ≤ m) :
    largest (cells.map f) ≤ m := by
  apply largest_le hm
  intro n hn
  obtain ⟨c, hc, rfl⟩ := List.mem_map.mp hn
  exact h c hc

theorem largest_map_eq {f : CellRef → Nat} {c : CellRef} (hc : c ∈ cells) (hpos : 1 ≤ f c)
    (h : ∀ d ∈ cells, f d ≤ f c) : largest (cells.map f) = f c :=
  Nat.le_antisymm (largest_map_le hpos h) (le_largest (List.mem_map_of_mem hc))

theorem exists_largest (f : CellRef → Nat) (hne : cells ≠ []) :
    ∃ c ∈ cells, ∀ d ∈ cells, f d ≤ f c := by
  obtain ⟨c, hc, hmax⟩ :=
    cells.toFinset.exists_max_image f (List.toFinset_nonempty_iff cells |>.mpr hne)
  simp only [List.mem_toFinset] at hc hmax
  exact ⟨c, hc, hmax⟩

-- A cell in a lower row comes later in the order, whatever its column.
theorem exists_last (hne : cells ≠ []) :
    ∃ last ∈ cells, (∀ c ∈ cells, ¬ last < c) ∧ ∀ c ∈ cells, c.row.toNat ≤ last.row.toNat := by
  obtain ⟨last, hlast, hmax⟩ := exists_largest CellRef.rank hne
  refine ⟨last, hlast, fun c hc => ?_, fun c hc => ?_⟩
  · rw [CellRef.lt_iff_rank_lt]
    exact Nat.not_lt.mpr (hmax c hc)
  · have hle := hmax c hc
    have hcol := last.col.toNat_lt
    rw [CellRef.rank, CellRef.rank] at hle
    omega

theorem isBoundingOf_bounding (hproper : ∀ c ∈ cells, c.IsProper) (h : bounding cells = some a) :
    a.IsBoundingOf (· ∈ cells) := by
  have hne := ne_nil_of_bounding h
  obtain ⟨hstart, hrow, hcol⟩ := corners_of_bounding hproper h
  refine ⟨hstart, fun c hc => ?_, fun b hb hholds c hc => ?_, ?_, ?_⟩
  · rw [contains_iff_of_start hstart, hrow, hcol]
    exact ⟨hproper c hc, le_largest (List.mem_map_of_mem hc), le_largest (List.mem_map_of_mem hc)⟩
  · have hfinish := (contains_iff_of_start hb).mp b.contains_finish
    have hcells (d : CellRef) (hd : d ∈ cells) := (contains_iff_of_start hb).mp (hholds d hd)
    have hrows : a.finish.row.toNat ≤ b.finish.row.toNat := by
      rw [hrow]
      exact largest_map_le hfinish.1.1 fun d hd => (hcells d hd).2.1
    have hcols : a.finish.col.toNat ≤ b.finish.col.toNat := by
      rw [hcol]
      exact largest_map_le hfinish.1.2 fun d hd => (hcells d hd).2.2
    rw [contains_iff_of_start hstart] at hc
    rw [contains_iff_of_start hb]
    exact ⟨hc.1, hc.2.1.trans hrows, hc.2.2.trans hcols⟩
  · obtain ⟨last, hlast, hafter, hrows⟩ := exists_last hne
    refine ⟨last, hlast, hafter, ?_⟩
    rw [← UInt32.toNat_inj, hrow]
    exact largest_map_eq hlast (hproper last hlast).1 hrows
  · obtain ⟨widest, hwidest, hcols⟩ := exists_largest (fun c => c.col.toNat) hne
    refine ⟨widest, hwidest, fun c hc => UInt32.le_iff_toNat_le.mpr (hcols c hc), ?_⟩
    rw [← UInt32.toNat_inj, hcol]
    exact largest_map_eq hwidest (hproper widest hwidest).2 hcols

theorem bounding_eq_some_iff (h : ∀ c ∈ cells, c.IsProper) :
    bounding cells = some a ↔ cells ≠ [] ∧ a.IsBoundingOf (· ∈ cells) := by
  constructor
  · intro ha
    exact ⟨ne_nil_of_bounding ha, isBoundingOf_bounding h ha⟩
  · rintro ⟨hne, hbound⟩
    cases hb : bounding cells with
    | none => exact absurd (bounding_eq_none_iff.mp hb) hne
    | some b => rw [(isBoundingOf_bounding h hb).eq hbound]

-- Only which cells there are counts.
theorem bounding_of_mem_iff (h : ∀ c ∈ cells, c.IsProper) (hmem : ∀ c, c ∈ cells' ↔ c ∈ cells) :
    bounding cells' = bounding cells := by
  have h' : ∀ c ∈ cells', c.IsProper := fun c hc => h c ((hmem c).mp hc)
  have hnil : cells' = [] ↔ cells = [] := by
    simp only [List.eq_nil_iff_forall_not_mem, hmem]
  have hsame : (· ∈ cells') = (· ∈ cells) := funext fun c => propext (hmem c)
  ext a
  rw [bounding_eq_some_iff h', bounding_eq_some_iff h, hsame, ne_eq, hnil]

theorem boundingKeys_eq_ok_iff {r : Option Area} :
    boundingKeys keys = .ok r ↔
      ∃ cells, keys.mapM CellRef.parse = .ok cells ∧ bounding cells = r := by
  rw [boundingKeys, bind_eq_ok_iff]
  simp only [pure, Except.pure, Except.ok.injEq]

theorem boundingKeys_eq_error_iff {e : RefError} :
    boundingKeys keys = .error e ↔
      ∃ before key after, keys = before ++ key :: after ∧
        (∀ k ∈ before, ∃ c, CellRef.parse k = .ok c) ∧ CellRef.parse key = .error e := by
  rw [← mapM_eq_error_iff, boundingKeys, bind_eq_error_iff]
  constructor
  · rintro (h | ⟨cells, -, h⟩)
    · exact h
    · cases h
  · exact Or.inl

theorem mem_cells_iff (h : keys.mapM CellRef.parse = .ok cells) (c : CellRef) :
    c ∈ cells ↔ Names keys c := by
  rw [mapM_eq_ok_iff] at h
  constructor
  · intro hc
    exact exists_of_mem_right h hc
  · rintro ⟨key, hkey, hparse⟩
    obtain ⟨d, hd, hd'⟩ := exists_of_mem_left h hkey
    rw [hparse, Except.ok.injEq] at hd'
    rw [hd']
    exact hd

theorem boundingKeys_eq_none_iff : boundingKeys keys = .ok none ↔ keys = [] := by
  rw [boundingKeys_eq_ok_iff]
  constructor
  · rintro ⟨cells, hcells, hnone⟩
    rw [bounding_eq_none_iff] at hnone
    rw [hnone, mapM_eq_ok_iff] at hcells
    exact List.forall₂_nil_right_iff.mp hcells
  · rintro rfl
    exact ⟨[], rfl, rfl⟩

theorem exists_boundingKeys (hne : keys ≠ []) (h : ∀ key ∈ keys, ∃ c, CellRef.parse key = .ok c) :
    ∃ a, boundingKeys keys = .ok (some a) ∧ a.IsBoundingOf (Names keys) := by
  obtain ⟨cells, hcells⟩ := exists_mapM_eq_ok_iff.mpr h
  have hnames : (· ∈ cells) = Names keys := funext fun c => propext (mem_cells_iff hcells c)
  cases hb : bounding cells with
  | none =>
    have hnone := boundingKeys_eq_none_iff.mp (boundingKeys_eq_ok_iff.mpr ⟨cells, hcells, hb⟩)
    exact absurd hnone hne
  | some a =>
    refine ⟨a, boundingKeys_eq_ok_iff.mpr ⟨cells, hcells, hb⟩, ?_⟩
    rw [← hnames]
    exact isBoundingOf_bounding (isProper_of_mem_cells hcells) hb

-- It does not matter in which order and how many times the references come.
theorem boundingKeys_of_mem_iff (hmem : ∀ key, key ∈ keys' ↔ key ∈ keys) {r : Option Area}
    (h : boundingKeys keys = .ok r) : boundingKeys keys' = .ok r := by
  obtain ⟨cells, hcells, hb⟩ := boundingKeys_eq_ok_iff.mp h
  have hread := exists_mapM_eq_ok_iff.mp ⟨cells, hcells⟩
  obtain ⟨cells', hcells'⟩ :=
    exists_mapM_eq_ok_iff.mpr fun key hkey => hread key ((hmem key).mp hkey)
  have hcell : ∀ c, c ∈ cells' ↔ c ∈ cells := by
    intro c
    rw [mem_cells_iff hcells, mem_cells_iff hcells']
    simp only [Names, hmem]
  rw [boundingKeys_eq_ok_iff]
  exact ⟨cells', hcells', (bounding_of_mem_iff (isProper_of_mem_cells hcells) hcell).trans hb⟩

theorem exists_boundingKeys_eq_error_iff :
    (∃ e, boundingKeys keys = .error e) ↔ ∃ key ∈ keys, ∀ c, CellRef.parse key ≠ .ok c := by
  constructor
  · rintro ⟨e, h⟩
    obtain ⟨before, key, after, rfl, -, herror⟩ := boundingKeys_eq_error_iff.mp h
    refine ⟨key, List.mem_append_right before List.mem_cons_self, fun c hc => ?_⟩
    rw [herror] at hc
    cases hc
  · rintro ⟨key, hkey, hnot⟩
    cases h : boundingKeys keys with
    | error e => exact ⟨e, rfl⟩
    | ok r =>
      obtain ⟨cells, hcells, -⟩ := boundingKeys_eq_ok_iff.mp h
      obtain ⟨c, hc⟩ := exists_mapM_eq_ok_iff.mp ⟨cells, hcells⟩ key hkey
      exact absurd hc (hnot c)

/-- References have no bounding area if one of them cannot be read, and the error is that of the
first such one, or if there are none. Otherwise they have the smallest area from `A1` on that holds
all their cells, in whatever order and however often they come. -/
theorem boundingKeys_least (keys : List String) :
    ((∃ e, boundingKeys keys = .error e) ↔ ∃ key ∈ keys, ∀ c, CellRef.parse key ≠ .ok c) ∧
    (∀ e, boundingKeys keys = .error e ↔
      ∃ before key after, keys = before ++ key :: after ∧
        (∀ k ∈ before, ∃ c, CellRef.parse k = .ok c) ∧ CellRef.parse key = .error e) ∧
    (boundingKeys keys = .ok none ↔ keys = []) ∧
    (keys ≠ [] → (∀ key ∈ keys, ∃ c, CellRef.parse key = .ok c) →
      ∃ a, boundingKeys keys = .ok (some a) ∧ a.IsBoundingOf (Names keys)) ∧
    ∀ keys' : List String, (∀ key, key ∈ keys' ↔ key ∈ keys) →
      ∀ r, boundingKeys keys' = .ok r ↔ boundingKeys keys = .ok r :=
  ⟨exists_boundingKeys_eq_error_iff, fun _ => boundingKeys_eq_error_iff, boundingKeys_eq_none_iff,
    exists_boundingKeys, fun _ h _ => ⟨boundingKeys_of_mem_iff fun key => (h key).symm,
      boundingKeys_of_mem_iff h⟩⟩

/-- Neither of two references is for the corner of their area. -/
theorem boundingKeys_least_between :
    ∃ a, boundingKeys ["C2", " $a$10"] = .ok (some a) ∧
      a.IsBoundingOf (Names ["C2", " $a$10"]) ∧
      boundingKeys [" $a$10", "C2", " $a$10"] = .ok (some a) := by
  have hread : ∀ key ∈ ["C2", " $a$10"], ∃ c, CellRef.parse key = .ok c := by
    intro key hkey
    rw [List.mem_pair] at hkey
    rcases hkey with rfl | rfl
    · exact ⟨⟨2, 3⟩, by decide +kernel⟩
    · exact ⟨⟨10, 1⟩, by decide +kernel⟩
  have hmem : ∀ key, key ∈ [" $a$10", "C2", " $a$10"] ↔ key ∈ ["C2", " $a$10"] := by
    intro key
    simp only [List.mem_cons, List.not_mem_nil, or_false]
    tauto
  obtain ⟨a, ha, hbound⟩ :=
    (boundingKeys_least ["C2", " $a$10"]).2.2.2.1 (List.cons_ne_nil _ _) hread
  exact ⟨a, ha, hbound, ((boundingKeys_least ["C2", " $a$10"]).2.2.2.2 _ hmem _).mpr ha⟩

end Area

end LinkedSheets
