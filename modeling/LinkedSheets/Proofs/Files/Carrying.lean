import LinkedSheets.Proofs.Files.Walking

/-!
# What steps leave behind

Steps that succeed make directories where nothing was and put texts into files. Nothing else
changes.
-/

namespace LinkedSheets.FileTree

variable {t u v : FileTree}

/-- A file with a text. -/
def textFile (text : String) : FileNode := .file ⟨text.utf8ByteSize, some text⟩

/-- A path leads to a file with a text. -/
structure HasText (t : FileTree) (path : String) (place : List String) (text : String) : Prop where
  resolve : t.resolve path = .ok place
  node? : t.node? place = some (textFile text)

theorem HasText.of_keepsDirectories {path text : String} {place : List String}
    (h : t.HasText path place text) (hkeeps : t.KeepsDirectories u)
    (hsame : u.node? place = t.node? place) : u.HasText path place text where
  resolve := hkeeps.resolve h.resolve
  node? := hsame.trans h.node?

/-- A text has been put under a path, and nothing else has changed. -/
structure Wrote (t u : FileTree) (path : String) (place : List String) (text : String) : Prop
    extends u.HasText path place text where
  other : ∀ q, q ≠ place → u.node? q = t.node? q
  keeps : t.KeepsDirectories u

theorem Wrote.trans {path text text' : String} {place : List String}
    (h : Wrote t u path place text) (h' : Wrote u v path place text') :
    Wrote t v path place text' where
  resolve := h'.resolve
  node? := h'.node?
  other := fun q hq => (h'.other q hq).trans (h.other q hq)
  keeps := h.keeps.trans h'.keeps

theorem wrote_of_putFile {path text : String} (h : t.putFile path text = .ok u) :
    ∃ place, t.resolve path = .ok place ∧ Wrote t u path place text := by
  unfold putFile at h
  split at h
  · cases h
  · rename_i place hplace
    split at h
    · cases h
    · rename_i hnode
      cases h
      have hkeeps := keepsDirectories_put (textFile text) hnode
      exact ⟨place, hplace, {
        resolve := hkeeps.resolve hplace
        node? := node?_put_self _ hnode
        other := fun q hq => node?_put_of_ne _ hq
        keeps := hkeeps }⟩

/-- A path leads somewhere, and no directory is there. -/
def IsWritable (t : FileTree) (path : String) : Prop :=
  ∃ place, t.resolve path = .ok place ∧ t.node? place ≠ some .directory

theorem IsWritable.exists_putFile {path : String} (h : t.IsWritable path) (text : String) :
    ∃ u, t.putFile path text = .ok u := by
  obtain ⟨place, hplace, hnode⟩ := h
  refine ⟨t.put place (textFile text), ?_⟩
  simp only [putFile, hplace, hnode, if_false, textFile]

-- A text that is put under some path stands in the way of no other.
theorem IsWritable.of_wrote {path other text : String} {place : List String}
    (h : t.IsWritable path) (hwrote : Wrote t u other place text) : u.IsWritable path := by
  obtain ⟨reached, hreached, hnode⟩ := h
  refine ⟨reached, hwrote.keeps.resolve hreached, ?_⟩
  by_cases hplace : reached = place
  · rw [hplace, hwrote.node?]
    exact nofun
  · rwa [hwrote.other reached hplace]

/-- A place is as it was, or nothing was there and one of some paths now leads to a directory
there. -/
def Kept (t u : FileTree) (paths : List String) (place : List String) : Prop :=
  u.node? place = t.node? place ∨
    t.node? place = none ∧ u.node? place = some .directory ∧
      ∃ path ∈ paths, u.resolve path = .ok place

variable {paths more : List String} {place : List String}

theorem Kept.mono (h : t.Kept u paths place) (hsub : paths ⊆ more) : t.Kept u more place := by
  rcases h with h | ⟨hnone, hnode, path, hmem, hpath⟩
  · exact Or.inl h
  · exact Or.inr ⟨hnone, hnode, path, hsub hmem, hpath⟩

theorem Kept.trans (h : t.Kept u paths place) (h' : u.Kept v paths place)
    (hkeeps : u.KeepsDirectories v) : t.Kept v paths place := by
  rcases h with h | ⟨hnone, hnode, path, hmem, hpath⟩
  · rcases h' with h' | ⟨hnone, hnode, hpath⟩
    · exact Or.inl (h'.trans h)
    · exact Or.inr ⟨h ▸ hnone, hnode, hpath⟩
  · exact Or.inr ⟨hnone, hkeeps place hnode, path, hmem, hkeeps.resolve hpath⟩

theorem keepsDirectories_of_kept (h : ∀ place, t.Kept u paths place) : t.KeepsDirectories u := by
  intro place hplace
  rcases h place with hsame | ⟨-, hnode, -⟩
  · rw [hsame, hplace]
  · exact hnode

theorem kept_makeDirectory {path : String} (h : t.makeDirectory path = .ok u) :
    (∀ place, t.Kept u [path] place) ∧
      ∃ place, u.resolve path = .ok place ∧ u.node? place = some .directory := by
  unfold makeDirectory at h
  split at h
  · cases h
  · rename_i reached hreached
    split at h
    · rename_i hnode
      cases h
      exact ⟨fun _ => Or.inl rfl, reached, hreached, hnode⟩
    · cases h
    · rename_i hnone
      split at h
      · cases h
      · cases h
        have hnot : t.node? reached ≠ some .directory := by rw [hnone]; exact nofun
        have hresolve := (keepsDirectories_put .directory hnot).resolve hreached
        have hnode := node?_put_self .directory hnot
        refine ⟨fun place => ?_, reached, hresolve, hnode⟩
        by_cases hplace : place = reached
        · rw [hplace]
          exact Or.inr ⟨hnone, hnode, path, List.mem_cons_self, hresolve⟩
        · exact Or.inl (node?_put_of_ne _ hplace)

theorem after_eq_ok {result : Except FileError FileTree} (h : t.after result = (u, none)) :
    result = .ok u := by
  cases result with
  | error e => cases h
  | ok changed =>
    cases h
    rfl

-- The farthest directory that is missing is made first.
theorem kept_makeDirectories (h : t.makeDirectories paths = (u, none)) :
    (∀ place, t.Kept u paths place) ∧
      ∀ path, paths.head? = some path →
        ∃ place, u.resolve path = .ok place ∧ u.node? place = some .directory := by
  induction paths generalizing u with
  | nil =>
    cases h
    exact ⟨fun _ => Or.inl rfl, nofun⟩
  | cons path outer ih =>
    have hhead {w : FileTree} (hmade : w.makeDirectory path = .ok u) (other : String)
        (hother : (path :: outer).head? = some other) :
        ∃ place, u.resolve other = .ok place ∧ u.node? place = some .directory := by
      rw [List.head?_cons, Option.some.injEq] at hother
      rw [← hother]
      exact (kept_makeDirectory hmade).2
    rw [makeDirectories] at h
    split at h
    · split at h
      · rename_i v hv
        have hmade := after_eq_ok h
        have hkept := (kept_makeDirectory hmade).1
        refine ⟨fun place => ?_, hhead hmade⟩
        have hbefore := ((ih hv).1 place).mono (List.subset_cons_self path outer)
        have hafter := (hkept place).mono (List.cons_subset_cons path (List.nil_subset outer))
        exact hbefore.trans hafter (keepsDirectories_of_kept hkept)
      · rename_i hfailed
        exact absurd h (hfailed u)
    · have hmade := after_eq_ok h
      refine ⟨fun place => ?_, hhead hmade⟩
      have hkept := (kept_makeDirectory hmade).1 place
      exact hkept.mono (List.cons_subset_cons path (List.nil_subset outer))

theorem kept_makeDirectory_step {dir : String} (h : t.step (.makeDirectory dir) = (u, none)) :
    (∀ place, t.Kept u (Path.ancestors dir) place) ∧ ∃ place, u.LeadsTo dir place := by
  rw [step] at h
  split at h
  · rename_i hempty
    cases h
    rw [String.isEmpty_iff] at hempty
    exact ⟨fun _ => Or.inl rfl, [], hempty ▸ LeadsTo.of_empty t⟩
  · obtain ⟨hkept, hhead⟩ := kept_makeDirectories h
    obtain ⟨place, hresolve, hnode⟩ := hhead dir rfl
    exact ⟨hkept, place, (resolve_eq_ok_iff.mp hresolve).2, hnode⟩

/-- The steps succeed, and this is the tree that they leave behind. -/
def Becomes (t : FileTree) (steps : List Step) (u : FileTree) : Prop :=
  (t.carryOut steps).failure = none ∧ (t.carryOut steps).tree = u

theorem becomes_nil : t.Becomes [] u ↔ t = u := by
  rw [Becomes, carryOut]
  exact and_iff_right rfl

theorem becomes_cons {s : Step} {rest : List Step} :
    t.Becomes (s :: rest) u ↔ ∃ v, t.step s = (v, none) ∧ Becomes v rest u := by
  have hlog (entry : LogEntry) : t.Becomes (.log entry :: rest) u ↔ t.Becomes rest u := Iff.rfl
  cases s with
  | log entry =>
    rw [hlog]
    exact ⟨fun h => ⟨t, rfl, h⟩, fun ⟨v, hv, h⟩ => by cases hv; exact h⟩
  | _ =>
    simp only [Becomes, carryOut]
    split
    · rename_i hstep
      simp [hstep]
    · rename_i hstep
      simp [hstep]

theorem becomes_append {before after : List Step} :
    t.Becomes (before ++ after) u ↔ ∃ v, t.Becomes before v ∧ Becomes v after u := by
  induction before generalizing t with
  | nil => simp only [List.nil_append, becomes_nil, exists_eq_left']
  | cons s rest ih =>
    simp only [List.cons_append, becomes_cons, ih]
    constructor
    · rintro ⟨w, hw, v, hbefore, hafter⟩
      exact ⟨v, ⟨w, hw, hbefore⟩, hafter⟩
    · rintro ⟨v, ⟨w, hw, hbefore⟩, hafter⟩
      exact ⟨w, hw, v, hbefore, hafter⟩

theorem becomes_logs {entries : List LogEntry} : t.Becomes (entries.map .log) u ↔ t = u := by
  induction entries with
  | nil => exact becomes_nil
  | cons entry rest ih =>
    rw [List.map_cons, becomes_cons, ← ih]
    exact ⟨fun ⟨v, hv, h⟩ => by cases hv; exact h, fun h => ⟨t, rfl, h⟩⟩

-- A file is made, then its text is written to it.
theorem wrote_of_becomes {path text : String} {entries : List LogEntry}
    (h : t.Becomes (.createFile path :: entries.map .log ++ [.writeFile path text]) u) :
    ∃ place, t.resolve path = .ok place ∧ Wrote t u path place text := by
  rw [List.cons_append, becomes_cons] at h
  obtain ⟨w, hcreate, h⟩ := h
  rw [becomes_append] at h
  obtain ⟨w', hlogs, h⟩ := h
  rw [becomes_logs] at hlogs
  subst hlogs
  rw [becomes_cons] at h
  obtain ⟨u', hwrite, h⟩ := h
  rw [becomes_nil] at h
  subst h
  obtain ⟨place, hplace, hcreated⟩ := wrote_of_putFile (after_eq_ok hcreate)
  obtain ⟨place', hplace', hwritten⟩ := wrote_of_putFile (after_eq_ok hwrite)
  have hsame : place = place' := Except.ok.inj (hcreated.resolve.symm.trans hplace')
  rw [← hsame] at hwritten
  exact ⟨place, hplace, hcreated.trans hwritten⟩

theorem exists_becomes_of_isWritable {path : String} (h : t.IsWritable path) (text : String)
    (entries : List LogEntry) :
    ∃ u, t.Becomes (.createFile path :: entries.map .log ++ [.writeFile path text]) u := by
  obtain ⟨v, hv⟩ := h.exists_putFile ""
  obtain ⟨place, -, hcreated⟩ := wrote_of_putFile hv
  obtain ⟨u, hu⟩ := (h.of_wrote hcreated).exists_putFile text
  have hcreate : t.step (.createFile path) = (v, none) := by rw [step, hv, after]
  have hwrite : v.step (.writeFile path text) = (u, none) := by rw [step, hu, after]
  refine ⟨u, ?_⟩
  rw [List.cons_append, becomes_cons]
  refine ⟨v, hcreate, becomes_append.mpr ⟨v, becomes_logs.mpr rfl, ?_⟩⟩
  exact becomes_cons.mpr ⟨u, hwrite, becomes_nil.mpr rfl⟩

/-- What steps do to a tree: what they leave behind when no more can be done, and the error that
made an end to it, if there was one. -/
def effect (t : FileTree) (steps : List Step) : FileTree × Option FileError :=
  ((t.carryOut steps).tree, (t.carryOut steps).failure)

theorem effect_log_cons (entry : LogEntry) (rest : List Step) :
    t.effect (.log entry :: rest) = t.effect rest := rfl

-- One step after the other, until one fails.
theorem effect_cons (s : Step) (rest : List Step) :
    t.effect (s :: rest) = match t.step s with
      | (v, some e) => (v, some e)
      | (v, none) => effect v rest := by
  cases s with
  | log entry => rfl
  | _ =>
    simp only [effect, carryOut]
    generalize t.step _ = reached
    obtain ⟨v, failure⟩ := reached
    cases failure with
    | some e => rfl
    | none => rfl

/-- The steps only log something. -/
def OnlyLogs (steps : List Step) : Prop := ∀ s ∈ steps, ∃ entry, s = .log entry

-- What is logged first has no effect.
theorem effect_append_of_onlyLogs {logs : List Step} (h : OnlyLogs logs) (rest : List Step) :
    t.effect (logs ++ rest) = t.effect rest := by
  induction logs with
  | nil => rfl
  | cons s more ih =>
    obtain ⟨entry, rfl⟩ := h s List.mem_cons_self
    rw [List.cons_append, effect_log_cons]
    exact ih fun s hs => h s (List.mem_cons_of_mem _ hs)

theorem effect_of_onlyLogs {logs : List Step} (h : OnlyLogs logs) : t.effect logs = (t, none) := by
  rw [← List.append_nil logs, effect_append_of_onlyLogs h]
  rfl

end LinkedSheets.FileTree
