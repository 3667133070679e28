import Mathlib.Data.List.Basic
import LinkedSheets.Files.Tree

/-!
# Where paths lead

A path leads to the same place as long as no directory on the way is lost. The path of a file in a
directory leads to a place in the place of the directory.
-/

namespace LinkedSheets

namespace Path

theorem segments_eq_singleton {name : String} (h : '/' ∉ name.toList) : segments name = [name] := by
  rw [segments, List.splitOn_eq_singleton h, List.map_singleton, String.ofList_toList]

theorem segments_slash (before after : String) :
    segments (before ++ "/" ++ after) = segments before ++ segments after := by
  have htoList : (before ++ "/" ++ after).toList = before.toList ++ '/' :: after.toList := by
    rw [String.toList_append, String.toList_append, List.append_assoc]
    rfl
  rw [segments, htoList, List.splitOn_append_cons_self, List.map_append]
  rfl

theorem names_slash (before after : String) :
    names (before ++ "/" ++ after) = names before ++ names after := by
  rw [names, segments_slash, List.filter_append]
  rfl

theorem names_empty : names "" = [] := by
  rw [names, segments_eq_singleton List.not_mem_nil]
  rfl

-- A slash at the end means nothing.
theorem names_slash_empty (before : String) : names (before ++ "/") = names before := by
  have h := names_slash before ""
  rw [String.append_empty, names_empty, List.append_nil] at h
  exact h

theorem exists_eq_append_slash {dir : String} (h : dir.toList.getLast? = some '/') :
    ∃ before, dir = before ++ "/" := by
  obtain ⟨cs, hcs⟩ := List.getLast?_eq_some_iff.mp h
  refine ⟨String.ofList cs, ?_⟩
  rw [← String.toList_inj, String.toList_append, String.toList_ofList, hcs]
  rfl

/-- A name that is one segment of a path and means something there. -/
structure IsName (name : String) : Prop where
  slash : '/' ∉ name.toList
  ne_empty : name ≠ ""
  ne_dot : name ≠ "."

theorem names_of_isName {name : String} (h : IsName name) : names name = [name] := by
  rw [names, segments_eq_singleton h.slash]
  simp [h.ne_empty, h.ne_dot]

theorem joinPath_empty (file : String) : joinPath "" file = file := by
  rw [joinPath, if_pos (by rfl), String.empty_append]

theorem names_joinPath (dir : String) {file : String} (h : IsName file) :
    names (joinPath dir file) = names dir ++ [file] := by
  rw [← names_of_isName h]
  by_cases hempty : dir = ""
  · rw [hempty, joinPath_empty, names_empty, List.nil_append]
  · have hnot : dir.isEmpty = false := by simpa using hempty
    by_cases hslash : dir.toList.getLast? = some '/'
    · rw [joinPath, if_pos (by simp [hslash])]
      obtain ⟨before, rfl⟩ := exists_eq_append_slash hslash
      rw [names_slash, names_slash_empty]
    · rw [joinPath, if_neg (by simp [hnot, hslash]), names_slash]

theorem isAbsolute_joinPath (dir : String) {file : String} (h : IsName file) :
    isAbsolute (joinPath dir file) = isAbsolute dir := by
  by_cases hempty : dir = ""
  · have hfile : file.toList.head? ≠ some '/' := fun hhead => h.slash (List.mem_of_head? hhead)
    rw [hempty, joinPath_empty, isAbsolute, decide_eq_false hfile]
    rfl
  · have hne : dir.toList ≠ [] := by simpa using hempty
    have hhead (more : String) : (dir ++ more).toList.head? = dir.toList.head? := by
      rw [String.toList_append, List.head?_append_of_ne_nil _ hne]
    rw [isAbsolute, isAbsolute, joinPath]
    split
    · rw [hhead]
    · rw [String.append_assoc, hhead]

end Path

namespace FileTree

variable {t u : FileTree}

theorem node?_put_of_ne (node : FileNode) {place other : List String} (h : other ≠ place) :
    FileTree.node? (t.put place node) other = t.node? other := by
  rw [node?, node?, Table.get?_put, if_neg h]

theorem node?_put_self (node : FileNode) {place : List String}
    (h : t.node? place ≠ some .directory) :
    FileTree.node? (t.put place node) place = some node := by
  rw [node?, Table.get?_put, if_pos rfl, if_neg]
  intro hthere
  rw [node?, if_pos hthere] at h
  exact h rfl

/-- The directories of one tree are directories in the other one. -/
def KeepsDirectories (t u : FileTree) : Prop :=
  ∀ place, t.node? place = some .directory → u.node? place = some .directory

theorem KeepsDirectories.refl (t : FileTree) : t.KeepsDirectories t := fun _ h => h

theorem KeepsDirectories.trans {v : FileTree} (h : t.KeepsDirectories u)
    (h' : u.KeepsDirectories v) : t.KeepsDirectories v := fun place hp => h' place (h place hp)

theorem keepsDirectories_put (node : FileNode) {place : List String}
    (h : t.node? place ≠ some .directory) : KeepsDirectories t (t.put place node) := by
  intro other hother
  have hne : other ≠ place := by
    rintro rfl
    exact h hother
  rw [node?_put_of_ne node hne, hother]

theorem walk_append (t : FileTree) (place names more : List String) :
    t.walk place (names ++ more) =
      (t.walk place names).bind fun reached => t.walk reached more := by
  induction names generalizing place with
  | nil => rfl
  | cons name rest ih =>
    simp only [List.cons_append, walk]
    split
    · rfl
    · rfl
    · split
      · exact ih _
      · split
        · rfl
        · exact ih _

-- What one name of a path does.
theorem walk_cons_eq_ok_iff {place rest reached : List String} {name : String} :
    t.walk place (name :: rest) = .ok reached ↔
      t.node? place = some .directory ∧ (name = ".." ∨ ¬ longestName < name.utf8ByteSize) ∧
        t.walk (if name = ".." then back place else place ++ [name]) rest = .ok reached := by
  rw [walk]
  split
  · rename_i hnode
    simp [hnode]
  · rename_i hnode
    simp [hnode]
  · rename_i hnode
    rw [hnode, and_iff_right rfl]
    by_cases hback : name = ".."
    · simp [hback]
    · by_cases hlong : longestName < name.utf8ByteSize
      · simp [hback, hlong]
      · simp [hback, hlong]

-- All that a walk depends on are the directories on the way.
theorem KeepsDirectories.walk (h : t.KeepsDirectories u) {place names reached : List String}
    (hwalk : t.walk place names = .ok reached) : u.walk place names = .ok reached := by
  induction names generalizing place with
  | nil => exact hwalk
  | cons name rest ih =>
    obtain ⟨hnode, hname, hrest⟩ := walk_cons_eq_ok_iff.mp hwalk
    exact walk_cons_eq_ok_iff.mpr ⟨h place hnode, hname, ih hrest⟩

theorem resolve_eq_ok_iff {path : String} {place : List String} :
    t.resolve path = .ok place ↔
      ('\x00' ∉ path.toList ∧ ¬ longestPath < path.utf8ByteSize ∧ path.isEmpty = false) ∧
        t.walk (if Path.isAbsolute path then root else []) (Path.names path) = .ok place := by
  unfold FileTree.resolve
  split
  · rename_i hnul
    simp [hnul]
  · split
    · rename_i hlong
      simp [hlong]
    · split
      · rename_i hempty
        simp [hempty]
      · rename_i hnul hlong hempty
        exact (and_iff_right ⟨hnul, hlong, eq_false_of_ne_true hempty⟩).symm

theorem KeepsDirectories.resolve (h : t.KeepsDirectories u) {path : String} {place : List String}
    (hpath : t.resolve path = .ok place) : u.resolve path = .ok place := by
  rw [resolve_eq_ok_iff] at hpath ⊢
  exact ⟨hpath.1, h.walk hpath.2⟩

/-- The path of a directory leads to a place, from the working directory if it is empty. -/
structure LeadsTo (t : FileTree) (dir : String) (place : List String) : Prop where
  walk : t.walk (if Path.isAbsolute dir then root else []) (Path.names dir) = .ok place
  node? : t.node? place = some .directory

theorem LeadsTo.of_keepsDirectories {dir : String} {place : List String} (h : t.LeadsTo dir place)
    (hkeeps : t.KeepsDirectories u) : u.LeadsTo dir place where
  walk := hkeeps.walk h.walk
  node? := hkeeps place h.node?

theorem LeadsTo.of_empty (t : FileTree) : t.LeadsTo "" [] where
  walk := rfl
  node? := rfl

theorem LeadsTo.resolve_joinPath {dir file : String} {place reached : List String}
    (h : t.LeadsTo dir place) (hfile : Path.IsName file) (hdots : file ≠ "..")
    (hpath : t.resolve (joinPath dir file) = .ok reached) : reached = place ++ [file] := by
  obtain ⟨-, hwalk⟩ := resolve_eq_ok_iff.mp hpath
  rw [Path.names_joinPath dir hfile, Path.isAbsolute_joinPath dir hfile, walk_append,
    h.walk] at hwalk
  obtain ⟨-, -, hreached⟩ := walk_cons_eq_ok_iff.mp hwalk
  rw [if_neg hdots] at hreached
  exact (Except.ok.inj hreached).symm

end FileTree

end LinkedSheets
