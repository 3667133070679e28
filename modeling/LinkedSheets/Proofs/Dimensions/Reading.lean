import LinkedSheets.Dimensions
import LinkedSheets.Proofs.Stepwise
import LinkedSheets.Proofs.Table.Filling
import LinkedSheets.Proofs.Text.Lines
import LinkedSheets.Proofs.Text.Scanning

/-!
# Reading recorded dimensions

A file of dimensions is read if each of its lines says nothing or has an entry, and else the first
line that does neither is reported. What is read has the entries of all lines, the last one for each
name, and entries that are written line by line are read back as they are.
-/

namespace LinkedSheets.Dimensions

open Text

/-- A line that says nothing: there are only blanks on it, or the first other character is `#`. -/
inductive Skips : List Char → Prop where
  | blank {line : List Char} (h : ∀ c ∈ line, isBlank c = true) : Skips line
  | comment {blanks : List Char} (h : ∀ c ∈ blanks, isBlank c = true) (rest : List Char) :
      Skips (blanks ++ '#' :: rest)

/-- A line with an entry: more than blanks before its first tab, which are the name, and the area
after it, both without the blanks around them. -/
inductive Holds : List Char → String × String → Prop where
  | entry {before : List Char} (htab : '\t' ∉ before) (hname : ∃ c ∈ before, isBlank c = false)
      (after : List Char) :
      Holds (before ++ '\t' :: after) (String.ofList (trim before), String.ofList (trim after))

/-- What keeps a line from having an entry. -/
inductive Lacks : List Char → LineProblem → Prop where
  | tab {line : List Char} (h : '\t' ∉ line) : Lacks line .noTab
  | name {before : List Char} (htab : '\t' ∉ before) (h : ∀ c ∈ before, isBlank c = true)
      (after : List Char) : Lacks (before ++ '\t' :: after) .noName

/-- The entries on lines, one after the other. -/
inductive Entries : List (List Char) → List (String × String) → Prop where
  | nil : Entries [] []
  | skip {line : List Char} {rest : List (List Char)} {es : List (String × String)}
      (h : Skips line) (hrest : Entries rest es) : Entries (line :: rest) es
  | entry {line : List Char} {rest : List (List Char)} {e : String × String}
      {es : List (String × String)} (hskip : ¬ Skips line) (h : Holds line e)
      (hrest : Entries rest es) : Entries (line :: rest) (e :: es)

/-- A line that says nothing or has an entry. -/
def Fits (line : List Char) : Prop := ¬ Skips line → ∃ e, Holds line e

/-- The first line that does not fit, and what is wrong with it; lines count from 1. -/
inductive Breaks : List (List Char) → LineError → Prop where
  | line {before : List (List Char)} (hbefore : ∀ l ∈ before, Fits l) {line : List Char}
      (hskip : ¬ Skips line) {problem : LineProblem} (h : Lacks line problem)
      (after : List (List Char)) : Breaks (before ++ line :: after) ⟨before.length + 1, problem⟩

theorem isSkipped_iff {line : List Char} : isSkipped line = true ↔ Skips line := by
  constructor
  · intro h
    obtain ⟨blanks, hblanks, hline⟩ := exists_blanks line
    rw [isSkipped] at h
    split at h
    · rename_i hnil
      exact .blank (trimStart_eq_nil_iff.mp hnil)
    · rename_i c rest hcons
      rw [decide_eq_true_eq] at h
      rw [hline, hcons, h]
      exact .comment hblanks rest
  · intro h
    cases h with
    | blank h => rw [isSkipped, trimStart_eq_nil_iff.mpr h]
    | comment h rest =>
      rw [isSkipped, trimStart_append h, trimStart_cons_of_not_isBlank (by decide)]
      rfl

theorem readLine_append {before : List Char} (htab : '\t' ∉ before) (after : List Char) :
    readLine (before ++ '\t' :: after) =
      if (trim before).isEmpty then .error .noName
      else .ok (String.ofList (trim before), String.ofList (trim after)) := by
  rw [readLine, splitOnce_append htab]

theorem readLine_of_holds {line : List Char} {e : String × String} (h : Holds line e) :
    readLine line = .ok e := by
  cases h with
  | entry htab hname after =>
    obtain ⟨c, hc, hblank⟩ := hname
    rw [readLine_append htab, if_neg]
    intro hempty
    have hall := trim_eq_nil_iff.mp (List.isEmpty_iff.mp hempty) c hc
    rw [hblank] at hall
    exact Bool.false_ne_true hall

theorem readLine_of_lacks {line : List Char} {problem : LineProblem} (h : Lacks line problem) :
    readLine line = .error problem := by
  cases h with
  | tab h => rw [readLine, splitOnce_eq_none.mpr h]
  | name htab h after =>
    rw [readLine_append htab, if_pos (List.isEmpty_iff.mpr (trim_eq_nil_iff.mpr h))]

theorem holds_or_lacks (line : List Char) :
    (∃ e, Holds line e) ∨ ∃ problem, Lacks line problem := by
  by_cases htab : '\t' ∈ line
  · obtain ⟨before, after, rfl, hbefore⟩ := List.eq_append_cons_of_mem htab
    by_cases hname : ∃ c ∈ before, isBlank c = false
    · exact Or.inl ⟨_, .entry hbefore hname after⟩
    · refine Or.inr ⟨_, .name hbefore (fun c hc => ?_) after⟩
      rw [← Bool.not_eq_false]
      exact fun hblank => hname ⟨c, hc, hblank⟩
  · exact Or.inr ⟨_, .tab htab⟩

theorem readFrom_of_skips {line : List Char} (h : Skips line) (n : Nat) (d : Dimensions)
    (rest : List (List Char)) : readFrom n d (line :: rest) = readFrom (n + 1) d rest := by
  rw [readFrom, if_pos (isSkipped_iff.mpr h)]

theorem readFrom_of_holds {line : List Char} (hskip : ¬ Skips line) {e : String × String}
    (h : Holds line e) (n : Nat) (d : Dimensions) (rest : List (List Char)) :
    readFrom n d (line :: rest) = readFrom (n + 1) (d.put e.1 e.2) rest := by
  rw [readFrom, if_neg (mt isSkipped_iff.mp hskip), readLine_of_holds h]

theorem readFrom_of_lacks {line : List Char} (hskip : ¬ Skips line) {problem : LineProblem}
    (h : Lacks line problem) (n : Nat) (d : Dimensions) (rest : List (List Char)) :
    readFrom n d (line :: rest) = .error ⟨n, problem⟩ := by
  rw [readFrom, if_neg (mt isSkipped_iff.mp hskip), readLine_of_lacks h]

-- Lines that are skipped count as well as those with entries.
theorem readFrom_append {before : List (List Char)} {es : List (String × String)}
    (h : Entries before es) (n : Nat) (d : Dimensions) (rest : List (List Char)) :
    readFrom n d (before ++ rest) =
      readFrom (n + before.length) (es.foldl (fun t e => t.put e.1 e.2) d) rest := by
  induction h generalizing n d with
  | nil => rfl
  | skip h _ ih =>
    rw [List.cons_append, readFrom_of_skips h, ih, List.length_cons, Nat.add_right_comm,
      ← Nat.add_assoc]
  | entry hskip h _ ih =>
    rw [List.cons_append, readFrom_of_holds hskip h, ih, List.length_cons, Nat.add_right_comm,
      ← Nat.add_assoc, List.foldl_cons]

theorem exists_entries_iff {ls : List (List Char)} :
    (∃ es, Entries ls es) ↔ ∀ line ∈ ls, Fits line := by
  constructor
  · rintro ⟨es, h⟩
    induction h with
    | nil => exact List.forall_mem_nil _
    | skip h _ ih => exact List.forall_mem_cons.mpr ⟨fun hskip => absurd h hskip, ih⟩
    | entry _ h _ ih => exact List.forall_mem_cons.mpr ⟨fun _ => ⟨_, h⟩, ih⟩
  · intro h
    induction ls with
    | nil => exact ⟨[], .nil⟩
    | cons line rest ih =>
      rw [List.forall_mem_cons] at h
      obtain ⟨es, hes⟩ := ih h.2
      by_cases hskip : Skips line
      · exact ⟨es, .skip hskip hes⟩
      · obtain ⟨e, he⟩ := h.1 hskip
        exact ⟨e :: es, .entry hskip he hes⟩

theorem entries_or_breaks (ls : List (List Char)) :
    (∃ es, Entries ls es) ∨ ∃ e, Breaks ls e := by
  rcases forall_or_first Fits ls with h | ⟨before, line, after, rfl, hbefore, hline⟩
  · exact Or.inl (exists_entries_iff.mpr h)
  · obtain ⟨hskip, hnone⟩ := Classical.not_imp.mp hline
    obtain ⟨problem, h⟩ := (holds_or_lacks line).resolve_left hnone
    exact Or.inr ⟨_, .line hbefore hskip h after⟩

theorem read_of_entries {content : String} {es : List (String × String)}
    (h : Entries (lines content.toList) es) : read content = .ok (Table.ofList es) := by
  have hread := readFrom_append h 1 .empty []
  rw [List.append_nil] at hread
  exact hread

theorem read_of_breaks {content : String} {e : LineError}
    (h : Breaks (lines content.toList) e) : read content = .error e := by
  rw [read]
  generalize lines content.toList = ls at h
  obtain ⟨hbefore, hskip, h, after⟩ := h
  obtain ⟨es, hes⟩ := exists_entries_iff.mpr hbefore
  rw [readFrom_append hes, readFrom_of_lacks hskip h, Nat.add_comm]

theorem read_eq_ok_iff {content : String} {d : Dimensions} :
    read content = .ok d ↔ ∃ es, Entries (lines content.toList) es ∧ Table.ofList es = d := by
  constructor
  · intro h
    rcases entries_or_breaks (lines content.toList) with ⟨es, hes⟩ | ⟨e, hbreaks⟩
    · rw [read_of_entries hes] at h
      exact ⟨es, hes, Except.ok.inj h⟩
    · rw [read_of_breaks hbreaks] at h
      cases h
  · rintro ⟨es, hes, rfl⟩
    exact read_of_entries hes

theorem read_eq_error_iff {content : String} {e : LineError} :
    read content = .error e ↔ Breaks (lines content.toList) e := by
  constructor
  · intro h
    rcases entries_or_breaks (lines content.toList) with ⟨es, hes⟩ | ⟨e', hbreaks⟩
    · rw [read_of_entries hes] at h
      cases h
    · rw [read_of_breaks hbreaks] at h
      cases h
      exact hbreaks
  · exact read_of_breaks

theorem exists_read_eq_ok_iff {content : String} :
    (∃ d, read content = .ok d) ↔ ∀ line ∈ lines content.toList, Fits line := by
  rw [← exists_entries_iff]
  simp only [read_eq_ok_iff]
  exact ⟨fun ⟨_, es, hes, _⟩ => ⟨es, hes⟩, fun ⟨es, hes⟩ => ⟨_, es, hes, rfl⟩⟩

/-- Dimensions with the last one of the entries for each name, in the order of the first ones. -/
structure Keeps (d : Dimensions) (es : List (String × String)) : Prop where
  names : d.keys = (es.map Prod.fst).eraseDups
  last : ∀ e, e ∈ d.entries ↔ ∃ before after, es = before ++ e :: after ∧ e.1 ∉ after.map Prod.fst

theorem keeps_ofList (es : List (String × String)) : Keeps (Table.ofList es) es where
  names := Table.keys_ofList es
  last _ := Table.mem_entries_ofList

/-- A name and an area that are read back from a line with a tab between them. -/
structure Writable (e : String × String) : Prop where
  name_ne : e.1 ≠ ""
  name_trim : IsTrim e.1.toList
  name_mark : e.1.toList.head? ≠ some '#'
  name_tab : '\t' ∉ e.1.toList
  name_newline : '\n' ∉ e.1.toList
  area_trim : IsTrim e.2.toList
  area_newline : '\n' ∉ e.2.toList

def entryLine (e : String × String) : String := e.1 ++ "\t" ++ e.2

theorem toList_entryLine (e : String × String) :
    (entryLine e).toList = e.1.toList ++ '\t' :: e.2.toList := by
  rw [entryLine, String.toList_append, String.toList_append, List.append_assoc]
  rfl

namespace Writable

variable {e : String × String}

-- The name has a first character, which is neither a blank nor the mark of a comment.
theorem exists_first (h : Writable e) :
    ∃ c rest, e.1.toList = c :: rest ∧ isBlank c = false ∧ c ≠ '#' := by
  have hne : e.1.toList ≠ [] := fun hnil => h.name_ne (String.toList_eq_nil_iff.mp hnil)
  obtain ⟨c, rest, hcons⟩ := List.exists_cons_of_ne_nil hne
  have hmark := h.name_mark
  have hfirst := h.name_trim.first
  rw [hcons] at hmark hfirst
  exact ⟨c, rest, hcons, hfirst c rfl, fun hc => hmark (congrArg some hc)⟩

theorem not_skips (h : Writable e) : ¬ Skips (entryLine e).toList := by
  obtain ⟨c, rest, hcons, hblank, hmark⟩ := h.exists_first
  rw [← isSkipped_iff, toList_entryLine, hcons, List.cons_append, isSkipped,
    trimStart_cons_of_not_isBlank hblank, decide_eq_true_eq]
  exact hmark

theorem holds (h : Writable e) : Holds (entryLine e).toList e := by
  obtain ⟨c, rest, hcons, hblank, -⟩ := h.exists_first
  have hname : ∃ c ∈ e.1.toList, isBlank c = false :=
    ⟨c, by rw [hcons]; exact List.mem_cons_self, hblank⟩
  have hholds := Holds.entry h.name_tab hname e.2.toList
  rw [h.name_trim.trim_eq, h.area_trim.trim_eq, String.ofList_toList, String.ofList_toList,
    ← toList_entryLine] at hholds
  exact hholds

theorem isLine (h : Writable e) : IsLine (entryLine e).toList := by
  rw [toList_entryLine]
  refine ⟨List.append_ne_nil_of_right_ne_nil _ (List.cons_ne_nil _ _), ?_, ?_⟩
  · rw [List.mem_append, List.mem_cons]
    rintro (hname | htab | harea)
    · exact h.name_newline hname
    · exact absurd htab (by decide)
    · exact h.area_newline harea
  · -- The last character is that of the area, or else the tab.
    rw [List.getLast?_append, List.getLast?_cons, Option.some_or, ne_eq, Option.some.injEq]
    cases hlast : e.2.toList.getLast? with
    | none => decide
    | some c =>
      rintro rfl
      exact absurd (h.area_trim.last '\r' hlast) (by decide)

end Writable

/-- The entries on lines of their own. -/
def listing (lineEnd : LineEnd) (closed : Bool) (es : List (String × String)) : String :=
  joinLines lineEnd closed (es.map entryLine)

theorem entries_map_entryLine {es : List (String × String)} (h : ∀ e ∈ es, Writable e) :
    Entries ((es.map entryLine).map String.toList) es := by
  induction es with
  | nil => exact .nil
  | cons e rest ih =>
    rw [List.forall_mem_cons] at h
    exact .entry h.1.not_skips h.1.holds (ih h.2)

theorem entries_listing (lineEnd : LineEnd) (closed : Bool) {es : List (String × String)}
    (h : ∀ e ∈ es, Writable e) : Entries (lines (listing lineEnd closed es).toList) es := by
  cases es with
  | nil =>
    -- A single line end is a blank line.
    have hblank : Entries [[]] [] := .skip (.blank (List.forall_mem_nil _)) .nil
    cases closed with
    | false => exact .nil
    | true => cases lineEnd <;> exact hblank
  | cons e rest =>
    have hne : (e :: rest).map entryLine ≠ [] := List.cons_ne_nil _ _
    have hlines : ∀ l ∈ (e :: rest).map entryLine, IsLine l.toList :=
      List.forall_mem_map.mpr fun e he => (h e he).isLine
    rw [listing, lines_joinLines lineEnd closed hne hlines]
    exact entries_map_entryLine h

theorem read_listing (lineEnd : LineEnd) (closed : Bool) {es : List (String × String)}
    (h : ∀ e ∈ es, Writable e) (hnodup : (es.map Prod.fst).Nodup) :
    read (listing lineEnd closed es) = .ok ⟨es⟩ := by
  rw [read_of_entries (entries_listing lineEnd closed h)]
  exact congrArg Except.ok (congrArg Table.mk (Table.entries_ofList_of_nodup hnodup))

/-- A text is read as dimensions just if all its lines fit, and else the first one that does not is
reported. Of the entries on its lines the last one for each name is kept, and entries that can be
written on lines, no two for one name, are read back from them. -/
theorem read_grammar :
    (∀ content, (∃ d, read content = .ok d) ↔ ∀ line ∈ lines content.toList, Fits line) ∧
      (∀ content e, read content = .error e ↔ Breaks (lines content.toList) e) ∧
      (∀ content d, read content = .ok d →
        ∃ es, Entries (lines content.toList) es ∧ d.Keeps es) ∧
      ∀ lineEnd closed es, (∀ e ∈ es, Writable e) → (es.map Prod.fst).Nodup →
        read (listing lineEnd closed es) = .ok ⟨es⟩ := by
  refine ⟨fun _ => exists_read_eq_ok_iff, fun _ _ => read_eq_error_iff, fun content d h => ?_,
    fun lineEnd closed es => read_listing lineEnd closed⟩
  obtain ⟨es, hes, rfl⟩ := read_eq_ok_iff.mp h
  exact ⟨es, hes, keeps_ofList es⟩

-- A name that comes twice, and sheets with and without an area.
theorem read_grammar_repeated :
    let content := "# exported\nA\tA1\n\nB\tA1\nA\tC3\n"
    let kept : Dimensions := ⟨[("A", "C3"), ("B", "A1")]⟩
    let sheets := [("Cost model", "A1:C3"), ("S", "")]
    (read content = .ok kept ∧ ∃ es, Entries (lines content.toList) es ∧ kept.Keeps es) ∧
      (∀ e ∈ sheets, Writable e) ∧ (sheets.map Prod.fst).Nodup ∧
        read (listing .crlf false sheets) = .ok ⟨sheets⟩ := by
  intro content kept sheets
  have hread : read content = .ok kept := by
    simp only [content, kept]
    rfl
  have hmodel : Writable ("Cost model", "A1:C3") :=
    { name_ne := by decide
      name_trim := by constructor <;> rintro _ ⟨⟩ <;> rfl
      name_mark := by decide
      name_tab := by decide
      name_newline := by decide
      area_trim := by constructor <;> rintro _ ⟨⟩ <;> rfl
      area_newline := by decide }
  have hbare : Writable ("S", "") :=
    { name_ne := by decide
      name_trim := by constructor <;> rintro _ ⟨⟩ <;> rfl
      name_mark := by decide
      name_tab := by decide
      name_newline := by decide
      area_trim := by constructor <;> rintro _ ⟨⟩
      area_newline := by decide }
  have hsheets : ∀ e ∈ sheets, Writable e :=
    List.forall_mem_cons.mpr ⟨hmodel, List.forall_mem_singleton.mpr hbare⟩
  have hnodup : (sheets.map Prod.fst).Nodup := by decide
  exact ⟨⟨hread, read_grammar.2.2.1 content kept hread⟩, hsheets, hnodup,
    read_grammar.2.2.2 .crlf false sheets hsheets hnodup⟩

example : read "S\tA1\n  # none\nBroken A1:B2\n" = .error ⟨3, .noTab⟩ := rfl

end LinkedSheets.Dimensions
