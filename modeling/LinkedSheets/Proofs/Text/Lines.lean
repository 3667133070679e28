import LinkedSheets.Proofs.Text.Trimming
import LinkedSheets.Text.Lines

/-!
# Joined lines

Lines that are joined by LF or by CRLF, with or without another one at the end, are what the text is
cut into again.
-/

namespace LinkedSheets.Text

theorem trimStart_eq_nil_iff {cs : List Char} :
    trimStart cs = [] ↔ ∀ c ∈ cs, isBlank c = true := List.dropWhile_eq_nil_iff

theorem trimStart_append {blanks : List Char} (h : ∀ c ∈ blanks, isBlank c = true)
    (rest : List Char) : trimStart (blanks ++ rest) = trimStart rest :=
  List.dropWhile_append_of_pos h

theorem trim_surrounded {before cs after : List Char} (hbefore : ∀ c ∈ before, isBlank c = true)
    (hafter : ∀ c ∈ after, isBlank c = true) (h : ∀ c ∈ cs, isBlank c = false) :
    trim (before ++ cs ++ after) = cs := by
  have hafter' : ∀ c ∈ after.reverse, isBlank c = true :=
    fun c hc => hafter c (List.mem_reverse.mp hc)
  have hend : trimEnd (cs ++ after) = trimEnd cs := by
    rw [trimEnd_eq, List.reverse_append, trimStart_append hafter', trimEnd_eq]
  rw [trim, List.append_assoc, trimStart_append hbefore, trimEnd_trimStart, hend,
    ← trimEnd_trimStart]
  exact trim_eq_self h

theorem exists_blanks (cs : List Char) :
    ∃ blanks, (∀ c ∈ blanks, isBlank c = true) ∧ cs = blanks ++ trimStart cs :=
  ⟨cs.takeWhile isBlank, fun _ hc => List.mem_takeWhile_imp hc,
    List.takeWhile_append_dropWhile.symm⟩

theorem trim_eq_nil_iff {cs : List Char} : trim cs = [] ↔ ∀ c ∈ cs, isBlank c = true := by
  constructor
  · intro h c hc
    rw [← Bool.not_eq_false]
    intro hblank
    have hmem := mem_trim hc hblank
    rw [h] at hmem
    exact List.not_mem_nil hmem
  · intro h
    rw [trim, trimStart_eq_nil_iff.mpr h]
    rfl

/-- A text without blanks around it. -/
structure IsTrim (cs : List Char) : Prop where
  first : ∀ c ∈ cs.head?, isBlank c = false
  last : ∀ c ∈ cs.getLast?, isBlank c = false

theorem trimStart_of_head? {cs : List Char} (h : ∀ c ∈ cs.head?, isBlank c = false) :
    trimStart cs = cs := by
  cases cs with
  | nil => rfl
  | cons c rest => exact trimStart_cons_of_not_isBlank (h c rfl) rest

theorem IsTrim.trim_eq {cs : List Char} (h : IsTrim cs) : trim cs = cs := by
  have hlast : trimStart cs.reverse = cs.reverse :=
    trimStart_of_head? (by rw [List.head?_reverse]; exact h.last)
  rw [trim, trimStart_of_head? h.first, trimEnd_eq, hlast, List.reverse_reverse]

inductive LineEnd where
  | lf
  | crlf

def LineEnd.text : LineEnd → String
  | .lf => "\n"
  | .crlf => "\r\n"

/-- A line that stays one line, whatever ends it and whatever follows. -/
structure IsLine (line : List Char) : Prop where
  ne_nil : line ≠ []
  newline : '\n' ∉ line
  last : line.getLast? ≠ some '\r'

theorem linesFrom_append {line : List Char} (h : '\n' ∉ line) (before rest : List Char) :
    linesFrom before (line ++ rest) = linesFrom (line.reverse ++ before) rest := by
  induction line generalizing before with
  | nil => rfl
  | cons c more ih =>
    rw [List.mem_cons, not_or] at h
    rw [List.cons_append, linesFrom, if_neg (Ne.symm h.1), ih h.2, List.reverse_cons,
      List.append_assoc, List.singleton_append]

theorem endedLine_reverse {line : List Char} (h : line.getLast? ≠ some '\r') :
    endedLine line.reverse = line := by
  unfold endedLine
  split
  · rename_i before hreverse
    rw [← List.head?_reverse, hreverse] at h
    exact absurd rfl h
  · exact List.reverse_reverse line

theorem lines_append_end {line : List Char} (h : IsLine line) (e : LineEnd) (rest : List Char) :
    lines (line ++ (e.text.toList ++ rest)) = line :: lines rest := by
  rw [lines, linesFrom_append h.newline, List.append_nil]
  cases e with
  | lf =>
    show endedLine line.reverse :: lines rest = line :: lines rest
    rw [endedLine_reverse h.last]
  | crlf =>
    show line.reverse.reverse :: lines rest = line :: lines rest
    rw [List.reverse_reverse]

theorem lines_of_isLine {line : List Char} (h : IsLine line) : lines line = [line] := by
  have hlines := linesFrom_append h.newline [] []
  have hne : (line.reverse ++ []).isEmpty = false := by
    rw [List.append_nil, List.isEmpty_reverse, List.isEmpty_eq_false_iff]
    exact h.ne_nil
  rw [List.append_nil] at hlines
  rw [lines, hlines, linesFrom, if_neg (by rw [hne]; exact Bool.false_ne_true), List.append_nil,
    List.reverse_reverse]

/-- Lines with an end between each two of them, and one at the very end if the text is closed. -/
def joinLines (e : LineEnd) (closed : Bool) (ls : List String) : String :=
  e.text.intercalate ls ++ if closed then e.text else ""

theorem lines_joinLines (e : LineEnd) (closed : Bool) {ls : List String} (hne : ls ≠ [])
    (h : ∀ l ∈ ls, IsLine l.toList) :
    lines (joinLines e closed ls).toList = ls.map String.toList := by
  induction ls with
  | nil => exact absurd rfl hne
  | cons l rest ih =>
    rw [List.forall_mem_cons] at h
    cases rest with
    | nil =>
      cases closed with
      | false =>
        rw [joinLines, String.intercalate_singleton, if_neg Bool.false_ne_true, String.append_empty]
        exact lines_of_isLine h.1
      | true =>
        have hlast := lines_append_end h.1 e []
        rw [List.append_nil] at hlast
        rw [joinLines, String.intercalate_singleton, if_pos rfl, String.toList_append, hlast]
        rfl
    | cons next more =>
      have hjoin : joinLines e closed (l :: next :: more) =
          l ++ (e.text ++ joinLines e closed (next :: more)) := by
        rw [joinLines, String.intercalate_cons_cons, joinLines, String.append_assoc,
          String.append_assoc]
      rw [hjoin, String.toList_append, String.toList_append, lines_append_end h.1,
        ih (List.cons_ne_nil next more) h.2]
      rfl

end LinkedSheets.Text
