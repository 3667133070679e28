import LinkedSheets.Report.Page

/-!
# Pages line by line

What writing a page does to a sink that refuses nothing: either the lines of the page go to the sink
one after the other, or nothing does.
-/

namespace LinkedSheets.Report

open Text

variable {σ ε : Type} {k : Sink σ ε}

/-- The pieces in which lines are written. -/
def piecesOf (lines : List String) : List String := lines.flatMap fun line => [line, "\n"]

theorem join_piecesOf (lines : List String) : String.join (piecesOf lines) = unlines lines := by
  induction lines with
  | nil => rfl
  | cons line rest ih =>
    rw [unlines_cons, ← ih, piecesOf, List.flatMap_cons, List.cons_append, List.cons_append,
      List.nil_append, String.join_cons, String.join_cons, String.append_assoc]
    rfl

theorem piecesOf_append (ls ms : List String) : piecesOf (ls ++ ms) = piecesOf ls ++ piecesOf ms :=
  List.flatMap_append

theorem put_of_acceptsAll (h : k.AcceptsAll) (piece : String) (p : Progress σ) :
    put k piece p = .ok () ⟨k.putAll p.out [piece], p.entries⟩ := by
  obtain ⟨out, entries⟩ := p
  have hnone := h out piece
  simp only [put]
  split
  · rename_i out' heq
    simp only [Sink.putAll, List.foldl_cons, List.foldl_nil, heq]
  · rename_i out' e heq
    rw [heq] at hnone
    exact absurd hnone (Option.some_ne_none e)

theorem putLines_of_acceptsAll (h : k.AcceptsAll) (lines : List String) (p : Progress σ) :
    putLines k lines p = .ok () ⟨k.putAll p.out (piecesOf lines), p.entries⟩ := by
  induction lines generalizing p with
  | nil => rfl
  | cons line rest ih =>
    simp only [putLines, putLine, bind, EStateM.bind, put_of_acceptsAll h, ih]
    rfl

theorem putLines_bind (h : k.AcceptsAll) {α : Type} (lines : List String)
    (next : Unit → Writing σ ε α) (p : Progress σ) :
    (putLines k lines >>= next) p = next () ⟨k.putAll p.out (piecesOf lines), p.entries⟩ := by
  simp only [bind, EStateM.bind, putLines_of_acceptsAll h]

theorem log_bind {α : Type} (entries : List LogEntry) (next : Unit → Writing σ ε α)
    (p : Progress σ) : (log entries >>= next) p = next () ⟨p.out, p.entries ++ entries⟩ := rfl

theorem take_bind {α β : Type} (found : Logged (Except ReportError α))
    (next : α → Writing σ ε β) (p : Progress σ) :
    (take found >>= next) p =
      match found.result with
      | .ok a => next a ⟨p.out, p.entries ++ found.entries⟩
      | .error e => .error (.report e) ⟨p.out, p.entries ++ found.entries⟩ := by
  obtain ⟨entries, result⟩ := found
  cases result with
  | ok a => rfl
  | error e => rfl

/-- What is found out before anything of a page is written: its lines, or why it has none. -/
def checked (r : Report) (name : String) : Logged (Except ReportError (List String)) :=
  match r.workbook.sheet? name with
  | none => ⟨[], .error (.unknownSheet name)⟩
  | some s =>
      let found := r.area s
      match found.result with
      | .error e => ⟨found.entries, .error e⟩
      | .ok area =>
          if maxCells < area.cellCount then
            ⟨found.entries, .error (.gridTooLarge s.name area.cellCount)⟩
          else match r.stamp with
            | .error e => ⟨found.entries, .error e⟩
            | .ok stamp =>
                ⟨found.entries ++ [compiling s area], .ok (r.pageLines s area stamp)⟩

-- All checks come before the first piece, and no piece is refused after them.
theorem writePage_of_acceptsAll (h : k.AcceptsAll) (r : Report) (name : String) (p : Progress σ) :
    r.writePage k name p =
      match (r.checked name).result with
      | .ok lines =>
          .ok () ⟨k.putAll p.out (piecesOf lines), p.entries ++ (r.checked name).entries⟩
      | .error e => .error (.report e) ⟨p.out, p.entries ++ (r.checked name).entries⟩ := by
  unfold writePage checked
  rw [take_bind]
  cases r.workbook.sheet? name with
  | none => rfl
  | some s =>
    simp only [Option.elim_some, take_bind, List.append_nil]
    cases (r.area s).result with
    | error e => rfl
    | ok area =>
      by_cases hsize : maxCells < area.cellCount
      · simp only [hsize, if_true]
        rfl
      · simp only [hsize, if_false, take_bind]
        cases r.stamp with
        | error e => simp only [List.append_nil]
        | ok stamp =>
          simp only [log_bind, putLines_bind h, putLines_of_acceptsAll h, pageLines,
            piecesOf_append, Sink.putAll_append, List.append_assoc, List.nil_append]

theorem draft_eq (r : Report) (name : String) :
    r.draft name =
      match (r.checked name).result with
      | .ok lines => ⟨unlines lines, (r.checked name).entries, none⟩
      | .error e => ⟨"", (r.checked name).entries, some e⟩ := by
  unfold draft
  rw [writePage_of_acceptsAll Sink.acceptsAll_text]
  cases (r.checked name).result with
  | ok lines =>
    simp only [Sink.putAll_text, join_piecesOf, String.empty_append, List.nil_append]
  | error e => simp only [List.nil_append]

theorem compile_eq (r : Report) (name : String) :
    r.compile name = ⟨(r.checked name).entries, (r.checked name).result.map unlines⟩ := by
  unfold compile
  rw [draft_eq]
  cases (r.checked name).result with
  | ok lines => rfl
  | error e => rfl

-- A page that cannot be made has not been begun.
theorem text_draft_of_failure {r : Report} {name : String} {e : ReportError}
    (h : (r.draft name).failure = some e) : (r.draft name).text = "" := by
  rw [draft_eq] at h ⊢
  cases hc : (r.checked name).result with
  | ok lines => simp [hc] at h
  | error e => rfl

end LinkedSheets.Report
