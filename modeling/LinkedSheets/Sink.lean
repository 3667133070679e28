/-!
# Sinks

A sink takes text piece by piece. It may refuse a piece, and it is up to the sink what becomes of it
then.
-/

namespace LinkedSheets

/-- What becomes of a sink that is given a piece of text, and its error if it refuses the piece. -/
structure Sink (σ ε : Type) where
  put : σ → String → σ × Option ε

namespace Sink

variable {σ ε : Type}

/-- A text that grows at its end. -/
def text : Sink String Empty := ⟨fun out piece => (out ++ piece, none)⟩

/-- No piece is refused. -/
def AcceptsAll (k : Sink σ ε) : Prop := ∀ out piece, (k.put out piece).2 = none

/-- The sink after some pieces. -/
def putAll (k : Sink σ ε) (out : σ) (pieces : List String) : σ :=
  pieces.foldl (fun out piece => (k.put out piece).1) out

theorem acceptsAll_text : text.AcceptsAll := fun _ _ => rfl

theorem putAll_append (k : Sink σ ε) (out : σ) (ps qs : List String) :
    k.putAll out (ps ++ qs) = k.putAll (k.putAll out ps) qs := List.foldl_append

theorem putAll_text (out : String) (pieces : List String) :
    text.putAll out pieces = out ++ String.join pieces := by
  induction pieces generalizing out with
  | nil => exact String.append_empty.symm
  | cons piece rest ih =>
    rw [String.join_cons, ← String.append_assoc]
    exact ih (out ++ piece)

end Sink

end LinkedSheets
