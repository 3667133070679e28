import Mathlib.Data.List.Infix

/-!
# What begins where

A text may have a character only where something begins, such as an escape. If what begins there
does not depend on the text behind it, texts of that kind can be put together from such texts.
-/

namespace LinkedSheets.Text

/-- Wherever a text has `a`, what it has from there on satisfies `p`. -/
def EachBegins (a : Char) (p : List Char → Prop) (cs : List Char) : Prop :=
  ∀ rest, a :: rest <:+ cs → p (a :: rest)

variable {a : Char} {p : List Char → Prop}

theorem eachBegins_of_not_mem {cs : List Char} (h : a ∉ cs) : EachBegins a p cs := by
  intro rest hsuffix
  exact absurd (hsuffix.subset List.mem_cons_self) h

theorem EachBegins.of_suffix {cs ds : List Char} (h : EachBegins a p ds) (hsuffix : cs <:+ ds) :
    EachBegins a p cs :=
  fun rest hrest => h rest (hrest.trans hsuffix)

theorem eachBegins_cons {c : Char} {cs : List Char} (hc : c = a → p (c :: cs))
    (h : EachBegins a p cs) : EachBegins a p (c :: cs) := by
  intro rest hsuffix
  rw [List.suffix_cons_iff] at hsuffix
  rcases hsuffix with heq | hsuffix
  · rw [heq]
    exact hc (List.cons.inj heq).1.symm
  · exact h rest hsuffix

theorem eachBegins_append (hmore : ∀ cs ds, p cs → p (cs ++ ds)) {cs ds : List Char}
    (hc : EachBegins a p cs) (hd : EachBegins a p ds) : EachBegins a p (cs ++ ds) := by
  induction cs with
  | nil => exact hd
  | cons c rest ih =>
    refine eachBegins_cons ?_ (ih (hc.of_suffix (List.suffix_cons c rest)))
    rintro rfl
    exact hmore _ ds (hc rest List.suffix_rfl)

theorem eachBegins_flatMap {α : Type} (hmore : ∀ cs ds, p cs → p (cs ++ ds)) {f : α → List Char}
    {xs : List α} (h : ∀ x ∈ xs, EachBegins a p (f x)) : EachBegins a p (xs.flatMap f) := by
  induction xs with
  | nil => exact eachBegins_of_not_mem List.not_mem_nil
  | cons x rest ih =>
    rw [List.forall_mem_cons] at h
    rw [List.flatMap_cons]
    exact eachBegins_append hmore h.1 (ih h.2)

end LinkedSheets.Text
