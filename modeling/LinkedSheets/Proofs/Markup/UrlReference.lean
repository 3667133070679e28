import LinkedSheets.Files.Tree
import LinkedSheets.Proofs.Markup.CellElement
import LinkedSheets.Proofs.Markup.PercentCoding
import LinkedSheets.Proofs.Text.Trimming

/-!
# URL references

Where a link leads to from the page on which it stands. A reference that begins with a scheme leads
away from there; any other one gives a path from the directory of the page. The address of a
sheet's page is a single name, so it leads to the file of the page next to it, unless the sheet's
name itself begins like a scheme.
-/

namespace LinkedSheets.Markup

open Text

def isSchemeChar (c : Char) : Bool := c.isAlphanum || c = '+' || c = '-' || c = '.'

/-- A letter, and then letters, digits and some signs. -/
def isScheme : List Char → Bool
  | [] => false
  | c :: rest => c.isAlpha && rest.all isSchemeChar

/-- The scheme before the first colon of a reference, if it has one. -/
def scheme? (url : List Char) : Option (List Char) :=
  match splitOnce ':' url with
  | some (before, _) => if isScheme before then some before else none
  | none => none

/-- What stands before the query and the fragment. -/
def pathPart (url : List Char) : List Char := url.takeWhile fun c => c ≠ '?' && c ≠ '#'

/-- What stands behind the first number sign of a reference: where on the page it leads to. -/
def fragment? (url : List Char) : Option (List Char) := (splitOnce '#' url).map Prod.snd

/-- Where one name of a path leads to. -/
def enter (place : List String) (name : String) : List String :=
  if name = "" ∨ name = "." then place
  else if name = ".." then FileTree.back place
  else place ++ [name]

/-- The place to which a reference leads from the page in a given place. With a scheme or a slash at
its beginning it does not lead on from there. The names in its path may be percent-encoded. -/
def follow? (page : List String) (url : List Char) : Option (List String) :=
  if (scheme? url).isSome then none
  else match pathPart url with
    | [] => some page
    | '/' :: _ => none
    | path => ((path.splitOn '/').mapM percentDecode?).map fun names =>
        names.foldl enter page.dropLast

theorem toNat_of_isSchemeChar {c : Char} (h : isSchemeChar c = true) :
    0x20 < c.toNat ∧ c.toNat < 0x7F := by
  simp only [isSchemeChar, Char.isAlphanum, Bool.or_eq_true, decide_eq_true_eq] at h
  rcases h with (((h | h) | rfl) | rfl) | rfl
  · have hn := toNat_of_isAlpha h
    omega
  · have hn := toNat_of_isDigit h
    omega
  · decide
  · decide
  · decide

theorem isPlain_of_isSchemeChar {c : Char} (h : isSchemeChar c = true) : isPlain c = true := by
  have hescaped : "\"#%'<>?".toList.all (fun x => !isSchemeChar x) = true := by decide
  have hnot : "\"#%'<>?".toList.contains c = false := by
    rw [← Bool.not_eq_true, List.contains_iff_mem]
    intro hmem
    have hno := List.all_eq_true.mp hescaped c hmem
    rw [h] at hno
    exact Bool.false_ne_true hno
  obtain ⟨hlow, hhigh⟩ := toNat_of_isSchemeChar h
  simp only [isPlain, hnot, hlow, hhigh, decide_true, Bool.and_self, Bool.not_false]

theorem isSchemeChar_of_isScheme {cs : List Char} (h : isScheme cs = true) :
    ∀ c ∈ cs, isSchemeChar c = true := by
  cases cs with
  | nil => nofun
  | cons c rest =>
    rw [isScheme, Bool.and_eq_true, List.all_eq_true] at h
    rw [List.forall_mem_cons]
    refine ⟨?_, h.2⟩
    simp only [isSchemeChar, Char.isAlphanum, h.1, Bool.true_or]

-- Nothing of a scheme is escaped, and no escape belongs to one.
theorem isScheme_flatMap_percentChar (cs : List Char) :
    isScheme (cs.flatMap percentChar) = isScheme cs ∧
      (isScheme cs = true → cs.flatMap percentChar = cs) := by
  by_cases hplain : ∀ c ∈ cs, isPlain c = true
  · rw [flatMap_percentChar_of_isPlain hplain]
    exact ⟨rfl, fun _ => rfl⟩
  · have hnot : isScheme cs = false := by
      rw [← Bool.not_eq_true]
      intro h
      exact hplain fun c hc => isPlain_of_isSchemeChar (isSchemeChar_of_isScheme h c hc)
    have hpercent : '%' ∈ cs.flatMap percentChar := by
      by_contra hpercent
      exact hplain (isPlain_of_not_mem hpercent)
    refine ⟨?_, fun h => absurd (hnot.symm.trans h) Bool.false_ne_true⟩
    rw [hnot, ← Bool.not_eq_true]
    intro h
    exact absurd (isSchemeChar_of_isScheme h '%' hpercent) (by decide)

-- The address of a page has a scheme just if the name of its sheet has.
theorem scheme?_pageHref (sheet : String) :
    scheme? (pageHref sheet).toList = scheme? sheet.toList := by
  have hcolon : isEscapeChar ':' = false := by decide
  have hending : ':' ∉ ".html".toList := by decide
  unfold scheme?
  cases hsplit : splitOnce ':' sheet.toList with
  | none =>
    have hnone : splitOnce ':' (pageHref sheet).toList = none := by
      rw [splitOnce_eq_none] at hsplit ⊢
      rw [toList_pageHref, List.mem_append, not_or]
      exact ⟨fun hmem => hsplit (mem_of_mem_flatMap_percentChar hcolon hmem), hending⟩
    rw [hnone]
  | some parts =>
    obtain ⟨before, after⟩ := parts
    obtain ⟨hsheet, hbefore⟩ := splitOnce_eq_some hsplit
    have hself : percentChar ':' = [':'] := rfl
    have hnot : ':' ∉ before.flatMap percentChar :=
      fun hmem => hbefore (mem_of_mem_flatMap_percentChar hcolon hmem)
    rw [toList_pageHref, hsheet, List.flatMap_append, List.flatMap_cons, hself, List.append_assoc,
      List.append_assoc, List.singleton_append, splitOnce_append hnot]
    obtain ⟨hsame, hkept⟩ := isScheme_flatMap_percentChar before
    simp only [hsame]
    split
    · rename_i hscheme
      rw [hkept hscheme]
    · rfl

theorem enter_pageFile (place : List String) (sheet : String) :
    enter place (pageFile sheet) = place ++ [pageFile sheet] := by
  have hempty : pageFile sheet ≠ "" := pageFile_ne (by decide)
  have hdot : pageFile sheet ≠ "." := pageFile_ne (by decide)
  have hdots : pageFile sheet ≠ ".." := pageFile_ne (by decide)
  rw [enter, if_neg (not_or.mpr ⟨hempty, hdot⟩), if_neg hdots]

/-- A page's link leads to the file of the sheet's page next to the page on which it stands, unless
the name of the sheet begins with a scheme. -/
theorem follow?_pageHref {sheet : String} (h : '/' ∉ sheet.toList) (page : List String) :
    follow? page (pageHref sheet).toList =
      if (scheme? sheet.toList).isSome then none else some (page.dropLast ++ [pageFile sheet]) := by
  have hpath : pathPart (pageHref sheet).toList = (pageHref sheet).toList := by
    apply List.takeWhile_eq_self_iff.mpr
    intro c hc
    have hquery : c ≠ '?' := fun he => not_mem_pageHref sheet (by decide) rfl (he ▸ hc)
    have hfragment : c ≠ '#' := fun he => not_mem_pageHref sheet (by decide) rfl (he ▸ hc)
    simp only [hquery, hfragment, ne_eq, not_false_eq_true, decide_true, Bool.and_self]
  have hslash : '/' ∉ (pageHref sheet).toList := by
    rw [toList_pageHref, List.mem_append, not_or]
    exact ⟨fun hmem => h (mem_of_mem_flatMap_percentChar (by decide) hmem), by decide⟩
  have hsplit : (pageHref sheet).toList.splitOn '/' = [(pageHref sheet).toList] :=
    List.splitOn_eq_singleton hslash
  rw [follow?, scheme?_pageHref, hpath]
  split
  · rfl
  · split
    · rename_i hnil
      rw [toList_pageHref] at hnil
      exact absurd hnil (List.append_ne_nil_of_right_ne_nil _ (by decide))
    · rename_i rest hcons
      rw [hcons] at hslash
      exact absurd List.mem_cons_self hslash
    · simp only [hsplit, List.mapM_cons, List.mapM_nil, percentDecode?_pageHref, bind,
        Option.bind_some, pure, Option.map_some, List.foldl_cons, List.foldl_nil,
        enter_pageFile]

end LinkedSheets.Markup
