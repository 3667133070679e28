import LinkedSheets.Markup.Href
import LinkedSheets.Proofs.Text.Absence
import LinkedSheets.Proofs.Text.Beginnings
import Mathlib

/-!
# Percent-encoded text

Percent-encoding is undone by reading each escape as a byte and all other characters as they are.
What the bytes are the UTF-8 form of is the text that was encoded.
-/

namespace LinkedSheets.Markup

open Text

/-- The bytes that a percent-encoded text stands for. -/
def percentBytes : List Char → List UInt8
  | [] => []
  | '%' :: high :: low :: rest =>
      match hexValue? high, hexValue? low with
      | some h, some l => UInt8.ofNat (h * 16 + l) :: percentBytes rest
      | _, _ => String.utf8EncodeChar '%' ++ percentBytes (high :: low :: rest)
  | c :: rest => String.utf8EncodeChar c ++ percentBytes rest

/-- The text that a percent-encoded text stands for, if its bytes are that of a text. -/
def percentDecode? (cs : List Char) : Option String :=
  String.fromUTF8? (percentBytes cs).toByteArray

theorem percentBytes_cons {c : Char} (h : c ≠ '%') (rest : List Char) :
    percentBytes (c :: rest) = String.utf8EncodeChar c ++ percentBytes rest := by
  conv_lhs => unfold percentBytes
  split <;> simp_all

theorem percentBytes_percentByte (b : UInt8) (rest : List Char) :
    percentBytes (percentByte b ++ rest) = b :: percentBytes rest := by
  have hb : b.toNat < 256 := b.toNat_lt
  have hhigh : hexValue? (hexDigit (b.toNat / 16)) = some (b.toNat / 16) :=
    hexValue?_hexDigit (by omega)
  have hlow : hexValue? (hexDigit (b.toNat % 16)) = some (b.toNat % 16) :=
    hexValue?_hexDigit (by omega)
  have hsum : b.toNat / 16 * 16 + b.toNat % 16 = b.toNat := by omega
  simp only [percentByte, List.cons_append, List.nil_append, percentBytes, hhigh, hlow, hsum,
    UInt8.ofNat_toNat]

theorem percentBytes_flatMap_percentByte (bs : List UInt8) (rest : List Char) :
    percentBytes (bs.flatMap percentByte ++ rest) = bs ++ percentBytes rest := by
  induction bs with
  | nil => rfl
  | cons b more ih =>
    rw [List.flatMap_cons, List.append_assoc, percentBytes_percentByte, ih, List.cons_append]

theorem ne_percent_of_isPlain {c : Char} (h : isPlain c = true) : c ≠ '%' := by
  rintro rfl
  exact absurd h (by decide)

theorem percentBytes_percentChar (c : Char) (rest : List Char) :
    percentBytes (percentChar c ++ rest) = String.utf8EncodeChar c ++ percentBytes rest := by
  unfold percentChar
  split
  · rename_i h
    exact percentBytes_cons (ne_percent_of_isPlain h) rest
  · exact percentBytes_flatMap_percentByte _ rest

theorem percentBytes_flatMap_percentChar (cs rest : List Char) :
    percentBytes (cs.flatMap percentChar ++ rest) =
      cs.flatMap String.utf8EncodeChar ++ percentBytes rest := by
  induction cs with
  | nil => rfl
  | cons c more ih =>
    rw [List.flatMap_cons, List.append_assoc, percentBytes_percentChar, ih, List.flatMap_cons,
      List.append_assoc]

theorem percentBytes_of_not_mem {cs : List Char} (h : '%' ∉ cs) :
    percentBytes cs = cs.flatMap String.utf8EncodeChar := by
  induction cs with
  | nil => rfl
  | cons c rest ih =>
    rw [List.mem_cons, not_or] at h
    rw [percentBytes_cons (Ne.symm h.1), ih h.2, List.flatMap_cons]

theorem toList_pageHref (sheet : String) :
    (pageHref sheet).toList = sheet.toList.flatMap percentChar ++ ".html".toList := by
  rw [pageHref, String.toList_append, percentEncode, String.toList_ofList]

theorem toList_pageFile (sheet : String) :
    (pageFile sheet).toList = sheet.toList ++ ".html".toList := by
  rw [pageFile, String.toList_append]

-- The name of a page's file ends in something, so it is no short text.
theorem pageFile_ne {sheet text : String} (h : text.toList.length < 5) : pageFile sheet ≠ text := by
  rintro rfl
  rw [toList_pageFile, List.length_append] at h
  exact absurd h (Nat.not_lt.mpr (Nat.le_add_left 5 _))

theorem fromUTF8?_toByteArray (s : String) : String.fromUTF8? s.toByteArray = some s := by
  rw [String.fromUTF8?, dif_pos s.isValidUTF8]
  rfl

-- Decoding the address of a page gives the name of its file.
theorem percentDecode?_pageHref (sheet : String) :
    percentDecode? (pageHref sheet).toList = some (pageFile sheet) := by
  have hbytes : percentBytes (pageHref sheet).toList =
      (pageFile sheet).toList.flatMap String.utf8EncodeChar := by
    rw [toList_pageHref, percentBytes_flatMap_percentChar, percentBytes_of_not_mem (by decide),
      ← List.flatMap_append, toList_pageFile]
  rw [percentDecode?, hbytes, ← fromUTF8?_toByteArray, ← String.utf8Encode_toList,
    List.utf8Encode]

/-- Escapes consist of these characters. -/
def isEscapeChar (c : Char) : Bool := "%0123456789ABCDEF".toList.contains c

theorem isEscapeChar_hexDigit {d : Nat} (h : d < 16) : isEscapeChar (hexDigit d) = true := by
  revert d
  decide

-- A character is written as itself, or as escapes.
theorem mem_percentChar {c x : Char} (h : x ∈ percentChar c) :
    x = c ∧ isPlain c = true ∨ isEscapeChar x = true := by
  unfold percentChar at h
  split at h
  · rename_i hplain
    exact Or.inl ⟨List.mem_singleton.mp h, hplain⟩
  · obtain ⟨b, -, hb⟩ := List.mem_flatMap.mp h
    have hlt : b.toNat < 256 := b.toNat_lt
    rw [percentByte, List.mem_cons, List.mem_cons, List.mem_singleton] at hb
    right
    rcases hb with rfl | rfl | rfl
    · rfl
    · exact isEscapeChar_hexDigit (by omega)
    · exact isEscapeChar_hexDigit (by omega)

theorem isPlain_of_isEscapeChar {c : Char} (h : isEscapeChar c = true) :
    c = '%' ∨ isPlain c = true := by
  have hall : "%0123456789ABCDEF".toList.all (fun c => c == '%' || isPlain c) = true := by decide
  have hc := List.all_eq_true.mp hall c (List.contains_iff_mem.mp h)
  rwa [Bool.or_eq_true, beq_iff_eq] at hc

-- All that is in the address of a page stands for itself or begins an escape.
theorem isPlain_of_mem_pageHref {sheet : String} {x : Char} (h : x ∈ (pageHref sheet).toList) :
    x = '%' ∨ isPlain x = true := by
  have hending : ".html".toList.all isPlain = true := by decide
  rw [toList_pageHref, List.mem_append, List.mem_flatMap] at h
  rcases h with ⟨c, -, hc⟩ | h
  · rcases mem_percentChar hc with ⟨rfl, hplain⟩ | hescape
    · exact Or.inr hplain
    · exact isPlain_of_isEscapeChar hescape
  · exact Or.inr (List.all_eq_true.mp hending x h)

theorem not_mem_pageHref (sheet : String) {x : Char} (hx : x ≠ '%') (h : isPlain x = false) :
    x ∉ (pageHref sheet).toList := by
  intro hmem
  rcases isPlain_of_mem_pageHref hmem with rfl | hplain
  · exact hx rfl
  · rw [h] at hplain
    exact Bool.false_ne_true hplain

theorem visible_of_mem_pageHref {sheet : String} {c : Char} (h : c ∈ (pageHref sheet).toList) :
    0x20 ≤ c.toNat ∧ c.toNat ≤ 0x7E ∧ c ∉ [' ', '"', '#', '\'', '<', '>', '?'] := by
  have hreserved : ∀ x ∈ [' ', '"', '#', '\'', '<', '>', '?'], x ≠ '%' ∧ isPlain x = false := by
    simp [isPlain]
  have hnot : c ∉ [' ', '"', '#', '\'', '<', '>', '?'] := by
    intro hmem
    obtain ⟨hpercent, hplain⟩ := hreserved c hmem
    exact not_mem_pageHref sheet hpercent hplain h
  rcases isPlain_of_mem_pageHref h with rfl | hplain
  · exact ⟨by decide, by decide, hnot⟩
  · simp only [isPlain, Bool.and_eq_true, decide_eq_true_eq] at hplain
    exact ⟨by omega, by omega, hnot⟩

-- A character that escapes do not have comes from the text.
theorem mem_of_mem_flatMap_percentChar {x : Char} (hx : isEscapeChar x = false) {cs : List Char}
    (h : x ∈ cs.flatMap percentChar) : x ∈ cs := by
  obtain ⟨c, hc, hmem⟩ := List.mem_flatMap.mp h
  rcases mem_percentChar hmem with ⟨rfl, -⟩ | hescape
  · exact hc
  · rw [hx] at hescape
    exact absurd hescape Bool.false_ne_true

theorem flatMap_percentChar_of_isPlain {cs : List Char} (h : ∀ c ∈ cs, isPlain c = true) :
    cs.flatMap percentChar = cs := by
  induction cs with
  | nil => rfl
  | cons c rest ih =>
    rw [List.forall_mem_cons] at h
    rw [List.flatMap_cons, ih h.2, percentChar, if_pos h.1, List.singleton_append]

theorem percent_mem_percentChar {c : Char} (h : isPlain c = false) : '%' ∈ percentChar c := by
  have hnot : ¬ isPlain c = true := by rw [h]; exact Bool.false_ne_true
  obtain ⟨b, bs, hbytes⟩ := List.exists_cons_of_ne_nil (String.utf8EncodeChar_ne_nil (c := c))
  rw [percentChar, if_neg hnot, hbytes, List.flatMap_cons]
  exact List.mem_append_left _ List.mem_cons_self

-- Where nothing is escaped, all characters stand for themselves.
theorem isPlain_of_not_mem {cs : List Char} (h : '%' ∉ cs.flatMap percentChar) :
    ∀ c ∈ cs, isPlain c = true := by
  intro c hc
  by_contra hplain
  rw [Bool.not_eq_true] at hplain
  exact h (List.mem_flatMap.mpr ⟨c, hc, percent_mem_percentChar hplain⟩)

/-- A text that is not changed, and in which nothing could be taken for a part of an escape. -/
def isKept (cs : List Char) : Bool := cs.all fun c => isPlain c && !isEscapeChar c

theorem isKept_cons {c : Char} {cs : List Char} :
    isKept (c :: cs) = true ↔ (isPlain c = true ∧ isEscapeChar c = false) ∧ isKept cs = true := by
  rw [isKept, List.all_cons, Bool.and_eq_true, Bool.and_eq_true, Bool.not_eq_true', isKept]

theorem isPlain_of_isKept {cs : List Char} (h : isKept cs = true) : ∀ c ∈ cs, isPlain c = true := by
  intro c hc
  exact (Bool.and_eq_true_iff.mp (List.all_eq_true.mp h c hc)).1

theorem not_mem_percentChar {c x : Char} (hx : isEscapeChar x = false) (hc : isPlain c = false) :
    x ∉ percentChar c := by
  intro hmem
  rcases mem_percentChar hmem with ⟨-, hplain⟩ | hescape
  · rw [hc] at hplain
    exact Bool.false_ne_true hplain
  · rw [hx] at hescape
    exact Bool.false_ne_true hescape

theorem prefix_of_prefix_flatMap_percentChar {tag cs : List Char} (htag : isKept tag = true)
    (h : tag <+: cs.flatMap percentChar) : tag <+: cs := by
  induction tag generalizing cs with
  | nil => exact List.nil_prefix
  | cons x more ih =>
    obtain ⟨⟨-, hx⟩, hmore⟩ := isKept_cons.mp htag
    cases cs with
    | nil => exact absurd (List.prefix_nil.mp h) (List.cons_ne_nil x more)
    | cons c rest =>
      by_cases hc : isPlain c = true
      · rw [List.flatMap_cons, percentChar, if_pos hc, List.singleton_append,
          List.cons_prefix_cons] at h
        exact List.cons_prefix_cons.mpr ⟨h.1, ih hmore h.2⟩
      · -- An escape begins with nothing of the tag.
        rw [Bool.not_eq_true] at hc
        have hnot := not_mem_percentChar hx hc
        obtain ⟨y, ys, hescape⟩ :=
          List.exists_cons_of_ne_nil (List.ne_nil_of_mem (percent_mem_percentChar hc))
        rw [List.flatMap_cons, hescape, List.cons_append, List.cons_prefix_cons] at h
        rw [hescape, h.1] at hnot
        exact absurd List.mem_cons_self hnot

theorem infix_flatMap_percentChar_iff {tag cs : List Char} (htag : isKept tag = true) :
    tag <:+: cs.flatMap percentChar ↔ tag <:+: cs := by
  constructor
  · intro h
    cases tag with
    | nil => exact List.nil_infix
    | cons x more =>
      induction cs with
      | nil => exact h
      | cons c rest ih =>
        by_cases hc : isPlain c = true
        · have hcons : (c :: rest).flatMap percentChar = c :: rest.flatMap percentChar := by
            rw [List.flatMap_cons, percentChar, if_pos hc, List.singleton_append]
          rw [hcons, List.infix_cons_iff, ← hcons] at h
          rcases h with hprefix | hin
          · exact (prefix_of_prefix_flatMap_percentChar htag hprefix).isInfix
          · exact List.infix_cons (ih hin)
        · rw [Bool.not_eq_true] at hc
          have hnot := not_mem_percentChar (isKept_cons.mp htag).1.2 hc
          exact List.infix_cons (ih (infix_of_infix_append hnot h))
  · rintro ⟨before, after, rfl⟩
    have hself := flatMap_percentChar_of_isPlain (isPlain_of_isKept htag)
    refine ⟨before.flatMap percentChar, after.flatMap percentChar, ?_⟩
    rw [List.flatMap_append, List.flatMap_append, hself]

/-- A percent sign and two digits of base sixteen, whose letters are capitals. -/
def BeginsEscape (cs : List Char) : Prop :=
  ∃ high ∈ "0123456789ABCDEF".toList, ∃ low ∈ "0123456789ABCDEF".toList,
    ['%', high, low] <+: cs

theorem beginsEscape_append (cs ds : List Char) (h : BeginsEscape cs) : BeginsEscape (cs ++ ds) := by
  obtain ⟨high, hhigh, low, hlow, hprefix⟩ := h
  exact ⟨high, hhigh, low, hlow, hprefix.trans (List.prefix_append cs ds)⟩

theorem hexDigit_mem {d : Nat} (h : d < 16) : hexDigit d ∈ "0123456789ABCDEF".toList := by
  revert d
  decide

-- The digits of an escape are no percent signs, so nothing else begins in it.
theorem eachBegins_percentByte (b : UInt8) : EachBegins '%' BeginsEscape (percentByte b) := by
  have hb : b.toNat < 256 := b.toNat_lt
  have hhigh : hexDigit (b.toNat / 16) ∈ "0123456789ABCDEF".toList := hexDigit_mem (by omega)
  have hlow : hexDigit (b.toNat % 16) ∈ "0123456789ABCDEF".toList := hexDigit_mem (by omega)
  have hdigit {c : Char} (hc : c ∈ "0123456789ABCDEF".toList) : '%' ≠ c := by
    rintro rfl
    exact absurd hc (by decide)
  apply eachBegins_cons
  · intro _
    exact ⟨_, hhigh, _, hlow, List.prefix_rfl⟩
  · apply eachBegins_of_not_mem
    simp only [List.mem_cons, List.not_mem_nil, or_false, not_or]
    exact ⟨hdigit hhigh, hdigit hlow⟩

theorem eachBegins_percentChar (c : Char) : EachBegins '%' BeginsEscape (percentChar c) := by
  unfold percentChar
  split
  · rename_i hplain
    apply eachBegins_of_not_mem
    rw [List.mem_singleton]
    exact (ne_percent_of_isPlain hplain).symm
  · exact eachBegins_flatMap beginsEscape_append fun b _ => eachBegins_percentByte b

theorem eachBegins_pageHref (sheet : String) :
    EachBegins '%' BeginsEscape (pageHref sheet).toList := by
  rw [toList_pageHref]
  apply eachBegins_append beginsEscape_append
  · exact eachBegins_flatMap beginsEscape_append fun c _ => eachBegins_percentChar c
  · exact eachBegins_of_not_mem (by decide)

end LinkedSheets.Markup
