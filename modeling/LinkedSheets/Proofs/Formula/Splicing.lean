import LinkedSheets.Proofs.Formula.Layout
import Mathlib.Data.List.Forall2
import Mathlib.Logic.Relation

/-!
# Sequences inside of formulae

A sequence that stands in another one, or among the arguments of an operator that takes any number
of them, may be replaced by its items: the formula is rendered to the same pieces on every page. One
such sequence after the other can be replaced until none is left.
-/

namespace LinkedSheets.Node

open Text Markup

/-- How many arguments an operator takes before those of which there may be any number. This is none
for an operator without a rule, and there is no such number for an operator that takes just as many
arguments as its rule needs. -/
def fixedArgs? (tag : String) : Option Nat :=
  match Rule.ofName? tag with
  | none => some 0
  | some .brackets => some 0
  | some .stringJoin => some 0
  | some .arithmetic => some 0
  | some .comparison => some 0
  | some .function => some 1
  | some .sign => some 1
  | some _ => none

/-- Somewhere in a formula one sequence is replaced by its items: one that stands in another
sequence or where an operator takes any number of arguments. -/
inductive Splices : Node → Node → Prop where
  | sequence (before items after : List Node) :
      Splices (.sequence (before ++ .sequence items :: after))
        (.sequence (before ++ items ++ after))
  | operator {tag : String} {fixed : Nat} (htag : fixedArgs? tag = some fixed)
      {before : List Node} (hfixed : fixed ≤ before.length) (items after : List Node) :
      Splices (.tagged tag (before ++ .sequence items :: after))
        (.tagged tag (before ++ items ++ after))
  | item (before after : List Node) {a b : Node} (h : Splices a b) :
      Splices (.sequence (before ++ a :: after)) (.sequence (before ++ b :: after))
  | arg (tag : String) (before after : List Node) {a b : Node} (h : Splices a b) :
      Splices (.tagged tag (before ++ a :: after)) (.tagged tag (before ++ b :: after))

/-- Nodes that are rendered alike wherever they stand. Literals are alike only if they are the same,
since an operator may need them. -/
inductive Alike : Node → Node → Prop where
  | leaf (text : String) : Alike (.leaf text) (.leaf text)
  | tagged {tag tag' : String} {args args' : List Node}
      (h : ∀ page, pieces page (.tagged tag args) = pieces page (.tagged tag' args')) :
      Alike (.tagged tag args) (.tagged tag' args')
  | sequence {items items' : List Node} (h : ∀ page, parts page items = parts page items') :
      Alike (.sequence items) (.sequence items')

namespace Alike

theorem refl (n : Node) : Alike n n := by
  cases n with
  | leaf text => exact .leaf text
  | tagged tag args => exact .tagged fun _ => rfl
  | sequence items => exact .sequence fun _ => rfl

instance : Std.Refl Alike := ⟨refl⟩

theorem parts_eq {a b : Node} (h : Alike a b) (page : String) :
    parts page [a] = parts page [b] := by
  cases h with
  | leaf text => rfl
  | tagged h => simp only [parts, h page]
  | sequence h => simp only [parts, h page]

theorem pieces_eq {a b : Node} (h : Alike a b) (page : String) : pieces page a = pieces page b := by
  rw [← flatten_parts_singleton, ← flatten_parts_singleton, h.parts_eq]

theorem leaf_right_iff {text : String} {a : Node} : Alike a (.leaf text) ↔ a = .leaf text := by
  constructor
  · intro h
    cases h
    rfl
  · rintro rfl
    exact .leaf text

end Alike

theorem parts_append (page : String) (xs ys : List Node) :
    parts page (xs ++ ys) = parts page xs ++ parts page ys := by
  induction xs with
  | nil => rw [parts, List.nil_append, List.nil_append]
  | cons a rest ih => rw [List.cons_append, parts_cons, ih, ← List.append_assoc, ← parts_cons]

theorem parts_of_alike {args args' : List Node} (h : List.Forall₂ Alike args args')
    (page : String) : parts page args = parts page args' := by
  induction h with
  | nil => rfl
  | @cons a b rest rest' hab _ ih => rw [parts_cons, hab.parts_eq, ih, ← parts_cons]

/-- Layouts that differ only in what is rendered alike. -/
inductive Layout.Alike : Layout → Layout → Prop where
  | link (fragment shown : String) : Alike (.link fragment shown) (.link fragment shown)
  | parts (before : List String) (separator sheet : Option String) (after : List String)
      {args args' : List Node} (h : List.Forall₂ Node.Alike args args') :
      Alike (.parts before separator sheet args after) (.parts before separator sheet args' after)

theorem Layout.Alike.pieces_eq {l l' : Layout} (h : l.Alike l') (page : String) :
    l.pieces page = l'.pieces page := by
  cases h with
  | link fragment shown => rfl
  | parts before separator sheet after h => rw [Layout.pieces, Layout.pieces, parts_of_alike h]

theorem Layout.Alike.refl (l : Layout) : l.Alike l := by
  cases l with
  | link fragment shown => exact .link fragment shown
  | parts before separator sheet args after =>
    exact .parts _ _ _ _ (List.forall₂_refl args)

theorem listLayout_alike (tag : String) {args args' : List Node}
    (h : List.Forall₂ Alike args args') : (listLayout tag args).Alike (listLayout tag args') :=
  .parts _ _ _ _ (.cons (.leaf tag) h)

theorem layout_alike (tag : String) {args args' : List Node}
    (h : List.Forall₂ Alike args args') : (layout tag args).Alike (layout tag args') := by
  unfold layout
  generalize Rule.ofName? tag = rule
  split
  -- Operators that take any number of arguments, from the first or from the second on.
  case h_2 | h_3 | h_4 | h_5 => exact .parts _ _ _ _ h
  case h_1 | h_19 =>
    obtain _ | ⟨⟨⟩, hrest⟩ := h
    exact .parts _ _ _ _ hrest
  -- Operators that need some literals.
  case h_6 | h_7 | h_16 =>
    obtain _ | ⟨⟨⟩, ⟨⟩⟩ := h
    exact .refl _
  case h_13 | h_14 | h_15 =>
    obtain _ | ⟨⟨⟩, _ | ⟨⟨⟩, ⟨⟩⟩⟩ := h
    exact .refl _
  -- Operators with one argument of any kind, for which a sheet may be named, or without any.
  case h_8 | h_9 | h_10 | h_11 =>
    obtain _ | ⟨harg, ⟨⟩⟩ := h
    exact .parts _ _ _ _ (.cons harg .nil)
  case h_12 =>
    obtain _ | ⟨⟨⟩, _ | ⟨harg, ⟨⟩⟩⟩ := h
    exact .parts _ _ _ _ (.cons harg .nil)
  case h_17 | h_18 | h_20 =>
    cases h
    exact .refl _
  -- Arguments that fit no rule are not like any that do.
  case h_21 =>
    split
    case h_21 => exact listLayout_alike tag h
    all_goals try simp only [List.forall₂_cons_right_iff, List.forall₂_nil_right_iff,
      Alike.leaf_right_iff] at h
    all_goals grind

theorem pieces_of_alike (tag : String) {args args' : List Node}
    (h : List.Forall₂ Alike args args') (page : String) :
    pieces page (.tagged tag args) = pieces page (.tagged tag args') := by
  rw [pieces_tagged, pieces_tagged, (layout_alike tag h).pieces_eq]

theorem parts_splice (page : String) (before items after : List Node) :
    parts page (before ++ .sequence items :: after) = parts page (before ++ items ++ after) := by
  rw [List.append_assoc, parts_append, parts_append, parts_append, parts]

-- The arguments of which there may be any number are the last ones of those that are rendered.
theorem exists_layout_eq {tag : String} {fixed : Nat} (htag : fixedArgs? tag = some fixed)
    {front : List Node} (hfront : front.length = fixed) :
    ∃ before separator kept after, ∀ args,
      layout tag (front ++ args) = .parts before separator none (kept ++ args) after := by
  have hlist (h : ∀ args, layout tag (front ++ args) = listLayout tag (front ++ args)) :
      ∃ before separator kept after, ∀ args,
        layout tag (front ++ args) = .parts before separator none (kept ++ args) after :=
    ⟨["["], some ", ", .leaf tag :: front, ["]"], h⟩
  unfold fixedArgs? at htag
  split at htag
  case h_8 => cases htag
  all_goals
    rename_i hrule
    obtain rfl := Option.some.inj htag
  case h_1 => exact hlist fun args => by simp only [layout, hrule]
  case h_2 | h_3 | h_4 | h_5 =>
    obtain rfl := List.eq_nil_of_length_eq_zero hfront
    exact ⟨_, _, [], _, fun args => by simp only [layout, hrule, List.nil_append]; rfl⟩
  case h_6 | h_7 =>
    -- Without a literal in front the rule does not fit.
    obtain ⟨a, rfl⟩ := List.length_eq_one_iff.mp hfront
    cases a with
    | leaf text =>
      exact ⟨_, _, [], _, fun args => by
        simp only [layout, hrule, List.singleton_append, List.nil_append]; rfl⟩
    | tagged tag' args' =>
      exact hlist fun args => by simp only [layout, hrule, List.singleton_append]
    | sequence items =>
      exact hlist fun args => by simp only [layout, hrule, List.singleton_append]

theorem pieces_splice {tag : String} {fixed : Nat} (htag : fixedArgs? tag = some fixed)
    {before : List Node} (hfixed : fixed ≤ before.length) (items after : List Node)
    (page : String) :
    pieces page (.tagged tag (before ++ .sequence items :: after)) =
      pieces page (.tagged tag (before ++ items ++ after)) := by
  obtain ⟨opening, separator, kept, closing, hlayout⟩ :=
    exists_layout_eq htag (List.length_take_of_le hfixed)
  have hsplit (args : List Node) :
      layout tag (before ++ args) =
        .parts opening separator none (kept ++ before.drop fixed ++ args) closing := by
    rw [List.append_assoc, ← hlayout, ← List.append_assoc, List.take_append_drop]
  rw [pieces_tagged, pieces_tagged, List.append_assoc, hsplit, hsplit, Layout.pieces,
    Layout.pieces, parts_splice, List.append_assoc _ items after]

theorem alike_at {a b : Node} (h : Alike a b) (before after : List Node) :
    List.Forall₂ Alike (before ++ a :: after) (before ++ b :: after) :=
  List.rel_append (List.forall₂_refl before) (.cons h (List.forall₂_refl after))

/-- Replacing one sequence leaves what is rendered as it is, whatever the sequence stands in. -/
theorem Splices.alike {n m : Node} (h : Splices n m) : Alike n m := by
  induction h with
  | sequence before items after => exact .sequence fun page => parts_splice page before items after
  | operator htag hfixed items after =>
    exact .tagged fun page => pieces_splice htag hfixed items after page
  | item before after _ ih => exact .sequence (parts_of_alike (alike_at ih before after))
  | arg tag before after _ ih => exact .tagged (pieces_of_alike tag (alike_at ih before after))

/-- One sequence after the other is replaced, any number of times. -/
abbrev Reaches : Node → Node → Prop := Relation.ReflTransGen Splices

theorem pieces_of_reaches {n m : Node} (h : Reaches n m) (page : String) :
    m.pieces page = n.pieces page := by
  induction h with
  | refl => rfl
  | tail _ hstep ih => rw [← hstep.alike.pieces_eq, ih]

/-- There is no sequence left to replace. -/
def IsSpliced (n : Node) : Prop := ∀ m, ¬ Splices n m

def IsSequence (n : Node) : Prop := ∃ items, n = .sequence items

/-- The items of a sequence; any other node by itself. -/
def unwrapped : Node → List Node
  | .leaf text => [.leaf text]
  | .tagged tag args => [.tagged tag args]
  | .sequence items => items

/-- Arguments with the items of those that are sequences in their place, behind the fixed ones. -/
def opened : Option Nat → List Node → List Node
  | none, args => args
  | some fixed, args => args.take fixed ++ (args.drop fixed).flatMap unwrapped

mutual

/-- The formula with all such sequences replaced by their items, at every depth. -/
def spliced : Node → Node
  | .leaf text => .leaf text
  | .tagged tag args => .tagged tag (opened (fixedArgs? tag) (splicedEach args))
  | .sequence items => .sequence (opened (some 0) (splicedEach items))

def splicedEach : List Node → List Node
  | [] => []
  | n :: rest => spliced n :: splicedEach rest

end

theorem splicedEach_eq_map (ns : List Node) : splicedEach ns = ns.map spliced := by
  induction ns with
  | nil => rfl
  | cons n rest ih => rw [splicedEach, ih, List.map_cons]

section

/- What has the nodes under it: an operator or a sequence. -/
variable {whole : List Node → Node}

-- What each of the nodes under another reaches takes its place, from left to right.
theorem reaches_map
    (hwhole : ∀ before after {a b}, Splices a b →
      Splices (whole (before ++ a :: after)) (whole (before ++ b :: after)))
    {f : Node → Node} {ns : List Node} (h : ∀ n ∈ ns, Reaches n (f n)) (before : List Node) :
    Reaches (whole (before ++ ns)) (whole (before ++ ns.map f)) := by
  induction ns generalizing before with
  | nil => exact .refl
  | cons n rest ih =>
    rw [List.forall_mem_cons] at h
    have hfirst : Reaches (whole (before ++ n :: rest)) (whole (before ++ f n :: rest)) :=
      h.1.lift (fun m => whole (before ++ m :: rest)) fun _ _ => hwhole before rest
    have hrest := ih h.2 (before ++ [f n])
    rw [List.append_assoc, List.append_assoc] at hrest
    exact hfirst.trans hrest

theorem reaches_flatMap_unwrapped {fixed : Nat}
    (hwhole : ∀ before items after, fixed ≤ before.length →
      Splices (whole (before ++ .sequence items :: after)) (whole (before ++ items ++ after)))
    (ns before : List Node) (hbefore : fixed ≤ before.length) :
    Reaches (whole (before ++ ns)) (whole (before ++ ns.flatMap unwrapped)) := by
  induction ns generalizing before with
  | nil => exact .refl
  | cons n rest ih =>
    have hrest := ih (before ++ n.unwrapped)
      (by rw [List.length_append]; exact Nat.le_add_right_of_le hbefore)
    rw [List.append_assoc before _ (rest.flatMap unwrapped), ← List.flatMap_cons] at hrest
    cases n with
    | leaf text => rwa [unwrapped, List.append_assoc, List.singleton_append] at hrest
    | tagged tag args => rwa [unwrapped, List.append_assoc, List.singleton_append] at hrest
    | sequence items => exact .head (hwhole before items rest hbefore) hrest

theorem reaches_opened {fixed : Nat}
    (hwhole : ∀ before items after, fixed ≤ before.length →
      Splices (whole (before ++ .sequence items :: after)) (whole (before ++ items ++ after)))
    (ns : List Node) : Reaches (whole ns) (whole (opened (some fixed) ns)) := by
  rcases Nat.lt_or_ge ns.length fixed with hshort | hfixed
  · rw [opened, List.take_of_length_le (Nat.le_of_lt hshort),
      List.drop_of_length_le (Nat.le_of_lt hshort), List.flatMap_nil, List.append_nil]
  · have h := reaches_flatMap_unwrapped hwhole (ns.drop fixed) (ns.take fixed)
      (Nat.le_of_eq (List.length_take_of_le hfixed).symm)
    rwa [List.take_append_drop] at h

end

/-- All sequences can be replaced one after the other. -/
theorem reaches_spliced (n : Node) : Reaches n n.spliced := by
  induction n using Node.induction with
  | leaf text => exact .refl
  | tagged tag args ih =>
    have hargs := reaches_map (fun before after _ _ h => .arg tag before after h) ih []
    rw [List.nil_append, List.nil_append, ← splicedEach_eq_map] at hargs
    rw [spliced]
    cases htag : fixedArgs? tag with
    | none => exact hargs
    | some fixed =>
      exact hargs.trans (reaches_opened (fun before items after hfixed =>
        .operator htag hfixed items after) _)
  | sequence items ih =>
    have hitems := reaches_map (fun before after _ _ h => .item before after h) ih []
    rw [List.nil_append, List.nil_append, ← splicedEach_eq_map] at hitems
    rw [spliced]
    exact hitems.trans (reaches_opened (fun before items after _ =>
      .sequence before items after) _)

theorem isSpliced_leaf (text : String) : IsSpliced (.leaf text) := nofun

theorem isSpliced_sequence_iff {items : List Node} :
    IsSpliced (.sequence items) ↔ ∀ a ∈ items, ¬ IsSequence a ∧ IsSpliced a := by
  constructor
  · intro h a ha
    obtain ⟨before, after, rfl⟩ := List.append_of_mem ha
    refine ⟨?_, fun m hm => h _ (.item before after hm)⟩
    rintro ⟨inner, rfl⟩
    exact h _ (.sequence before inner after)
  · intro h m hm
    cases hm with
    | sequence before inner after =>
      exact (h (.sequence inner) (List.mem_append_cons_self)).1 ⟨inner, rfl⟩
    | item before after hstep => exact (h _ List.mem_append_cons_self).2 _ hstep

theorem isSpliced_tagged {tag : String} {args : List Node} (hargs : ∀ a ∈ args, IsSpliced a)
    (hopen : ∀ fixed, fixedArgs? tag = some fixed → ∀ a ∈ args.drop fixed, ¬ IsSequence a) :
    IsSpliced (.tagged tag args) := by
  intro m hm
  cases hm with
  | operator htag hfixed items after =>
    refine hopen _ htag (.sequence items) ?_ ⟨items, rfl⟩
    rw [List.drop_append_of_le_length hfixed]
    exact List.mem_append_cons_self
  | arg tag before after hstep => exact hargs _ List.mem_append_cons_self _ hstep

theorem mem_unwrapped {n : Node} (h : IsSpliced n) {a : Node} (ha : a ∈ n.unwrapped) :
    ¬ IsSequence a ∧ IsSpliced a := by
  cases n with
  | leaf text =>
    rw [unwrapped, List.mem_singleton] at ha
    subst ha
    exact ⟨nofun, h⟩
  | tagged tag args =>
    rw [unwrapped, List.mem_singleton] at ha
    subst ha
    exact ⟨nofun, h⟩
  | sequence items => exact isSpliced_sequence_iff.mp h a ha

theorem isSpliced_of_mem_opened {fixed? : Option Nat} {args : List Node}
    (h : ∀ a ∈ args, IsSpliced a) {a : Node} (ha : a ∈ opened fixed? args) : IsSpliced a := by
  cases fixed? with
  | none => exact h a ha
  | some fixed =>
    rw [opened, List.mem_append, List.mem_flatMap] at ha
    rcases ha with ha | ⟨n, hn, ha⟩
    · exact h a (List.mem_of_mem_take ha)
    · exact (mem_unwrapped (h n (List.mem_of_mem_drop hn)) ha).2

-- Behind the fixed arguments there are only items of sequences that have been replaced already.
theorem not_isSequence_of_mem_drop_opened {fixed : Nat} {args : List Node}
    (h : ∀ a ∈ args, IsSpliced a) {a : Node} (ha : a ∈ (opened (some fixed) args).drop fixed) :
    ¬ IsSequence a := by
  rw [opened, List.drop_append, List.drop_eq_nil_of_le (List.length_take_le fixed args),
    List.nil_append] at ha
  obtain ⟨n, hn, ha⟩ := List.mem_flatMap.mp (List.mem_of_mem_drop ha)
  exact (mem_unwrapped (h n (List.mem_of_mem_drop hn)) ha).1

theorem isSpliced_spliced (n : Node) : n.spliced.IsSpliced := by
  induction n using Node.induction with
  | leaf text => exact isSpliced_leaf text
  | tagged tag args ih =>
    rw [← List.forall_mem_map, ← splicedEach_eq_map] at ih
    rw [spliced]
    refine isSpliced_tagged (fun a ha => isSpliced_of_mem_opened ih ha) fun fixed htag a ha => ?_
    rw [htag] at ha
    exact not_isSequence_of_mem_drop_opened ih ha
  | sequence items ih =>
    rw [← List.forall_mem_map, ← splicedEach_eq_map] at ih
    rw [spliced, isSpliced_sequence_iff]
    exact fun a ha => ⟨not_isSequence_of_mem_drop_opened ih (by rwa [List.drop_zero]),
      isSpliced_of_mem_opened ih ha⟩

theorem pieces_sequence_append (page : String) (xs ys : List Node) :
    pieces page (.sequence (xs ++ ys)) =
      pieces page (.sequence xs) ++ pieces page (.sequence ys) := by
  rw [pieces, pieces, pieces, parts_append, List.flatten_append]

theorem writePieces_append (ps qs : List Piece) :
    writePieces (ps ++ qs) = writePieces ps ++ writePieces qs := by
  rw [writePieces, writePieces, writePieces, List.map_append, String.join_append]

/-- Replacing sequences one after the other, until there is none left to replace, leaves the text of
a formula as it is on every page; and the text of two lists of items as one sequence is the text of
the first followed by that of the second. -/
theorem text_spliced :
    (∀ n : Node, Reaches n n.spliced ∧ n.spliced.IsSpliced ∧
      ∀ page, writePieces (n.spliced.pieces page) = writePieces (n.pieces page)) ∧
    ∀ (page : String) (xs ys : List Node),
      writePieces (pieces page (.sequence (xs ++ ys))) =
        writePieces (pieces page (.sequence xs)) ++ writePieces (pieces page (.sequence ys)) := by
  refine ⟨fun n => ⟨reaches_spliced n, isSpliced_spliced n, fun page => ?_⟩, fun page xs ys => ?_⟩
  · rw [pieces_of_reaches (reaches_spliced n)]
  · rw [pieces_sequence_append, writePieces_append]

example :
    spliced (.tagged "function" [.leaf "sum", .sequence [.leaf "1", .sequence []], .leaf "2"]) =
      .tagged "function" [.leaf "sum", .leaf "1", .leaf "2"] := rfl

end LinkedSheets.Node
