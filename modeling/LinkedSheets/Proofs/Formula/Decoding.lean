import LinkedSheets.Proofs.Formula.Layout
import LinkedSheets.Proofs.Workbook.Decoding

/-!
# Formulae as JSON

Which JSON a formula is decoded from. An array is an operator or a sequence by its first element, so
a sequence that begins with a literal has no text of its own: written down it reads as an operator.
All other formulae are what they are written as.
-/

namespace LinkedSheets

/-- A value occurs in itself and in arrays that have it among their items, at any depth. -/
inductive Json.Occurs (a : Json) : Json → Prop where
  | self : Occurs a a
  | item {items : List Json} {j : Json} (hmem : j ∈ items) (h : Occurs a j) :
      Occurs a (.array items)

/-- A number, a boolean or null. -/
inductive Json.IsBare : Json → Prop where
  | null : IsBare .null
  | bool (value : Bool) : IsBare (.bool value)
  | number (value : JsonNumber) : IsBare (.number value)

namespace Node

/-- A node occurs in itself and in what has it among its arguments or items, at any depth. -/
inductive Occurs (a : Node) : Node → Prop where
  | self : Occurs a a
  | arg (tag : String) {args : List Node} {b : Node} (hmem : b ∈ args) (h : Occurs a b) :
      Occurs a (.tagged tag args)
  | item {items : List Node} {b : Node} (hmem : b ∈ items) (h : Occurs a b) :
      Occurs a (.sequence items)

mutual

/-- A formula as JSON: literals are strings, operators and sequences are arrays. -/
def toJson : Node → Json
  | .leaf text => .string text
  | .tagged tag args => .array (.string tag :: toItems args)
  | .sequence items => .array (toItems items)

def toItems : List Node → List Json
  | [] => []
  | n :: rest => toJson n :: toItems rest

end

theorem ofItems?_eq_some_iff {js : List Json} {ns : List Node} :
    ofItems? js = some ns ↔ List.Forall₂ (fun j n => ofJson? j = some n) js ns := by
  induction js generalizing ns with
  | nil =>
    rw [ofItems?, Option.some.injEq, List.forall₂_nil_left_iff]
    exact eq_comm
  | cons j rest ih =>
    rw [ofItems?, List.forall₂_cons_left_iff]
    cases hj : ofJson? j with
    | none => simp
    | some n =>
      simp only [Option.map_eq_some_iff, ih, Option.some.injEq]
      constructor
      · rintro ⟨ms, hms, rfl⟩
        exact ⟨n, ms, rfl, hms, rfl⟩
      · rintro ⟨_, ms, rfl, hms, rfl⟩
        exact ⟨ms, hms, rfl⟩

theorem ofJson?_array_string (tag : String) (js : List Json) :
    ofJson? (.array (.string tag :: js)) = (ofItems? js).map (.tagged tag) := by
  rw [ofJson?]

theorem ofJson?_array {js : List Json} (h : ∀ tag, js.head? ≠ some (.string tag)) :
    ofJson? (.array js) = (ofItems? js).map .sequence := by
  rw [ofJson?]
  rintro tag args rfl
  exact h tag rfl

-- An array has a tag, or else it is a sequence.
theorem exists_tag_or (js : List Json) :
    (∃ tag args, js = .string tag :: args) ∨ ∀ tag, js.head? ≠ some (.string tag) := by
  by_cases h : ∃ tag args, js = .string tag :: args
  · exact Or.inl h
  · refine Or.inr fun tag htag => h ?_
    obtain ⟨args, rfl⟩ := List.head?_eq_some_iff.mp htag
    exact ⟨tag, args, rfl⟩

/-- What a formula is decoded from, by the parts of the formula. -/
def WrittenAs : Node → Json → Prop
  | .leaf text, j => j = .string text ∨ j.IsBare ∧ j.literal = text
  | .tagged tag args, j =>
      ∃ js, j = .array (.string tag :: js) ∧ List.Forall₂ (fun j n => ofJson? j = some n) js args
  | .sequence items, j =>
      ∃ js, j = .array js ∧ (∀ tag, js.head? ≠ some (.string tag)) ∧
        List.Forall₂ (fun j n => ofJson? j = some n) js items

theorem writtenAs_of_ofJson? {j : Json} {n : Node} (h : ofJson? j = some n) : WrittenAs n j := by
  cases j with
  | null =>
    cases h
    exact Or.inr ⟨.null, rfl⟩
  | bool value =>
    cases h
    exact Or.inr ⟨.bool value, rfl⟩
  | number value =>
    cases h
    exact Or.inr ⟨.number value, rfl⟩
  | string text =>
    cases h
    exact Or.inl rfl
  | object fields => cases h
  | array js =>
    rcases exists_tag_or js with ⟨tag, args, rfl⟩ | hhead
    · rw [ofJson?_array_string, Option.map_eq_some_iff] at h
      obtain ⟨ns, hns, rfl⟩ := h
      exact ⟨args, rfl, ofItems?_eq_some_iff.mp hns⟩
    · rw [ofJson?_array hhead, Option.map_eq_some_iff] at h
      obtain ⟨ns, hns, rfl⟩ := h
      exact ⟨js, rfl, hhead, ofItems?_eq_some_iff.mp hns⟩

/-- No sequence in the formula begins with a literal. -/
def HeadsAreNodes (n : Node) : Prop :=
  ∀ items, Occurs (.sequence items) n → ∀ text, items.head? ≠ some (.leaf text)

theorem headsAreNodes_leaf (text : String) : HeadsAreNodes (.leaf text) := by
  intro items h
  cases h

theorem headsAreNodes_tagged_iff {tag : String} {args : List Node} :
    HeadsAreNodes (.tagged tag args) ↔ ∀ a ∈ args, HeadsAreNodes a := by
  constructor
  · exact fun h a ha items hitems => h items (.arg tag ha hitems)
  · intro h items hitems
    cases hitems with
    | arg _ ha hoccurs => exact h _ ha items hoccurs

theorem headsAreNodes_sequence_iff {items : List Node} :
    HeadsAreNodes (.sequence items) ↔
      (∀ text, items.head? ≠ some (.leaf text)) ∧ ∀ a ∈ items, HeadsAreNodes a := by
  constructor
  · exact fun h => ⟨h items .self, fun a ha inner hinner => h inner (.item ha hinner)⟩
  · rintro ⟨hhead, h⟩ inner hinner
    cases hinner with
    | self => exact hhead
    | item ha hoccurs => exact h _ ha inner hoccurs

theorem toItems_eq_map (ns : List Node) : toItems ns = ns.map toJson := by
  induction ns with
  | nil => rfl
  | cons n rest ih => rw [toItems, ih, List.map_cons]

theorem ofItems?_toItems {ns : List Node} (h : ∀ n ∈ ns, ofJson? n.toJson = some n) :
    ofItems? (toItems ns) = some ns := by
  rw [ofItems?_eq_some_iff, toItems_eq_map, List.forall₂_map_left_iff, List.forall₂_same]
  exact h

-- Of what formulae are written as, only literals are strings.
theorem head?_toItems {ns : List Node} (h : ∀ text, ns.head? ≠ some (.leaf text)) (tag : String) :
    (toItems ns).head? ≠ some (.string tag) := by
  cases ns with
  | nil => exact nofun
  | cons n rest =>
    cases n with
    | leaf text => exact absurd rfl (h text)
    | tagged tag args => exact nofun
    | sequence items => exact nofun

theorem ofJson?_toJson {n : Node} (h : n.HeadsAreNodes) : ofJson? n.toJson = some n := by
  induction n using Node.induction with
  | leaf text => rfl
  | tagged tag args ih =>
    rw [headsAreNodes_tagged_iff] at h
    rw [toJson, ofJson?_array_string, ofItems?_toItems fun a ha => ih a ha (h a ha)]
    rfl
  | sequence items ih =>
    obtain ⟨hhead, hitems⟩ := headsAreNodes_sequence_iff.mp h
    rw [toJson, ofJson?_array (head?_toItems hhead),
      ofItems?_toItems fun a ha => ih a ha (hitems a ha)]
    rfl

/-- How a sequence that is decoded from some JSON begins: not at all, with an operator or a
sequence, or with a literal that is a number, a boolean or null somewhere in it. -/
inductive Begins (j : Json) : List Node → Prop where
  | nil : Begins j []
  | node {n : Node} (rest : List Node) (h : ∀ text, n ≠ .leaf text) : Begins j (n :: rest)
  | bare {scalar : Json} (rest : List Node) (h : scalar.IsBare) (hj : scalar.Occurs j) :
      Begins j (.leaf scalar.literal :: rest)

theorem Begins.of_item {js : List Json} {j : Json} {items : List Node} (hj : j ∈ js)
    (h : Begins j items) : Begins (.array js) items := by
  cases h with
  | nil => exact .nil
  | node rest h => exact .node rest h
  | bare rest h hscalar => exact .bare rest h (.item hj hscalar)

theorem begins_of_ofJson?_sequence {j : Json} {items : List Node}
    (h : ofJson? j = some (.sequence items)) : Begins j items := by
  obtain ⟨js, rfl, hhead, hitems⟩ := writtenAs_of_ofJson? h
  cases hitems with
  | nil => exact .nil
  | @cons first n rest ns hfirst hrest =>
    cases n with
    | leaf text =>
      rcases writtenAs_of_ofJson? hfirst with rfl | ⟨hbare, rfl⟩
      · exact absurd rfl (hhead text)
      · exact .bare ns hbare (.item List.mem_cons_self .self)
    | tagged tag args => exact .node ns nofun
    | sequence inner => exact .node ns nofun

theorem begins_of_occurs {n : Node} {items : List Node} (hoccurs : Occurs (.sequence items) n)
    {j : Json} (h : ofJson? j = some n) : Begins j items := by
  generalize ha : Node.sequence items = a at hoccurs
  induction hoccurs generalizing j with
  | self =>
    rw [← ha] at h
    exact begins_of_ofJson?_sequence h
  | arg tag hmem _ ih =>
    obtain ⟨js, rfl, hargs⟩ := writtenAs_of_ofJson? h
    obtain ⟨j', hj', hb⟩ := exists_of_mem_right hargs hmem
    exact (ih hb).of_item (List.mem_cons_of_mem _ hj')
  | item hmem _ ih =>
    obtain ⟨js, rfl, -, hitems⟩ := writtenAs_of_ofJson? h
    obtain ⟨j', hj', hb⟩ := exists_of_mem_right hitems hmem
    exact (ih hb).of_item hj'

/-- Nothing is decoded just from JSON with an object in it. A formula whose sequences do not begin
with literals is decoded from what it is written as, and a sequence in a formula that is decoded
from anything begins with a literal only if that is a number, a boolean or null there. -/
theorem ofJson?_inverts_toJson :
    (∀ j : Json, ofJson? j = none ↔ j.HasObject) ∧
      (∀ n : Node, n.HeadsAreNodes → ofJson? n.toJson = some n) ∧
      ∀ (j : Json) (n : Node), ofJson? j = some n →
        ∀ items, Occurs (.sequence items) n → Begins j items :=
  ⟨ofJson?_eq_none_iff, fun _ h => ofJson?_toJson h,
    fun _ _ h _ hoccurs => begins_of_occurs hoccurs h⟩

-- A call with a sequence among its arguments, and a sequence whose first item was a boolean.
theorem ofJson?_inverts_toJson_call :
    let call := Node.tagged "function" [.leaf "sum", .sequence [.tagged "number" [.leaf "1"]]]
    let pair := Json.array [.bool true, .string "x"]
    (call.HeadsAreNodes ∧ ofJson? call.toJson = some call) ∧
      ofJson? pair = some (.sequence [.leaf "true", .leaf "x"]) ∧
      Begins pair [.leaf "true", .leaf "x"] := by
  intro call pair
  have hcall : call.HeadsAreNodes := by
    simp [call, headsAreNodes_tagged_iff, headsAreNodes_sequence_iff, headsAreNodes_leaf]
  have hpair : ofJson? pair = some (.sequence [.leaf "true", .leaf "x"]) := rfl
  exact ⟨⟨hcall, ofJson?_inverts_toJson.2.1 call hcall⟩, hpair,
    ofJson?_inverts_toJson.2.2 pair _ hpair _ .self⟩

end Node

end LinkedSheets
