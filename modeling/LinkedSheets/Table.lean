/-!
# Tables

Finite maps that remember in which order their keys first came. A later value for a key takes the
place of the earlier one.
-/

namespace LinkedSheets

structure Table (κ α : Type) where
  entries : List (κ × α)

namespace Table

variable {κ α : Type} [DecidableEq κ]

def empty : Table κ α := ⟨[]⟩

def putIn (k : κ) (a : α) : List (κ × α) → List (κ × α)
  | [] => [(k, a)]
  | (k', a') :: rest => if k' = k then (k, a) :: rest else (k', a') :: putIn k a rest

def put (t : Table κ α) (k : κ) (a : α) : Table κ α := ⟨putIn k a t.entries⟩

def get? (t : Table κ α) (k : κ) : Option α := t.entries.lookup k

def keys (t : Table κ α) : List κ := t.entries.map Prod.fst

def size (t : Table κ α) : Nat := t.entries.length

/-- The table of a list of entries, put in one after the other. -/
def ofList (entries : List (κ × α)) : Table κ α :=
  entries.foldl (fun t (k, a) => t.put k a) empty

@[simp] theorem get?_empty (k : κ) : (empty : Table κ α).get? k = none := rfl

theorem lookup_cons (k k' : κ) (a : α) (es : List (κ × α)) :
    ((k, a) :: es).lookup k' = if k' = k then some a else es.lookup k' := by
  by_cases h : k' = k
  · simp [h]
  · have hb : (k' == k) = false := by simpa using h
    rw [List.lookup_cons, hb, if_neg h]

theorem lookup_putIn (k k' : κ) (a : α) (es : List (κ × α)) :
    (putIn k a es).lookup k' = if k' = k then some a else es.lookup k' := by
  induction es with
  | nil => simp only [putIn, lookup_cons]
  | cons e rest ih =>
    obtain ⟨k₁, a₁⟩ := e
    simp only [putIn]
    split
    · rename_i h
      subst h
      simp only [lookup_cons]
      split <;> rfl
    · rename_i h
      simp only [lookup_cons, ih]
      by_cases hk : k' = k₁
      · subst hk
        simp [h]
      · simp [hk]

theorem get?_put (t : Table κ α) (k k' : κ) (a : α) :
    (t.put k a).get? k' = if k' = k then some a else t.get? k' :=
  lookup_putIn k k' a t.entries

theorem map_fst_putIn (k : κ) (a : α) (es : List (κ × α)) :
    (putIn k a es).map Prod.fst =
      if k ∈ es.map Prod.fst then es.map Prod.fst else es.map Prod.fst ++ [k] := by
  induction es with
  | nil => simp [putIn]
  | cons e rest ih =>
    obtain ⟨k₁, a₁⟩ := e
    simp only [putIn]
    split
    · rename_i h
      simp [h]
    · rename_i h
      have h' : ¬ k = k₁ := fun e => h e.symm
      simp only [List.map_cons, ih, List.mem_cons, h', false_or]
      split <;> simp

-- A key is only added where it is not yet.
theorem nodup_ite_append {k : κ} {ks : List κ} (h : ks.Nodup) :
    (if k ∈ ks then ks else ks ++ [k]).Nodup := by
  split
  · exact h
  · rename_i hnew
    refine List.nodup_append.mpr ⟨h, by simp, ?_⟩
    intro x hx added hadded hxk
    rw [List.mem_singleton.mp hadded] at hxk
    exact hnew (hxk ▸ hx)

theorem nodup_putIn (k : κ) (a : α) {es : List (κ × α)} (h : (es.map Prod.fst).Nodup) :
    ((putIn k a es).map Prod.fst).Nodup := by
  rw [map_fst_putIn]
  exact nodup_ite_append h

theorem keys_put (t : Table κ α) (k : κ) (a : α) :
    (t.put k a).keys = if k ∈ t.keys then t.keys else t.keys ++ [k] :=
  map_fst_putIn k a t.entries

end Table

end LinkedSheets
