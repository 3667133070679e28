/-!
# Decimal digits

A number written in base ten and read back: `ofDigits (digits n) = n`.
-/

namespace LinkedSheets.Text

def digitValue (c : Char) : Nat := c.toNat - '0'.toNat

def digitChar (d : Nat) : Char := Char.ofNat ('0'.toNat + d % 10)

/-- The base ten digits of a number, without leading zeros; zero is written `0`. -/
def digits (n : Nat) : List Char :=
  if n < 10 then [digitChar n] else digits (n / 10) ++ [digitChar n]
termination_by n

def ofDigitsFrom (acc : Nat) (cs : List Char) : Nat :=
  cs.foldl (fun n c => n * 10 + digitValue c) acc

def ofDigits (cs : List Char) : Nat := ofDigitsFrom 0 cs

/-- A number in at least `width` characters, filled up on the left. -/
def padded (fill : Char) (width : Nat) (cs : List Char) : List Char :=
  List.replicate (width - cs.length) fill ++ cs

def natText (n : Nat) : String := String.ofList (digits n)

def intText (i : Int) : String :=
  if i < 0 then "-" ++ natText i.natAbs else natText i.natAbs

theorem digitValue_digitChar (d : Nat) : digitValue (digitChar d) = d % 10 := by
  have h : d % 10 < 10 := Nat.mod_lt _ (by decide)
  unfold digitValue digitChar
  generalize d % 10 = r at h
  match r, h with
  | 0, _ | 1, _ | 2, _ | 3, _ | 4, _ | 5, _ | 6, _ | 7, _ | 8, _ | 9, _ => decide
  | r + 10, h => omega

theorem ofDigits_digits (n : Nat) : ofDigits (digits n) = n := by
  induction n using Nat.strongRecOn with
  | ind n ih =>
    rw [digits]
    split
    · rename_i h
      simp [ofDigits, ofDigitsFrom, digitValue_digitChar, Nat.mod_eq_of_lt h]
    · rename_i h
      have hlt : n / 10 < n := Nat.div_lt_self (by omega) (by decide)
      have := ih _ hlt
      simp only [ofDigits, ofDigitsFrom] at this
      simp only [ofDigits, ofDigitsFrom, List.foldl_append, List.foldl_cons, List.foldl_nil, this,
        digitValue_digitChar]
      omega

end LinkedSheets.Text
