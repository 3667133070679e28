/-!
# Rounding quotients

The integers nearest to `num / den`. The two functions differ only where `num / den` lies half way
between two integers; `HalfRule` chooses one of them.
-/

namespace LinkedSheets

-- The nearest integer; a half goes to the even neighbour.
def roundHalfEven (num den : Nat) : Nat :=
  let q := num / den
  let r := num % den
  if 2 * r < den then q else if den < 2 * r then q + 1 else q + q % 2

-- The nearest integer; a half goes to the larger neighbour.
def roundHalfUp (num den : Nat) : Nat := (2 * num + den) / (2 * den)

theorem roundHalfEven_error (num : Nat) {den : Nat} (h : 0 < den) :
    2 * num ≤ (2 * roundHalfEven num den + 1) * den ∧
      2 * roundHalfEven num den * den ≤ 2 * num + den := by
  have hdiv := Nat.div_add_mod num den
  have hmod := Nat.mod_lt num h
  unfold roundHalfEven
  generalize num / den = q at *
  generalize num % den = r at *
  subst hdiv
  have e (k : Nat) : 2 * k * den = 2 * (den * k) := by
    rw [Nat.mul_assoc, Nat.mul_comm k den]
  simp only [Nat.add_mul, e, Nat.one_mul]
  split
  · omega
  · split
    · rw [Nat.mul_add den q 1, Nat.mul_one]; omega
    · rcases Nat.mod_two_eq_zero_or_one q with hq | hq <;> rw [hq]
      · rw [Nat.add_zero]; omega
      · rw [Nat.mul_add den q 1, Nat.mul_one]; omega

/-- Where a half goes. -/
inductive HalfRule where
  | toEven
  | up
deriving DecidableEq

def HalfRule.round : HalfRule → Nat → Nat → Nat
  | .toEven => roundHalfEven
  | .up => roundHalfUp

end LinkedSheets
