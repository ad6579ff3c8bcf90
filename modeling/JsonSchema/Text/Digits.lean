/-!
# `JsonSchema.Text.Digits` — numbers in ASCII digits

## Contents
- **Digits.** `digit?`: the value of a digit in a base up to sixteen.
- **Numbers.** `numeral?`: the number that digits write; `natural?` and `integer?`, with a sign and a limit.
- **Characters.** `character?`: the character with a number.
- **Laws.** `digit?_lt`, `numeral?_append_singleton`; `numeral?_toDigits`: reading undoes writing.
-/

namespace JsonSchema.Text

/-- The value of a digit in a base up to sixteen; the letters count in either case. -/
def digit? (base : Nat) (c : Char) : Option Nat :=
  let value :=
    if '0' ≤ c ∧ c ≤ '9' then c.toNat - '0'.toNat
    else if 'a' ≤ c ∧ c ≤ 'f' then c.toNat - 'a'.toNat + 10
    else if 'A' ≤ c ∧ c ≤ 'F' then c.toNat - 'A'.toNat + 10
    else base
  if value < base then some value else none

/-- The number that digits write; no digits write zero. -/
def numeral? (base : Nat) (digits : List Char) : Option Nat :=
  digits.foldlM (fun n c => (digit? base c).map (n * base + ·)) 0

/-- The natural below a limit that a text writes; a plus sign may stand before it. -/
def natural? (limit : Nat) (cs : List Char) : Option Nat :=
  let digits :=
    match cs with
    | '+' :: rest => rest
    | _ => cs
  if digits.isEmpty then none
  else (numeral? 10 digits).bind fun n => if n < limit then some n else none

/-- The integer that a text writes, from minus a limit up to below it; either sign may stand before it. -/
def integer? (limit : Nat) : List Char → Option Int
  | '-' :: digits =>
    if digits.isEmpty then none
    else (numeral? 10 digits).bind fun n => if n ≤ limit then some (-(n : Int)) else none
  | cs => (natural? limit cs).map Int.ofNat

/-- The character with a number, if there is one. -/
def character? (n : Nat) : Option Char := if n.isValidChar then some (Char.ofNat n) else none

/-- A digit is below its base. -/
theorem digit?_lt {base d : Nat} {c : Char} (h : digit? base c = some d) : d < base := by
  simp only [digit?, Option.ite_none_right_eq_some, Option.some.injEq] at h
  omega

/-- Another digit moves those before it up by one place. -/
theorem numeral?_append_singleton (base : Nat) (digits : List Char) (c : Char) :
    numeral? base (digits ++ [c]) =
      (numeral? base digits).bind fun n => (digit? base c).map (n * base + ·) := by
  simp [numeral?, List.foldlM_append]

theorem digit?_digitChar {d : Nat} (h : d < 10) : digit? 10 d.digitChar = some d := by
  have hall : ∀ d : Fin 10, digit? 10 d.val.digitChar = some d.val := by decide
  exact hall ⟨d, h⟩

/-- The digits of a number write it. -/
theorem numeral?_toDigits (n : Nat) : numeral? 10 (Nat.toDigits 10 n) = some n := by
  -- the last digit stands apart, so the induction is over the number without it
  induction n using Nat.strongRecOn with
  | ind n ih =>
    by_cases h : n < 10
    · rw [Nat.toDigits_of_lt_base h]
      simp [numeral?, digit?_digitChar h]
    · have hlast : n % 10 < 10 := Nat.mod_lt n (by decide)
      rw [Nat.toDigits_of_base_le (by decide) (by omega), numeral?_append_singleton,
        ih (n / 10) (by omega), digit?_digitChar hlast]
      show some (n / 10 * 10 + n % 10) = some n
      rw [Nat.div_add_mod' n 10]

/-- The digits of a number that is not zero do not begin with zero. -/
theorem head_toDigits {n : Nat} (h : 0 < n) :
    ∃ d rest, Nat.toDigits 10 n = Nat.digitChar d :: rest ∧ 0 < d ∧ d < 10 := by
  induction n using Nat.strongRecOn with
  | ind n ih =>
    by_cases hn : n < 10
    · exact ⟨n, [], Nat.toDigits_of_lt_base hn, h, hn⟩
    · obtain ⟨d, rest, hdigits, hpos, hlt⟩ := ih (n / 10) (by omega) (by omega)
      refine ⟨d, rest ++ [(n % 10).digitChar], ?_, hpos, hlt⟩
      rw [Nat.toDigits_of_base_le (by decide) (by omega), hdigits, List.cons_append]

end JsonSchema.Text
