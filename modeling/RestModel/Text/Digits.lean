/-! # Digits

Rows of digits of a base from two to sixteen, and characters given by number. -/

namespace RestModel.Text

def hexValue? (c : Char) : Option Nat :=
  if '0' ≤ c ∧ c ≤ '9' then some (c.toNat - 48)
  else if 'a' ≤ c ∧ c ≤ 'f' then some (c.toNat - 87)
  else if 'A' ≤ c ∧ c ≤ 'F' then some (c.toNat - 55)
  else none

/-- The value of a row of digits of a base from two to sixteen. -/
def digitsOf? (base : Nat) (digits : List Char) : Option Nat :=
  if digits.isEmpty then
    none
  else
    digits.foldlM (fun value c => do
      let digit ← hexValue? c
      if digit < base then some (value * base + digit) else none) 0

def digitsValue (digits : List Char) : Nat :=
  digits.foldl (fun value c => value * 10 + (c.toNat - 48)) 0

def charOfHex? (digits : List Char) : Option Char := do
  let value ← digitsOf? 16 digits
  if value.isValidChar then some (Char.ofNat value) else none

end RestModel.Text
