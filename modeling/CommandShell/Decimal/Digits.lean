/-
# Decimal digits

Reading a run of ASCII digits as a number and writing a number as one.  Only the
ten ASCII digits count: digits of other scripts are letters here.
-/

namespace CommandShell.Decimal

/-- One of the ten ASCII digits. -/
def isDigit (c : Char) : Bool :=
  '0' ≤ c && c ≤ '9'

/-- The value of an ASCII digit. -/
def digitValue (c : Char) : Nat :=
  c.toNat - 0x30

/-- A run of at least one ASCII digit and nothing else. -/
def isNumeral (text : List Char) : Bool :=
  !text.isEmpty && text.all isDigit

/-- The number that a run of digits denotes when `before` is the value of the
digits already read. -/
def valueFrom (before : Nat) : List Char → Nat
  | [] => before
  | c :: rest => valueFrom (before * 10 + digitValue c) rest

/-- The number that a run of digits denotes. -/
def value (digits : List Char) : Nat :=
  valueFrom 0 digits

@[simp] theorem value_nil : value [] = 0 := rfl

theorem valueFrom_append (before : Nat) (s t : List Char) :
    valueFrom before (s ++ t) = valueFrom (valueFrom before s) t := by
  induction s generalizing before with
  | nil => rfl
  | cons c s ih => exact ih _

/-- The last digit counts units and the digits before it tens. -/
theorem value_append_singleton (digits : List Char) (c : Char) :
    value (digits ++ [c]) = value digits * 10 + digitValue c :=
  valueFrom_append 0 digits [c]

/-- The digit of a number below ten. -/
def digit (n : Nat) : Char :=
  Char.ofNat (0x30 + n)

/-- A digit has the value it was made from. -/
theorem digitValue_digit {n : Nat} (h : n < 10) : digitValue (digit n) = n :=
  (by decide : ∀ m, m < 10 → digitValue (digit m) = m) n h

/-- A number in decimal digits, without leading zeros. -/
def numeral (n : Nat) : List Char :=
  if n < 10 then [digit n] else numeral (n / 10) ++ [digit (n % 10)]

/-- A single digit denotes its value. -/
theorem value_singleton (c : Char) : value [c] = digitValue c :=
  Nat.zero_add _

/-- Reading gives back what was written. -/
@[simp] theorem value_numeral (n : Nat) : value (numeral n) = n := by
  induction n using Nat.strongRecOn with
  | ind n ih =>
    by_cases h : n < 10
    · rw [numeral, if_pos h, value_singleton, digitValue_digit h]
    · rw [numeral, if_neg h, value_append_singleton, ih (n / 10) (by omega),
        digitValue_digit (Nat.mod_lt n (by decide))]
      omega

/-- A whole number in decimal digits, with a sign if it is negative. -/
def integer (n : Int) : String :=
  String.ofList (if n < 0 then '-' :: numeral n.natAbs else numeral n.natAbs)

end CommandShell.Decimal
