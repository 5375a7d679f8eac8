/-
# Shortest decimals

The text of a binary floating point number: the fewest digits that read back as
the same number, and of those the nearest to it.  The search walks the decimal
grids from coarse to fine and asks of the two neighbours of the number on each
grid whether they lie in the interval of reals that round to it.
-/

import CommandShell.Decimal.Binary64

namespace CommandShell.Decimal

/-- The reals that round to a positive number, as numerators over one common
denominator: the number itself and the two ends of the interval, which belong to
it when the significand is even. -/
structure Interval where
  low : Nat
  number : Nat
  high : Nat
  denominator : Nat
  closed : Bool
  deriving Repr

/-- The interval of a positive number.  Below a power of two the spacing is half
of that above it, unless the exponent is already the least. -/
def Interval.of (significand : Nat) (exponent : Int) : Interval :=
  let narrow :=
    significand = Nat.pow 2 (Binary64.precision - 1) ∧ Binary64.leastExponent < exponent
  let up := Nat.pow 2 exponent.toNat
  let down := Nat.pow 2 (-exponent).toNat
  { low := (4 * significand - if narrow then 1 else 2) * up
    number := 4 * significand * up
    high := (4 * significand + 2) * up
    denominator := 4 * down
    closed := significand % 2 == 0 }

/-- A multiple of a power of ten, compared with the interval by clearing the
denominators. -/
def Interval.contains (i : Interval) (digits : Nat) (scale : Int) : Bool :=
  let point := digits * Nat.pow 10 scale.toNat * i.denominator
  let unit := Nat.pow 10 (-scale).toNat
  if i.closed then i.low * unit ≤ point && point ≤ i.high * unit
  else i.low * unit < point && point < i.high * unit

/-- The neighbours of the number among the multiples of `10 ^ scale`, the nearer
one first; of two equally near ones, the even one. -/
def Interval.neighbours (i : Interval) (scale : Int) : List Nat :=
  let numerator := i.number * Nat.pow 10 (-scale).toNat
  let denominator := i.denominator * Nat.pow 10 scale.toNat
  let below := numerator / denominator
  let rest := numerator % denominator
  if 2 * rest < denominator ∨ (2 * rest = denominator ∧ below % 2 = 0) then [below, below + 1]
  else [below + 1, below]

/-- The number of digits before the decimal point of the number, which is zero
or negative for a number below one tenth.  `bound` is at least that number. -/
def Interval.pointPosition (i : Interval) : (steps : Nat) → (bound : Int) → Int
  | 0, bound => bound
  | steps + 1, bound =>
    if Nat.pow 10 (bound - 1).toNat * i.denominator ≤ i.number * Nat.pow 10 (1 - bound).toNat then
      bound
    else i.pointPosition steps (bound - 1)

/-- Searches the grids with ever more digits. -/
def Interval.search (i : Interval) (position : Int) : (steps : Nat) → (digits : Nat) → Nat × Int
  | 0, digits => (((i.neighbours (position - digits)).headD 0), position - digits)
  | steps + 1, digits =>
    match (i.neighbours (position - digits)).find? (i.contains · (position - digits)) with
    | some found => (found, position - digits)
    | none => i.search position steps (digits + 1)

/-- The shortest decimal of a positive number, as digits and a power of ten. -/
def shortest (significand : Nat) (exponent : Int) : Nat × Int :=
  let i := Interval.of significand exponent
  i.search (i.pointPosition 700 310) 17 1

/-- How a decimal is laid out: positional notation serves for numbers whose
decimal point falls at or after `leastPoint` and at or before `greatestPoint`
digits, and an exponent has at least `exponentDigits` digits. -/
structure Layout where
  leastPoint : Int
  greatestPoint : Int
  exponentDigits : Nat
  deriving Repr

/-- Values between one ten-thousandth and ten to the sixteenth are positional,
and an exponent has two digits or more. -/
def Layout.standard : Layout := ⟨-3, 16, 2⟩

/-- Zeros in front of a text up to a least width. -/
def padZeros (width : Nat) (digits : List Char) : List Char :=
  List.replicate (width - digits.length) '0' ++ digits

/-- The digits of a decimal without the zeros at its end. -/
def trimZeros (digits : List Char) : List Char :=
  (digits.reverse.dropWhile (· == '0')).reverse

/-- Digits with the point behind the first `point` of them. -/
def Layout.write (layout : Layout) (digits : List Char) (point : Int) : List Char :=
  if layout.leastPoint ≤ point ∧ point ≤ layout.greatestPoint then
    if point ≤ 0 then
      '0' :: '.' :: List.replicate point.natAbs '0' ++ digits
    else
      let whole := digits.take point.toNat
      let fraction := digits.drop point.toNat
      whole ++ List.replicate (point.toNat - whole.length) '0' ++
        '.' :: (if fraction.isEmpty then ['0'] else fraction)
  else
    let power := point - 1
    let mantissa := match digits with
      | [] => []
      | [d] => [d]
      | d :: rest => d :: '.' :: rest
    mantissa ++ 'e' :: (if power < 0 then '-' else '+') ::
      padZeros layout.exponentDigits (toString power.natAbs).toList

/-- The text of a number. -/
def Binary64.text : Binary64 → String
  | .nan => "nan"
  | .infinite negative => if negative then "-inf" else "inf"
  | .finite negative significand exponent =>
    let unsigned :=
      if significand = 0 then "0.0".toList
      else
        let (digits, scale) := shortest significand exponent
        let all := (toString digits).toList
        Layout.standard.write (trimZeros all) (all.length + scale)
    String.ofList (if negative then '-' :: unsigned else unsigned)

end CommandShell.Decimal
