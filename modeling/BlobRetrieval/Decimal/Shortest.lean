import BlobRetrieval.Decimal

/-!
# Shortest decimal text of a binary number

A finite binary number of 64 bits is written with the fewest decimal digits that
still tell it apart from its neighbours, and with the digits nearest to it among
those. Everything is computed with whole numbers from the bit pattern.
-/

set_option autoImplicit false

namespace BlobRetrieval.Decimal

structure Interval where
  low : Nat
  value : Nat
  high : Nat
  denominator : Nat
  closed : Bool

/-- The interval that rounds to `significand · 2 ^ (exponent - 1075)`. The gap below is halved
where the significand is the least of its binade; an even significand takes the ends. -/
def interval (significand exponent : Nat) : Interval :=
  let up := Nat.pow 2 (exponent - 1077)
  let narrow := significand = Nat.pow 2 52 ∧ 1 < exponent
  { low := (4 * significand - if narrow then 1 else 2) * up
    value := 4 * significand * up
    high := (4 * significand + 2) * up
    denominator := Nat.pow 2 (1077 - exponent)
    closed := significand % 2 = 0 }

def Interval.holds (i : Interval) (n : Nat) : Bool :=
  if i.closed then i.low ≤ n && n ≤ i.high else i.low < n && n < i.high

def Interval.scale (i : Interval) (power : Nat) : Interval :=
  let times := Nat.pow 10 power
  { i with low := i.low * times, value := i.value * times, high := i.high * times }

def leadingZeros (value denominator : Nat) : Nat → Nat
  | 0 => 0
  | fuel + 1 =>
    if denominator ≤ value then 0 else leadingZeros (value * 10) denominator fuel + 1

def Interval.nearest? (i : Interval) (unit : Nat) : Option Nat :=
  let below := i.value / unit
  let downFits := i.holds (below * unit)
  let upFits := i.holds ((below + 1) * unit)
  let down := i.value - below * unit
  let up := (below + 1) * unit - i.value
  if downFits && (!upFits || down < up || (down = up && below % 2 = 0)) then
    some below
  else if upFits then some (below + 1)
  else none

def Interval.search (i : Interval) (unit : Nat) : Nat → Nat × Nat
  | 0 => (i.value / unit, 0)
  | places + 1 =>
    match i.nearest? (unit * Nat.pow 10 places) with
    | some n => (n, places)
    | none => i.search unit places

structure Digits where
  digits : Nat
  power : Int

def shortest (significand exponent : Nat) : Digits :=
  let i := interval significand exponent
  let whole := i.value / i.denominator
  if 0 < whole then
    let places := (Decimal.digits whole).length
    let shift := 17 - places
    let unit := i.denominator * Nat.pow 10 (places - 17)
    let (n, skipped) := (i.scale shift).search unit 17
    trim n ((skipped : Int) + (places : Int) - 17)
  else
    let zeros := leadingZeros i.value i.denominator 400
    let (n, skipped) := (i.scale (zeros + 16)).search i.denominator 17
    trim n ((skipped : Int) - (zeros : Int) - 16)
where
  trim (n : Nat) (power : Int) : Digits :=
    let ds := (Decimal.digits n).reverse
    let zeros := (ds.takeWhile (· = '0')).length
    ⟨n / Nat.pow 10 zeros, power + zeros⟩

/-- Positional from `10 ^ -5` up to below `10 ^ 16`, and with a signed exponent outside;
a positional number always has a fraction. -/
def layOut (d : Digits) : List Char :=
  let ds := Decimal.digits d.digits
  let x := (ds.length : Int) - 1 + d.power
  if 16 ≤ x ∨ x < -5 then
    let mantissa := match ds with
      | [one] => [one]
      | one :: rest => one :: '.' :: rest
      | [] => []
    let sign := if x < 0 then '-' else '+'
    mantissa ++ 'e' :: sign :: Decimal.digits x.natAbs
  else if x < 0 then
    '0' :: '.' :: (List.replicate (x.natAbs - 1) '0' ++ ds)
  else if 0 ≤ d.power then
    ds ++ List.replicate d.power.toNat '0' ++ ['.', '0']
  else
    ds.take (x.toNat + 1) ++ '.' :: ds.drop (x.toNat + 1)

def ofBits (bits : UInt64) : List Char :=
  let n := bits.toNat
  let fraction := n % Nat.pow 2 52
  let exponent := n / Nat.pow 2 52 % Nat.pow 2 11
  let sign := if Nat.pow 2 63 ≤ n then ['-'] else []
  if exponent = 0 then
    if fraction = 0 then sign ++ ['0', '.', '0'] else sign ++ layOut (shortest fraction 1)
  else sign ++ layOut (shortest (Nat.pow 2 52 + fraction) exponent)

end BlobRetrieval.Decimal
