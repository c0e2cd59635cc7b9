/-!
# Shortest decimals

A finite floating point number stands for all reals that round to it.  Among the decimals in
that interval the *shortest* is the one with the fewest digits, and of those the one nearest to
the number itself.  The interval and the decimals are compared exactly, in natural numbers.
-/

namespace SheetCheck.Decimal

/-- A decimal number, `significand * 10 ^ exponent`. -/
structure Scaled where
  significand : Nat
  exponent : Int
deriving DecidableEq, Repr

namespace Scaled

/-- The digits of the significand. -/
def digits (d : Scaled) : List Char :=
  Nat.toDigits 10 d.significand

/-- The power of ten that the first digit counts. -/
def magnitude (d : Scaled) : Int :=
  d.exponent + (d.digits.length - 1 : Nat)

/-- The same number without zeros at the end of its significand, of which at most `fuel` are
taken away. -/
def strip : Nat → Scaled → Scaled
  | 0, d => d
  | fuel + 1, d =>
    if d.significand ≠ 0 ∧ d.significand % 10 = 0 then
      strip fuel ⟨d.significand / 10, d.exponent + 1⟩
    else d

end Scaled

/-- A positive number `value / unit` together with the interval from `lower / unit` to
`upper / unit` of the reals that round to it, whose ends belong to it when `closed`. -/
structure Rounding where
  value : Nat
  lower : Nat
  upper : Nat
  closed : Bool
  unit : Nat

namespace Rounding

/-- The interval of a positive finite number with the given bits. -/
def ofBits (bits : UInt64) : Rounding :=
  let fraction := bits.toNat % (1 <<< 52)
  let field := bits.toNat >>> 52 % (1 <<< 11)
  let m := if field = 0 then fraction else fraction + (1 <<< 52)
  let q := max field 1
  -- the number is `4 * m` quarter steps, and a quarter step is `2 ^ (q - 1077)`
  let below := if fraction = 0 ∧ 1 < field then 1 else 2
  let scale := 1 <<< (q - 1077)
  ⟨4 * m * scale, (4 * m - below) * scale, (4 * m + 2) * scale, m % 2 = 0, 1 <<< (1077 - q)⟩

/-- Whether the interval holds `n / den`, with `den` counted in units. -/
def holds (r : Rounding) (n den : Nat) : Bool :=
  if r.closed then r.lower * den ≤ n && n ≤ r.upper * den
  else r.lower * den < n && n < r.upper * den

/-- The exponent of the greatest power of ten that is not above the number. -/
def magnitude (r : Rounding) : Int :=
  if r.unit ≤ r.value then ((Nat.toDigits 10 (r.value / r.unit)).length - 1 : Nat)
  else
    -- the least `j` with `unit ≤ value * 10 ^ j`
    -((Nat.toDigits 10 ((r.unit + r.value - 1) / r.value - 1)).length : Int)

/-- The multiple of `10 ^ exponent` in the interval that is nearest to the number, if there is
one; of two equally near ones the even one. -/
def nearest? (r : Rounding) (exponent : Int) : Option Scaled :=
  let step := r.unit * Nat.pow 10 exponent.toNat
  let den := Nat.pow 10 (-exponent).toNat
  let low := r.value * den / step
  let rest := r.value * den % step
  let inLow := r.holds (low * step) den
  let inHigh := r.holds ((low + 1) * step) den
  let high : Bool := inHigh && (!inLow || step < 2 * rest || (2 * rest = step && low % 2 = 1))
  if high then some ⟨low + 1, exponent⟩
  else if inLow then some ⟨low, exponent⟩
  else none

/-- The first hit on the grids with `count`, `count + 1`, … digits. -/
def search (r : Rounding) (count : Nat) : Nat → Scaled
  | 0 => ⟨0, 0⟩
  | more + 1 =>
    match r.nearest? (r.magnitude + 1 - count) with
    | some d => d.strip 20
    | none => r.search (count + 1) more

/-- The shortest decimal of the interval.  Seventeen digits always tell a number from its
neighbours. -/
def shortest (r : Rounding) : Scaled :=
  r.search 1 17

end Rounding

/-- How a number is laid out: where positional writing ends, and how many digits the exponent
has at least. -/
structure Layout where
  /-- The least magnitude that is written without an exponent. -/
  least : Int
  /-- The greatest magnitude that is written without an exponent. -/
  greatest : Int
  /-- The least number of digits of an exponent. -/
  exponentWidth : Nat

namespace Layout

/-- The digits with a point after the first `n`. -/
def point (n : Nat) (ds : List Char) : List Char :=
  match ds.drop n with
  | [] => ds.take n ++ ['.', '0']
  | rest => ds.take n ++ '.' :: rest

/-- An exponent, with its sign. -/
def exponent (l : Layout) (e : Int) : List Char :=
  let ds := Nat.toDigits 10 e.natAbs
  'e' :: (if e < 0 then '-' else '+') :: List.replicate (l.exponentWidth - ds.length) '0' ++ ds

/-- A positive decimal as text. -/
def write (l : Layout) (d : Scaled) : List Char :=
  let ds := d.digits
  let e := d.magnitude
  if e < l.least ∨ l.greatest < e then
    match ds with
    | [c] => c :: l.exponent e
    | _ => point 1 ds ++ l.exponent e
  else if e < 0 then '0' :: '.' :: List.replicate ((-e).toNat - 1) '0' ++ ds
  else point (e.toNat + 1) (ds ++ List.replicate (e.toNat + 1 - ds.length) '0')

/-- A finite floating point number as text: its sign, also that of a negative zero, and its
shortest decimal. -/
def float (l : Layout) (x : Float) : List Char :=
  let bits := x.toBits.toNat % (1 <<< 63)
  let text := if bits = 0 then ['0', '.', '0']
    else l.write (Rounding.ofBits (UInt64.ofNat bits)).shortest
  if x.toBits.toNat < 1 <<< 63 then text else '-' :: text

end Layout

end SheetCheck.Decimal
