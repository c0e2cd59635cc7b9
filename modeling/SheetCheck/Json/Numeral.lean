import SheetCheck.Json.Fault

/-!
# The value of a written number

A numeral without fraction and exponent is an integer when it fits a 64 bit word, signed or
not; a negative zero and all else are floating point numbers.  Of such a number the digits are
gathered in a 64 bit word as long as they fit, and the result is scaled by a power of ten.  Its
last bits are those of this computation, which rounds more than once.
-/

namespace SheetCheck.Json

/-- A number as it is written. -/
structure Numeral where
  /-- Whether a minus sign stands in front. -/
  negative : Bool
  /-- The digits before the point. -/
  whole : List Char
  /-- The digits behind the point, if there is one. -/
  fraction : Option (List Char)
  /-- Whether the exponent is negative, and its digits, if there is one. -/
  exponent : Option (Bool × List Char)

namespace Numeral

/-- The value of a decimal digit. -/
def digitValue (c : Char) : Nat := c.toNat - 0x30

/-- Adds digits to the end of a number as long as it stays at or below `limit`; answers the number
and the digits left over. -/
def gather (limit n : Nat) : List Char → Nat × List Char
  | [] => (n, [])
  | c :: cs =>
    let m := 10 * n + digitValue c
    if m ≤ limit then gather limit m cs else (n, c :: cs)

/-- The greatest unsigned 64 bit word. -/
def maxWord : Nat := UInt64.size - 1

/-- The greatest exponent that is read. -/
def maxExponent : Nat := 0x7FFFFFFF

/-- `x` scaled by a power of ten: one multiplication or division when the exponent is at most 308,
and repeated division by `1e308` before it when it is further below.  None when the result is
too large. -/
def scale (x : Float) : Int → Nat → Option Float
  | _, 0 => some x
  | e, fuel + 1 =>
    if e.natAbs ≤ 308 then
      let power := Float.ofScientific 1 false e.natAbs
      if 0 ≤ e then
        let y := x * power
        if y.isInf then none else some y
      else some (x / power)
    else if x == 0 then some x
    else if 0 ≤ e then none
    else scale (x / 1e308) (e + 308) fuel

/-- Keeps an exponent in 32 bits. -/
def clampExponent (e : Int) : Int :=
  max (-maxExponent - 1) (min e maxExponent)

/-- The floating point number for a significand and an exponent.  A number that has to be divided
more than three times is zero. -/
def floatOf (negative : Bool) (significand : Nat) (e : Int) : Except (Cause × Nat) Number :=
  match scale (UInt64.ofNat significand).toFloat e 5 with
  | some x => .ok (.float (if negative then -x else x))
  | none => .error (.numberOutOfRange, 0)

/-- The number that a numeral with fraction or exponent, or one that fits no word, stands for. -/
def toFloat (n : Numeral) : Except (Cause × Nat) Number :=
  let (significand, dropped) := gather maxWord 0 n.whole
  let digits := n.fraction.getD []
  let (significand, unused) := gather maxWord significand digits
  let shift : Int := dropped.length - (digits.length - unused.length : Nat)
  match n.exponent with
  | none => floatOf n.negative significand shift
  | some (below, ds) =>
    match gather maxExponent 0 ds with
    | (e, []) =>
      floatOf n.negative significand (clampExponent (if below then shift - e else shift + e))
    | (_, _ :: unread) =>
      if significand ≠ 0 ∧ !below then .error (.numberOutOfRange, unread.length)
      else .ok (.float (if n.negative then -0.0 else 0.0))

/-- The number a numeral stands for.  On failure, the cause and the number of characters of the
numeral behind the place where it shows. -/
def value (n : Numeral) : Except (Cause × Nat) Number :=
  match n.fraction, n.exponent, gather maxWord 0 n.whole with
  | none, none, (m, []) =>
    if !n.negative then .ok (.integer m)
    else if 1 ≤ m ∧ m ≤ 1 <<< 63 then .ok (.integer (-m))
    else n.toFloat
  | _, _, _ => n.toFloat

end Numeral

end SheetCheck.Json
