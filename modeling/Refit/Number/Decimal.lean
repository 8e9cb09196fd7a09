import Refit.Number.Rounding

/-!
The shortest decimal text of a float: the fewest digits that read back as the same float, and of
those the nearest.
-/

namespace Refit.Number.Decimal

-- The reals that read back as one float, as fractions over a common denominator. The ends belong
-- to the interval iff `closed`.
structure Interval where
  low : Nat
  value : Nat
  high : Nat
  den : Nat
  closed : Bool
  deriving Repr

def interval (v : Binary) : Interval :=
  -- Quarters of the last place make both half gaps whole.
  let unit := if 0 ≤ v.exponent then twos v.exponent.toNat else 1
  let den := if 0 ≤ v.exponent then 4 else 4 * twos (-v.exponent).toNat
  let below := if v.mantissa == twos 52 && v.exponent != -1074 then unit else 2 * unit
  let value := 4 * v.mantissa * unit
  ⟨value - below, value, value + 2 * unit, den, v.mantissa % 2 == 0⟩

namespace Interval

def holds (i : Interval) (num den : Nat) : Bool :=
  let x := num * i.den
  (i.low * den < x && x < i.high * den) || (i.closed && (i.low * den == x || x == i.high * den))

-- `d · 10 ^ e` as a fraction.
def point (d : Nat) (e : Int) : Nat × Nat :=
  if 0 ≤ e then (d * tens e.toNat, 1) else (d, tens (-e).toNat)

-- The neighbour of the value on the grid of multiples of `10 ^ e` that lies in the interval.
def onGrid? (i : Interval) (e : Int) : Option Nat :=
  let (unit, per) := point 1 e
  let below := i.value * per / (i.den * unit)
  let inside (d : Nat) : Bool := i.holds (point d e).1 (point d e).2
  -- Twice the value against the sum of both neighbours.
  let left := 2 * i.value * per
  let right := (2 * below + 1) * unit * i.den
  match inside below, inside (below + 1) with
  | true, true =>
    some (if left < right then below else if right < left then below + 1
      else if below % 2 == 0 then below else below + 1)
  | true, false => some below
  | false, true => some (below + 1)
  | false, false => none

def shortestFrom (i : Interval) : Nat → Int → Nat × Int
  | 0, e => (((i.onGrid? e).getD 0), e)
  | n + 1, e =>
    match i.onGrid? e with
    | some d => (d, e)
    | none => shortestFrom i n (e - 1)

end Interval

-- Whether the value is at least `10 ^ e`.
def reaches (i : Interval) (e : Int) : Bool :=
  let (n, d) := Interval.point 1 e
  n * i.den ≤ i.value * d

-- The largest exponent up to `e` whose power of ten the value reaches.
def magnitude (i : Interval) : Nat → Int → Int
  | 0, e => e
  | n + 1, e => if reaches i e then e else magnitude i n (e - 1)

-- The digits `d` and the exponent `e` of the shortest decimal `d · 10 ^ e`.
def shortest (v : Binary) : Nat × Int :=
  let i := interval v
  let top := magnitude i 640 309
  let (d, e) := i.shortestFrom 17 top
  trimZeros 20 d e
where
  trimZeros : Nat → Nat → Int → Nat × Int
    | 0, d, e => (d, e)
    | n + 1, d, e => if d != 0 && d % 10 == 0 then trimZeros n (d / 10) (e + 1) else (d, e)

-- How a decimal is laid out.
structure Layout where
  -- The exponents of the first digit that are written in positional notation.
  firstPlace : Int
  lastPlace : Int
  -- What stands for a fraction that is nothing.
  whole : String
  mark : String
  exponentWidth : Nat
  notNumber : String
  infinite : String

-- Positional from `0.0001` up to sixteen places, and at least one place after the point.
def Layout.plain : Layout :=
  { firstPlace := -4, lastPlace := 15, whole := ".0", mark := "e", exponentWidth := 2
    notNumber := "nan", infinite := "inf" }

def Layout.write (l : Layout) (x : Float) : String :=
  if x.isNaN then l.notNumber
  else
    let v := binary x
    let sign := if v.negative then "-" else ""
    if x.isInf then sign ++ l.infinite
    else if v.mantissa == 0 then sign ++ "0" ++ l.whole
    else
      let (d, e) := shortest v
      let digits := (toString d).toList
      let place := e + Int.ofNat digits.length - 1
      sign ++
        if l.firstPlace ≤ place && place ≤ l.lastPlace then
          if 0 ≤ e then String.ofList (digits ++ List.replicate e.toNat '0') ++ l.whole
          else if 0 ≤ place then
            let n := place.toNat + 1
            String.ofList (digits.take n) ++ "." ++ String.ofList (digits.drop n)
          else "0." ++ String.ofList (List.replicate (-place - 1).toNat '0' ++ digits)
        else
          let head := String.ofList (digits.take 1)
          let tail := String.ofList (digits.drop 1)
          let power := padLeft l.exponentWidth '0' (toString place.natAbs)
          head ++ (if tail.isEmpty then "" else "." ++ tail) ++ l.mark
            ++ (if place < 0 then "-" else "+") ++ power

-- The float nearest to `± d · 10 ^ e`.
def toFloat (negative : Bool) (d : Nat) (e : Int) : Float :=
  let digits := Int.ofNat (toString d).length
  let x :=
    if d == 0 || digits + e < -400 then 0.0
    else if 400 < digits + e then 1.0 / 0.0
    else if e < 0 then nearestFloat d (tens e.natAbs)
    else nearestFloat (d * tens e.natAbs) 1
  if negative then -x else x

end Refit.Number.Decimal

namespace Refit.Number

-- The shortest text that reads back as the float.
def shortText (x : Float) : String :=
  Decimal.Layout.plain.write x

end Refit.Number
