/-!
Rounding of quotients, and numbers written with a fixed number of places.
-/

namespace Refit.Number

-- A power of two.
def twos (n : Nat) : Nat :=
  Nat.pow 2 n

-- A power of ten.
def tens (n : Nat) : Nat :=
  Nat.pow 10 n

-- The integer nearest to a quotient; a half goes to the even neighbour.
def roundDiv (num den : Nat) : Nat :=
  let q := num / den
  let r := num % den
  if 2 * r < den then q else if den < 2 * r then q + 1 else if q % 2 == 0 then q else q + 1

-- The sign bit, and the magnitude as `m · 2 ^ e`.
structure Binary where
  negative : Bool
  mantissa : Nat
  exponent : Int
  deriving DecidableEq, Repr

-- The exact value of a finite float.
def binary (x : Float) : Binary :=
  let b := x.toBits.toNat
  let field := b / twos 52 % twos 11
  let frac := b % twos 52
  { negative := b / twos 63 == 1
    mantissa := if field == 0 then frac else frac + twos 52
    exponent := if field == 0 then -1074 else Int.ofNat field - 1075 }

namespace Binary

def num (v : Binary) : Nat :=
  if 0 ≤ v.exponent then v.mantissa * twos v.exponent.toNat else v.mantissa

def den (v : Binary) : Nat :=
  if 0 ≤ v.exponent then 1 else twos (-v.exponent).toNat

-- The magnitude times `10 ^ places`, rounded to an integer.
def scaled (v : Binary) (places : Nat) : Nat :=
  roundDiv (v.num * tens places) v.den

-- The value rounded to an integer.
def nearest (v : Binary) : Int :=
  let n := Int.ofNat (v.scaled 0)
  if v.negative then -n else n

-- The value without its fraction.
def truncated (v : Binary) : Int :=
  let n := Int.ofNat (v.num / v.den)
  if v.negative then -n else n

end Binary

-- The float nearest to a quotient; a half goes to the even neighbour. What is too large for a
-- float is infinite.
def nearestFloat (num den : Nat) : Float :=
  if num == 0 then 0
  else
    -- With this exponent or the one below it the mantissa has its full length.
    let top := Int.ofNat num.log2 - Int.ofNat den.log2 - 52
    let scaled (e : Int) : Nat × Nat :=
      if e < 0 then (num * twos e.natAbs, den) else (num, den * twos e.natAbs)
    let isShort := (scaled top).1 < twos 52 * (scaled top).2
    let e := max (if isShort then top - 1 else top) (-1074)
    let mantissa := roundDiv (scaled e).1 (scaled e).2
    let bits := (e + 1074).toNat * twos 52 + mantissa
    Float.ofBits (UInt64.ofNat (min bits (twos 63 - twos 52)))

def padLeft (width : Nat) (c : Char) (s : String) : String :=
  String.ofList (List.replicate (width - s.length) c) ++ s

-- A float with a fixed number of places.
def fixed (places : Nat) (x : Float) : String :=
  if x.isNaN then "nan"
  else if x.isInf then (if x < 0 then "-inf" else "inf")
  else
    let v := binary x
    let n := v.scaled places
    let whole := toString (n / tens places)
    let text :=
      if places == 0 then whole
      else whole ++ "." ++ padLeft places '0' (toString (n % tens places))
    if v.negative then "-" ++ text else text

-- A share as a whole number of percent.
def percent (x : Float) : String :=
  fixed 0 (x * 100) ++ "%"

-- Digits in groups of three from the right.
def grouped (digits : List Char) : List Char :=
  (go 0 digits.reverse).reverse
where
  go : Nat → List Char → List Char
    | _, [] => []
    | 3, c :: r => ',' :: c :: go 1 r
    | n, c :: r => c :: go (n + 1) r

-- An integer with a comma between groups of three digits.
def withCommas (i : Int) : String :=
  let s := String.ofList (grouped (toString i.natAbs).toList)
  if i < 0 then "-" ++ s else s

end Refit.Number
