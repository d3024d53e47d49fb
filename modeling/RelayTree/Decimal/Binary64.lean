/-!
# Double precision numbers

A number is held by its 64 bits, so equality is decidable and a copy is exact.
Arithmetic is done on the exact rational value and rounded once, to the nearest
representable value and on a tie to the even one. Only what reading a decimal
numeral needs is here: conversion of a natural number, one multiplication, one
division, and scaling by a power of ten.
-/
namespace RelayTree

/-- A power of two, in which the scales of doubles and the fields of their bits are told. -/
def twoTo (exponent : Nat) : Nat := Nat.pow 2 exponent

/-- A power of ten, in which the exponents of decimal numerals are told. -/
def tenTo (exponent : Nat) : Nat := Nat.pow 10 exponent

/-- A double precision number, by its bits: sign, eleven bits of exponent,
fifty-two bits of fraction. -/
structure Binary64 where
  bits : UInt64
deriving DecidableEq, Repr, Inhabited

/-- A quotient rounded to the nearest integer, a half to the even one. -/
def roundDiv (num den : Nat) : Nat :=
  let quotient := num / den
  let rest := num % den
  if den < 2 * rest then quotient + 1
  else if 2 * rest = den then quotient + quotient % 2
  else quotient

/-- A finite magnitude `significand · 2 ^ (scale - 1074)`. The least exponent
is that of the smallest positive double, so the scale is a natural number. -/
structure Magnitude where
  significand : Nat
  scale : Nat
deriving DecidableEq, Repr

namespace Magnitude

/-- The numerator of the value over `2 ^ 1074`, which all finite magnitudes have as a
denominator. -/
def numerator (x : Magnitude) : Nat := x.significand * twoTo x.scale

/-- Whether the value is zero, which no scale can make anything else. -/
def isZero (x : Magnitude) : Bool := x.significand = 0

/-- The largest `e` with `2 ^ e * den ≤ num * 2 ^ 1074`, for positive numbers:
the binary exponent of a quotient, counted from the least one. -/
def binaryExponent (num den : Nat) : Nat :=
  Nat.log2 (num * twoTo 1074 / den)

/-- The double nearest to `num / den`; `none` when that is beyond the finite
range. A quotient too small for fifty-three significant bits keeps the least
scale and fewer bits. -/
def nearest (num den : Nat) : Option Magnitude :=
  let scale := binaryExponent num den - 52
  let significand := roundDiv (num * twoTo 1074) (den * twoTo scale)
  let carried : Magnitude :=
    if significand = twoTo 53 then ⟨twoTo 52, scale + 1⟩ else ⟨significand, scale⟩
  if carried.scale < 2046 then some carried else none

/-- The double nearest to a natural number, unless that is beyond the finite range. -/
def ofNat (n : Nat) : Option Magnitude := nearest n 1

/-- Product, rounded once, from the exact product of the two values. -/
def mul (x y : Magnitude) : Option Magnitude :=
  nearest (x.numerator * y.numerator) (twoTo 1074 * twoTo 1074)

/-- Quotient, rounded once; the divisor is not zero where this is used. -/
def div (x y : Magnitude) : Option Magnitude := nearest x.numerator y.numerator

/-- The largest power of ten that is a finite double. Dividing by a larger one is done in several
steps. -/
def largestTen : Nat := 308

/-- The double nearest to a power of ten. Beyond the twenty-second this is not the power itself. -/
def powerOfTen (n : Nat) : Option Magnitude := ofNat (tenTo n)

/-- Divide several times by the largest representable power of ten. Zero stays
zero, so the steps end there. -/
def divideRepeatedly (x : Magnitude) : Nat → Option Magnitude
  | 0 => some x
  | steps + 1 =>
    if x.isZero then some x
    else do
      let quotient ← x.div (← powerOfTen largestTen)
      quotient.divideRepeatedly steps

/-- Divide by a power of ten. One that is too large to be a double is split into
factors of the largest representable one and a rest, which divides last. -/
def divideByTens (x : Magnitude) (n : Nat) : Option Magnitude := do
  let steps := (n - 1) / largestTen
  let reduced ← x.divideRepeatedly steps
  if reduced.isZero then some reduced
  else reduced.div (← powerOfTen (n - largestTen * steps))

/-- Multiply by a power of ten; `none` beyond the finite range. Zero stays zero, whatever it is
scaled by. -/
def multiplyByTens (x : Magnitude) (n : Nat) : Option Magnitude :=
  if n ≤ largestTen then do x.mul (← powerOfTen n)
  else if x.isZero then some x
  else none

/-- The value of a numeral `digits · 10 ^ exponent`: the digits become a double
first, which is then multiplied or divided by a power of ten. Each of the two
steps rounds, so a long numeral may end one unit away from the nearest double. -/
def ofNumeral (digits : Nat) (exponent : Int) : Option Magnitude := do
  let x ← ofNat digits
  match exponent with
  | .ofNat n => x.multiplyByTens n
  | .negSucc n => x.divideByTens (n + 1)

/-- The bits of a magnitude without its sign. The leading bit of a significand of full length
carries into the exponent field. -/
def toNat (x : Magnitude) : Nat := x.scale * twoTo 52 + x.significand

end Magnitude

namespace Binary64

/-- Attach a sign. Zero can have either, and the two are different numbers here. -/
def ofMagnitude (negative : Bool) (x : Magnitude) : Binary64 :=
  ⟨UInt64.ofNat ((if negative then twoTo 63 else 0) + x.toNat)⟩

/-- Whether the sign bit is set; zero has a sign too. -/
def isNegative (x : Binary64) : Bool := twoTo 63 ≤ x.bits.toNat

/-- The largest exponent field marks infinities and what is not a number; every other one is of a
finite number. -/
def isFinite (x : Binary64) : Bool := x.bits.toNat / twoTo 52 % twoTo 11 ≠ 2047

/-- The value without its sign. The two least exponent fields share one scale,
and all but the least have a leading bit that is not stored. -/
def magnitude (x : Binary64) : Magnitude :=
  let field := x.bits.toNat / twoTo 52 % twoTo 11
  let fraction := x.bits.toNat % twoTo 52
  if field = 0 then ⟨fraction, 0⟩ else ⟨fraction + twoTo 52, field - 1⟩

end Binary64

end RelayTree
