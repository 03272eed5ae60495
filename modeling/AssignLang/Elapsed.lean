/-!
# Elapsed time

A stretch of time is shown in seconds with two decimals. It is counted in whole milliseconds, held
as a binary number of 24 significant bits, divided by a thousand to 24 significant bits, and that
number is rounded to hundredths. Each rounding is to the nearest, and from halfway to the even
neighbour; all of it is exact arithmetic on fractions.
-/

namespace AssignLang

/-- The nearest natural number to a fraction; halfway between two, the even one. -/
def roundDiv (numerator denominator : Nat) : Nat :=
  let quotient := numerator / denominator
  let twice := 2 * (numerator % denominator)
  if twice < denominator then quotient
  else if denominator < twice then quotient + 1
  else quotient + quotient % 2

structure Fraction where
  numerator : Nat
  denominator : Nat
deriving DecidableEq, Repr

namespace Fraction

def exponent (x : Fraction) : Int :=
  let guess : Int := (x.numerator.log2 : Int) - x.denominator.log2
  let reached :=
    if 0 ≤ guess then x.denominator <<< guess.toNat ≤ x.numerator
    else x.denominator ≤ x.numerator <<< (-guess).toNat
  if reached then guess else guess - 1

def roundBits (bits : Nat) (x : Fraction) : Fraction :=
  if x.numerator = 0 then x
  else
    let scale := x.exponent + 1 - bits
    if 0 ≤ scale then
      ⟨roundDiv x.numerator (x.denominator <<< scale.toNat) <<< scale.toNat, 1⟩
    else
      ⟨roundDiv (x.numerator <<< (-scale).toNat) x.denominator, 1 <<< (-scale).toNat⟩

end Fraction

namespace Elapsed

def precision : Nat := 24

def ofMilliseconds (milliseconds : Nat) : Fraction :=
  let held := Fraction.roundBits precision ⟨milliseconds, 1⟩
  Fraction.roundBits precision ⟨held.numerator, held.denominator * 1000⟩

def hundredthsText (hundredths : Nat) : String :=
  let cents := hundredths % 100
  s!"{hundredths / 100}." ++ (if cents < 10 then s!"0{cents}" else toString cents)

def text (seconds nanoseconds : Nat) : String :=
  let time := ofMilliseconds (seconds * 1000 + nanoseconds / 1000000)
  hundredthsText (roundDiv (time.numerator * 100) time.denominator) ++ "s"

end Elapsed

end AssignLang
