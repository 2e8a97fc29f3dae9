/-!
Binary64 values. A double is kept as its 64 bits; its meaning is read off the sign bit, the
eleven exponent bits and the fifty-two fraction bits, and every conversion into a double rounds
an exact rational to the nearest double, a tie going to the even significand.
-/
namespace UpnpBinding

/-- A binary64 floating point value, kept as its bit pattern. -/
structure Double where
  bits : UInt64
deriving DecidableEq, Inhabited

/-- What a double stands for: not a number, an infinity, or `±m * 2^e` with `m` a natural. -/
inductive Double.Kind where
  | nan
  | infinite (negative : Bool)
  | finite (negative : Bool) (m : Nat) (e : Int)
deriving DecidableEq

namespace Double

def fractionBits : Nat := 52

def negative (x : Double) : Bool := x.bits >>> 63 == 1

def biasedExponent (x : Double) : Nat := ((x.bits >>> 52) &&& 0x7FF).toNat

def fraction (x : Double) : Nat := (x.bits &&& 0xFFFFFFFFFFFFF).toNat

def ofFields (negative : Bool) (biased fraction : Nat) : Double :=
  ⟨UInt64.ofNat ((if negative then Nat.pow 2 63 else 0) + biased * Nat.pow 2 52 + fraction)⟩

/-- What the bits stand for. A biased exponent of 0 is a subnormal with exponent -1074; else the
hidden bit is added and the exponent is the biased one less 1075. -/
def kind (x : Double) : Kind :=
  let b := x.biasedExponent
  if b = 2047 then
    if x.fraction = 0 then .infinite x.negative else .nan
  else if b = 0 then .finite x.negative x.fraction (-1074)
  else .finite x.negative (x.fraction + Nat.pow 2 52) ((b : Int) - 1075)

def zero (negative : Bool) : Double := ofFields negative 0 0

def infinity (negative : Bool) : Double := ofFields negative 2047 0

def nan (negative : Bool) : Double := ofFields negative 2047 (Nat.pow 2 51)

def isNaN (x : Double) : Bool := x.biasedExponent == 2047 && x.fraction != 0

def isFinite (x : Double) : Bool := x.biasedExponent != 2047

def magnitudeBits (x : Double) : Nat := (x.bits &&& 0x7FFFFFFFFFFFFFFF).toNat

def scaledLe (q : Nat) (k : Int) (p : Nat) : Bool :=
  if 0 ≤ k then q * Nat.pow 2 k.toNat ≤ p else q ≤ p * Nat.pow 2 (-k).toNat

def floorLog2 (p q : Nat) : Int :=
  let k : Int := (p.log2 : Int) - q.log2
  if scaledLe q k p then k else k - 1

def roundHalfEven (num den : Nat) : Nat :=
  let m := num / den
  let r := num % den
  if 2 * r > den || (2 * r == den && m % 2 == 1) then m + 1 else m

/-- The double nearest to `±p / q` (for `q > 0`), a tie going to the even significand; a value
past the largest double becomes infinite. -/
def ofRatio (negative : Bool) (p q : Nat) : Double :=
  if p = 0 then zero negative else
  let e : Int := max (floorLog2 p q - 52) (-1074)
  let m := if 0 ≤ e then roundHalfEven p (q * Nat.pow 2 e.toNat)
    else roundHalfEven (p * Nat.pow 2 (-e).toNat) q
  let (m, e) := if m = Nat.pow 2 53 then (Nat.pow 2 52, e + 1) else (m, e)
  if e > 971 then infinity negative
  else if m < Nat.pow 2 52 then ofFields negative 0 m
  else ofFields negative (e + 1075).toNat (m - Nat.pow 2 52)

def ofInt? (n : Int) : Option Double :=
  let x := ofRatio (n < 0) n.natAbs 1
  if x.isFinite then some x else none

def decimalLength (m : Nat) : Nat := (Nat.toDigits 10 m).length

/-- The double nearest to `±m * 10^e`. Far outside the range of doubles the answer is an
infinity or a zero without computing the power. -/
def ofDecimal (negative : Bool) (m : Nat) (e : Int) : Double :=
  if m = 0 then zero negative
  else
    let top := (decimalLength m : Int) + e
    if top > 310 then infinity negative
    else if top < -330 then zero negative
    else if 0 ≤ e then ofRatio negative (m * Nat.pow 10 e.toNat) 1
    else ofRatio negative m (Nat.pow 10 (-e).toNat)

end Double

end UpnpBinding
