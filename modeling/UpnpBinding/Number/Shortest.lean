import UpnpBinding.Number.Double
/-!
The shortest decimal form of a double. Of the decimals that read back to a double, the one with
the fewest significant digits is taken, and of two such the one nearer to the double, an exact
tie going to the even last digit. The search tries one digit, then two, up to seventeen, which
always suffice; each try tests the two neighbours of the double on that decimal grid in exact
arithmetic.
-/
namespace UpnpBinding

namespace Double

def compareScaled (c : Nat) (k : Int) (x : Nat) (s : Int) : Ordering :=
  let lhs := c * Nat.pow 10 k.toNat * Nat.pow 2 (-s).toNat
  let rhs := x * Nat.pow 2 s.toNat * Nat.pow 10 (-k).toNat
  compare lhs rhs

def floorScaled (x : Nat) (s : Int) (k : Int) : Nat :=
  (x * Nat.pow 2 s.toNat * Nat.pow 10 (-k).toNat) / (Nat.pow 10 k.toNat * Nat.pow 2 (-s).toNat)

def floorLog10 (x : Nat) (s : Int) : Int :=
  let est : Int := Int.fdiv (((x.log2 : Int) + s) * 78913) 262144
  let e := if compareScaled 1 est x s == .gt then est - 1 else est
  if compareScaled 1 (e + 1) x s != .gt then e + 1 else e

/-- The candidate `c * 10^k` reads back to `m * 2^e` when it lies between the midpoints to the
neighbouring doubles, the midpoints themselves included when `m` is even. The midpoints are
`lo * 2^(e-2)` and `hi * 2^(e-2)`. -/
def readsBack (m lo hi : Nat) (e : Int) (c : Nat) (k : Int) : Bool :=
  let s := e - 2
  let above := compareScaled c k lo s
  let below := compareScaled c k hi s
  if m % 2 == 0 then above != .lt && below != .gt else above == .gt && below == .lt

/-- Digits `c` and exponent `k` of the decimal `c * 10^k` for `m * 2^e` with `n` significant
digits, if one reads back. -/
def tryDigits (m lo hi : Nat) (e top : Int) (n : Nat) : Option (Nat × Int) :=
  let k := top - n + 1
  let c := floorScaled (4 * m) (e - 2) k
  let okLow := readsBack m lo hi e c k
  let okHigh := readsBack m lo hi e (c + 1) k
  if okLow && okHigh then
    -- the nearer of the two; at an exact tie the even one
    match compareScaled (2 * c + 1) k (8 * m) (e - 2) with
    | .gt => some (c, k)
    | .lt => some (c + 1, k)
    | .eq => if c % 2 == 0 then some (c, k) else some (c + 1, k)
  else if okLow then some (c, k)
  else if okHigh then some (c + 1, k)
  else none

def stripZeros : Nat → Nat × Int → Nat × Int
  | 0, p => p
  | fuel + 1, (c, k) => if c ≠ 0 ∧ c % 10 = 0 then stripZeros fuel (c / 10, k + 1) else (c, k)

def searchDigits (m lo hi : Nat) (e top : Int) : Nat → Nat → Nat × Int
  | 0, _ => (m, e)
  | fuel + 1, n =>
    match tryDigits m lo hi e top n with
    | some p => p
    | none => searchDigits m lo hi e top fuel (n + 1)

/-- The shortest decimal `(c, k)`, `c * 10^k`, that reads back to the positive `m * 2^e` of a
finite double. The midpoints to the neighbours lie half a unit away, except below a power of
two with a normal exponent, where the lower neighbour is nearer. -/
def shortestDecimal (m : Nat) (e : Int) : Nat × Int :=
  let lo := if m = Nat.pow 2 52 ∧ e > -1074 then 4 * m - 1 else 4 * m - 2
  let hi := 4 * m + 2
  let top := floorLog10 m e
  let (c, k) := searchDigits m lo hi e top 17 1
  stripZeros 20 (c, k)

end Double

def natDigits (n : Nat) : String := String.ofList (Nat.toDigits 10 n)

def intText (n : Int) : String :=
  if n < 0 then "-" ++ natDigits n.natAbs else natDigits n.natAbs

/-- How doubles are written: the exponent range written positionally, the marks of the exponent
form, and the texts of the values that have no digits. -/
structure DoubleFormat where
  minPositional : Int
  maxPositional : Int
  exponentWidth : Nat
  infinityText : String
  nanText : String

/-- The common form: positional from `1e-4` below `1e16`, exponents signed with at least two
digits, an integral value keeps `.0`, and `inf`/`nan` for the values without digits. -/
def DoubleFormat.standard : DoubleFormat := ⟨-4, 15, 2, "inf", "nan"⟩

def DoubleFormat.json : DoubleFormat := ⟨-4, 15, 2, "Infinity", "NaN"⟩

def DoubleFormat.layout (f : DoubleFormat) (ds : List Char) (p : Int) : String :=
  if p < f.minPositional || p > f.maxPositional then
    let mant := match ds with
      | [] => "0"
      | [d] => String.ofList [d]
      | d :: rest => String.ofList (d :: '.' :: rest)
    let expDigits := Nat.toDigits 10 p.natAbs
    let padded := List.replicate (f.exponentWidth - expDigits.length) '0' ++ expDigits
    mant ++ "e" ++ (if p < 0 then "-" else "+") ++ String.ofList padded
  else if p < 0 then
    "0." ++ String.ofList (List.replicate (p.natAbs - 1) '0' ++ ds)
  else
    let intLen := p.toNat + 1
    if ds.length ≤ intLen then
      String.ofList (ds ++ List.replicate (intLen - ds.length) '0') ++ ".0"
    else
      String.ofList (ds.take intLen) ++ "." ++ String.ofList (ds.drop intLen)

def DoubleFormat.render (f : DoubleFormat) (x : Double) : String :=
  match x.kind with
  | .nan => f.nanText
  | .infinite neg => (if neg then "-" else "") ++ f.infinityText
  | .finite neg m e =>
    let sign := if neg then "-" else ""
    if m = 0 then sign ++ "0.0"
    else
      let (c, k) := Double.shortestDecimal m e
      let ds := Nat.toDigits 10 c
      sign ++ f.layout ds (k + ds.length - 1)

def Double.text (x : Double) : String := DoubleFormat.standard.render x

end UpnpBinding
