/-!
# The shortest decimal that reads back as a double

A finite double stands for all the reals that round to it: from halfway to its lower neighbour
to halfway to its upper one, both ends included when its mantissa is even. Below a power of
two the lower neighbour is half as far as the upper one.

`shortest` returns the decimal with the fewest significant digits inside that interval, and of
two such decimals the one nearer to the double; an exact tie goes to the even one. Its digits
carry no trailing zero.

All arithmetic is exact, on natural numbers: a decimal `a * 10^i` is compared with a bound
`n * 2^j` by cross-multiplying.
-/

namespace Novel.Decimal

/-- A finite non-negative double as `m * 2^q`. -/
structure Binary where
  m : Nat
  q : Int
  /-- the gap to the double below is half the gap to the double above -/
  narrowBelow : Bool
  deriving DecidableEq, Repr, Inhabited

/-- The value of the bits of a finite double, sign apart. -/
def Binary.ofBits (b : UInt64) : Binary :=
  let e := ((b >>> 52) &&& 0x7FF).toNat
  let f := (b &&& 0xFFFFFFFFFFFFF).toNat
  if e == 0 then ⟨f, -1074, false⟩ else ⟨Nat.pow 2 52 + f, (e : Int) - 1075, f == 0 && e > 1⟩

/-- A decimal `digits * 10^exp`. -/
structure Dec where
  digits : Nat
  exp : Int
  deriving DecidableEq, Repr, Inhabited

def cmpScaled (a : Nat) (i : Int) (n : Nat) (j : Int) : Ordering :=
  compare (a * Nat.pow 10 i.toNat * Nat.pow 2 (-j).toNat) (n * Nat.pow 2 j.toNat * Nat.pow 10 (-i).toNat)

/-- The decimal lies among the reals that round to the double (to nearest, ties to even). -/
def Binary.readsBack (x : Binary) (d : Dec) : Bool :=
  let lo := if x.narrowBelow then 4 * x.m - 1 else 4 * x.m - 2
  let hi := 4 * x.m + 2
  let incl := x.m % 2 == 0
  let cl := cmpScaled d.digits d.exp lo (x.q - 2)
  let ch := cmpScaled d.digits d.exp hi (x.q - 2)
  (cl == .gt || (incl && cl == .eq)) && (ch == .lt || (incl && ch == .eq))

def Binary.floorOn (x : Binary) (i : Int) : Nat :=
  (x.m * Nat.pow 2 x.q.toNat * Nat.pow 10 (-i).toNat) / (Nat.pow 2 (-x.q).toNat * Nat.pow 10 i.toNat)

/-- Move an estimate `k` of the scale until `10^(k-1) ≤ m * 2^q < 10^k`, in at most `fuel`
steps each way. -/
def Binary.fixScale (x : Binary) : Nat → Int → Int
  | 0, k => k
  | fuel + 1, k =>
    if cmpScaled 1 k x.m x.q != .gt then x.fixScale fuel (k + 1)
    else if cmpScaled 1 (k - 1) x.m x.q == .gt then x.fixScale fuel (k - 1)
    else k

/-- The least `k` with `m * 2^q < 10^k`, for a non-zero value. -/
def Binary.scale (x : Binary) : Int :=
  x.fixScale 8 (((Nat.log2 x.m : Int) + x.q) * 30103 / 100000)

/-- Of the two neighbours of the value on the grid `10^i`, the one that reads back, the
nearer one if both do, the even one on a tie. -/
def Binary.onGrid (x : Binary) (i : Int) : Option Dec :=
  let lo := x.floorOn i
  let hi := lo + 1
  match x.readsBack ⟨lo, i⟩, x.readsBack ⟨hi, i⟩ with
  | true, true =>
    -- compare twice the value with the sum of the two neighbours
    match cmpScaled (lo + hi) i (8 * x.m) (x.q - 2) with
    | .lt => some ⟨hi, i⟩
    | .gt => some ⟨lo, i⟩
    | .eq => some (if lo % 2 == 0 then ⟨lo, i⟩ else ⟨hi, i⟩)
  | true, false => some ⟨lo, i⟩
  | false, true => some ⟨hi, i⟩
  | false, false => none

/-- Move trailing zeros of the digits into the exponent. -/
def Dec.strip : Nat → Dec → Dec
  | 0, d => d
  | fuel + 1, d =>
    if d.digits != 0 && d.digits % 10 == 0 then Dec.strip fuel ⟨d.digits / 10, d.exp + 1⟩ else d

/-- The exact decimal value of a double: `m * 2^q = m * 5^(-q) * 10^q` when `q < 0`. -/
def Binary.exact (x : Binary) : Dec :=
  if x.q ≥ 0 then ⟨x.m * Nat.pow 2 x.q.toNat, 0⟩ else ⟨x.m * Nat.pow 5 (-x.q).toNat, x.q⟩

/-- The shortest decimal that reads back as the double, for a non-zero value. -/
def Binary.shortest (x : Binary) : Dec :=
  let k := x.scale
  let found := (List.range 17).findSome? (fun n => x.onGrid (k - (n + 1 : Nat)))
  let d := found.getD x.exact
  Dec.strip 400 d

end Novel.Decimal
