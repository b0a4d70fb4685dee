import Novel.Decimal.Shortest

/-!
# Writing a double in its shortest form

The digits are the shortest ones that read back (`Binary.shortest`). Where they go depends on
the decimal exponent `e` of the leading digit:

* from `e = -5` to `e = 15` the number is written positionally and keeps at least one digit
  after the point (`1.0`, `0.001234`, `123400000.0`);
* otherwise in scientific form, `d.ddde` followed by the exponent with its sign, `+` or `-`
  (`1e+16`, `1.5e-7`).

Zero is `0.0`, negative values take a leading `-`, and the non-finite values are `NaN`, `inf`
and `-inf`.
-/

namespace Novel.Decimal

def digitsOf (n : Nat) : List Char := Nat.toDigits 10 n

/-- The text of a non-negative decimal with `len` digits, laid out as described above. -/
def layout (d : Dec) : String :=
  let ds := digitsOf d.digits
  let len : Int := ds.length
  let kk := len + d.exp
  if 0 ≤ d.exp && kk ≤ 16 then
    String.ofList (ds ++ List.replicate d.exp.toNat '0' ++ ['.', '0'])
  else if 0 < kk && kk ≤ 16 then
    String.ofList (ds.take kk.toNat ++ ['.'] ++ ds.drop kk.toNat)
  else if -5 < kk && kk ≤ 0 then
    String.ofList (['0', '.'] ++ List.replicate (-kk).toNat '0' ++ ds)
  else
    let e := kk - 1
    let expText := (if e < 0 then "-" else "+") ++ String.ofList (digitsOf e.natAbs)
    match ds with
    | [c] => String.ofList [c] ++ "e" ++ expText
    | c :: rest => String.ofList (c :: '.' :: rest) ++ "e" ++ expText
    | [] => "0e" ++ expText

/-- The shortest text of a double. -/
def floatText (f : Float) : String :=
  if f.isNaN then "NaN"
  else
    let bits := f.toBits
    let negative := bits >>> 63 == 1
    let sign := if negative then "-" else ""
    if f.isInf then sign ++ "inf"
    else
      let x := Binary.ofBits bits
      if x.m == 0 then sign ++ "0.0" else sign ++ layout x.shortest

end Novel.Decimal
