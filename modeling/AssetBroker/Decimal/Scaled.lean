/-! Reading `s · 10^e` into a double the way the wire reader does: the
significand, below `2^64`, is rounded to a double, and that double is multiplied
or divided once by the double nearest to `10^|e|`. An exponent beyond 308 is first
brought into range by dividing by `10^308`, as often as needed; a value that
becomes zero on the way stays zero. A product too large for a double is refused.
Two roundings take place, so the result can be one step away from the double
nearest to `s · 10^e`. -/

namespace AssetBroker.Decimal

/-- The double nearest to `10^k`. -/
def pow10 (k : Nat) : Float := Float.ofScientific 1 false k

/-- The scaling loop with its number of rounds: every round that does not finish
adds 308 to an exponent below `-308`. -/
def scaleSteps : Nat → Float → Int → Option Float
  | 0, f, _ => some f
  | fuel + 1, f, e =>
    if e.natAbs ≤ 308 then
      if e ≥ 0 then
        let g := f * pow10 e.natAbs
        if g.isInf then none else some g
      else some (f / pow10 e.natAbs)
    else if f == 0 then some f
    else if e ≥ 0 then none
    else scaleSteps fuel (f / pow10 308) (e + 308)

/-- `s · 10^e` as a double, or `none` when it is too large for one. -/
def scale (s : UInt64) (e : Int) : Option Float :=
  scaleSteps (e.natAbs / 308 + 1) s.toFloat e

end AssetBroker.Decimal
