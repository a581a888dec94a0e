/-! The shortest decimal form of a double. A finite double `m · 2^q` stands for
every real that rounds to it; those reals form an interval around it whose ends
belong to it exactly when `m` is even. The grids of 1, 2, … 17 significant
digits are tried in turn: on each grid only the two neighbours of the value can
fall inside the interval, and the first grid with a neighbour inside gives the
digits, the nearer neighbour when both are inside. When the value lies exactly
halfway between them, a `Tie` rule decides: the even neighbour, or the one of
larger magnitude. Everything is exact arithmetic on naturals; the result is a
significand without trailing zeros and a power of ten. -/

namespace AssetBroker.Decimal

/-- How a value exactly halfway between two shortest candidates is written: with
the candidate whose last digit is even, or with the one away from zero. -/
inductive Tie where
  | toEven
  | toAway
  deriving DecidableEq, Repr

/-- The neighbour a tie picks, of `below` and `below + 1`. -/
def Tie.pick (tie : Tie) (below : Nat) : Nat :=
  match tie with
  | .toEven => if below % 2 == 0 then below else below + 1
  | .toAway => below + 1

/-- A tie picks one of the two neighbours. -/
theorem Tie.pick_eq_or (tie : Tie) (below : Nat) :
    tie.pick below = below ∨ tie.pick below = below + 1 := by
  cases tie with
  | toEven => simp only [pick]; split <;> simp
  | toAway => simp [pick]

/-- A double taken apart: a sign and a magnitude `m · 2^q`, an infinity, or not a number. -/
inductive Parts where
  | finite (negative : Bool) (m : Nat) (q : Int)
  | infinite (negative : Bool)
  | nan

/-- The parts of a double, read off its bit pattern. -/
def Parts.ofFloat (x : Float) : Parts :=
  let bits : Nat := x.toBits.toNat
  let negative : Bool := bits / Nat.pow 2 63 == 1
  let e : Nat := (bits / Nat.pow 2 52) % 2048
  let f : Nat := bits % Nat.pow 2 52
  if e == 2047 then
    if f == 0 then .infinite negative else .nan
  else if e == 0 then .finite negative f (-1074)
  else .finite negative (f + Nat.pow 2 52) ((e : Int) - 1075)

/-- The number of decimal digits of `n` (one for zero). -/
def digitCount (n : Nat) : Nat := (Nat.toDigits 10 n).length

/-- `d · 10^k` with the trailing zeros of `d` moved into `k`. -/
def trimZeros : Nat → Nat → Int → Nat × Int
  | 0, d, k => (d, k)
  | fuel + 1, d, k => if d != 0 && d % 10 == 0 then trimZeros fuel (d / 10) (k + 1) else (d, k)

/-- A finite positive double `m · 2^q`, measured in units of `2^(q-2)`: the value
is then `4m`, and both ends of its rounding interval are whole units. -/
structure Interval where
  m : Nat
  q : Int

namespace Interval

/-- Powers of two that put every quantity of the interval on one integer scale. -/
def up (i : Interval) : Nat := Nat.pow 2 (i.q - 2).toNat
def down (i : Interval) : Nat := Nat.pow 2 (2 - i.q).toNat

/-- The value, in units of `2^(q-2)`. -/
def mid (i : Interval) : Nat := 4 * i.m

/-- The lower end: half the gap to the next double below, which is half as wide
at the bottom of a binade. -/
def lo (i : Interval) : Nat := if i.m == Nat.pow 2 52 && i.q > -1074 then 4 * i.m - 1 else 4 * i.m - 2

/-- The upper end: half the gap to the next double above. -/
def hi (i : Interval) : Nat := 4 * i.m + 2

/-- Whether the ends of the interval belong to it. -/
def closed (i : Interval) : Bool := i.m % 2 == 0

/-- The power of ten just below the value: `10^e ≤ value < 10^(e+1)`. -/
def exponent (i : Interval) : Int :=
  let num := i.mid * i.up
  let den := i.down
  if num ≥ den then (digitCount (num / den) : Int) - 1
  else
    let gap := digitCount den - digitCount num
    if num * Nat.pow 10 gap ≥ den then -(gap : Int) else -((gap + 1 : Nat) : Int)

/-- `d · 10^k` compared with `x · 2^(q-2)`: both scaled to naturals. -/
def scaledGrid (i : Interval) (d : Nat) (k : Int) : Nat := d * Nat.pow 10 k.toNat * i.down
def scaledEnd (i : Interval) (x : Nat) (k : Int) : Nat := x * i.up * Nat.pow 10 (-k).toNat

/-- The digits on the grid `10^k`, if one of the value's two neighbours there lies
in the interval: the nearer of the two when both do, and the one `tie` picks when
the value lies halfway between them. -/
def onGrid (tie : Tie) (i : Interval) (k : Int) : Option Nat :=
  let below := (i.mid * i.up * Nat.pow 10 (-k).toNat) / (Nat.pow 10 k.toNat * i.down)
  let above := below + 1
  let belowIn : Bool :=
    if i.closed then decide (i.scaledGrid below k ≥ i.scaledEnd i.lo k)
    else decide (i.scaledGrid below k > i.scaledEnd i.lo k)
  let aboveIn : Bool :=
    if i.closed then decide (i.scaledGrid above k ≤ i.scaledEnd i.hi k)
    else decide (i.scaledGrid above k < i.scaledEnd i.hi k)
  match belowIn, aboveIn with
  | true, true =>
    let twice := 2 * i.scaledEnd i.mid k
    let between := i.scaledGrid (2 * below + 1) k
    if twice < between then some below
    else if twice > between then some above
    else some (tie.pick below)
  | true, false => some below
  | false, true => some above
  | false, false => none

end Interval

/-- The shortest decimal `d · 10^k` that reads back as the double `m · 2^q`
(`m > 0`), nearest to it, with a tie settled by `tie`, and no trailing zeros in `d`. -/
def shortest (tie : Tie) (m : Nat) (q : Int) : Nat × Int :=
  let i : Interval := ⟨m, q⟩
  let e := i.exponent
  let pick := (List.range' 1 17).findSome? fun (n : Nat) =>
    let k : Int := e + 1 - (n : Int)
    (i.onGrid tie k).map fun d => (d, k)
  let (d, k) := pick.getD (m, 0)
  trimZeros (digitCount d) d k

/-- `d · 10^k` written out with every digit: a point only where the value has a
fraction, and a `0` before a point with nothing in front. -/
def plain (d : Nat) (k : Int) : String :=
  let s := (Nat.toDigits 10 d)
  let n := s.length
  let p : Int := n + k
  if p ≤ 0 then "0." ++ String.ofList (List.replicate (-p).toNat '0' ++ s)
  else if p ≥ n then String.ofList (s ++ List.replicate (p - n).toNat '0')
  else String.ofList (s.take p.toNat ++ '.' :: s.drop p.toNat)

/-- `d · 10^k` written the short way: positionally with a point and at least one
fraction digit while the value lies between `10^-5` and `10^16`, and otherwise as
one digit, the remaining digits after a point, `e` and the signed power (`1e+16`,
`2.5e-8`). -/
def short (d : Nat) (k : Int) : String :=
  let s := Nat.toDigits 10 d
  let n := s.length
  let p : Int := n + k
  if 0 ≤ k && p ≤ 16 then String.ofList (s ++ List.replicate k.toNat '0') ++ ".0"
  else if 0 < p && p ≤ 16 then String.ofList (s.take p.toNat ++ '.' :: s.drop p.toNat)
  else if -5 < p && p ≤ 0 then "0." ++ String.ofList (List.replicate (-p).toNat '0' ++ s)
  else
    let power := (if p - 1 < 0 then "" else "+") ++ toString (p - 1)
    match s with
    | [c] => String.ofList [c] ++ "e" ++ power
    | c :: rest => String.ofList (c :: '.' :: rest) ++ "e" ++ power
    | [] => "0e" ++ power

end AssetBroker.Decimal
