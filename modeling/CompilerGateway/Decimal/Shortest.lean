import CompilerGateway.Decimal.Natural

/-!
# The shortest decimal that reads back

Between a binary number and its two neighbours lie the decimals that round to it. Of those,
`Decimal.shortest` gives the one with the **fewest digits**, and of several with equally few
digits the **nearest** to the number; two equally near ones are told apart by parity.

The search runs over the grids `10 ^ t` for falling `t`. A point of a grid lies in the
interval only if one of the two grid points that enclose the number does, so two candidates
for each grid suffice, and the first grid that has one is the coarsest.

`Decimal.Layout` says where positional notation begins and ends, `Decimal.Layout.render`
writes digits in it.
-/

namespace CompilerGateway

namespace Decimal

/-- Candidates on the grid `10 ^ step`, and on finer ones while none reads back.

The number is `centre · up / down`; decimals from `low · up / down` to `high · up / down`
read back, the ends only if `closed`. -/
def search (centre low high up down : Nat) (closed : Bool) : Nat → Int → Nat × Int
  | 0, step => (centre, step)
  | fuel + 1, step =>
    let grid := powerOfTen step.toNat * down
    let scale := powerOfTen (-step).toNat * up
    let below := centre * scale / grid
    let inside (n : Nat) : Bool :=
      if closed then low * scale ≤ n * grid && n * grid ≤ high * scale
      else low * scale < n * grid && n * grid < high * scale
    let fromBelow := centre * scale - below * grid
    let toAbove := (below + 1) * grid - centre * scale
    match inside below, inside (below + 1) with
    | true, false => (below, step)
    | false, true => (below + 1, step)
    | true, true =>
      if fromBelow < toAbove then (below, step)
      else if toAbove < fromBelow then (below + 1, step)
      else if below % 2 = 0 then (below, step)
      else (below + 1, step)
    | false, false => search centre low high up down closed fuel (step - 1)

/-- The shortest decimal `digits · 10 ^ power`, as the pair of the two, that reads back as
`significand · 2 ^ exponent`. Half the distance to the neighbour below is a quarter of the
unit where `narrowBelow`, and half a unit elsewhere. Seventeen digits always suffice; the
search starts at most two grids above the leading digit. -/
def shortest (significand : Nat) (exponent : Int) (narrowBelow : Bool) : Nat × Int :=
  let low := 4 * significand - if narrowBelow then 1 else 2
  let high := 4 * significand + 2
  let leading : Int := ((significand.log2 : Int) + 1 + exponent) * 1233
  search (4 * significand) low high (1 <<< (exponent - 2).toNat) (1 <<< (2 - exponent).toNat)
    (significand % 2 == 0) 21 (leading.fdiv 4096 + 1)

/-! ### Writing digits -/

/-- Where positional notation begins and ends: with `d.ddd · 10 ^ e` for the number, it is
used when `least ≤ e` and `e < beyond`. -/
structure Layout where
  /-- The least exponent written in positional notation. -/
  least : Int
  /-- The first exponent that is written out again. -/
  beyond : Int

namespace Layout

/-- An exponent with its sign and no leading zero. -/
def exponentText (e : Int) : List Char :=
  'e' :: (if e < 0 then '-' else '+') :: Nat.toDigits 10 e.natAbs

/-- The decimal `digits · 10 ^ power`. Positional notation always has a fraction; the other
one has a single digit before the point, and no point after a lone digit. -/
def render (layout : Layout) (digits : Nat) (power : Int) : List Char :=
  let written := Nat.toDigits 10 digits
  let e := power + written.length - 1
  if layout.least ≤ e ∧ e < layout.beyond then
    if 0 ≤ power then written ++ List.replicate power.toNat '0' ++ ['.', '0']
    else if 0 ≤ e then written.take (e.toNat + 1) ++ '.' :: written.drop (e.toNat + 1)
    else '0' :: '.' :: List.replicate (-e - 1).toNat '0' ++ written
  else
    match written with
    | [] => []
    | [digit] => digit :: exponentText e
    | digit :: fraction => digit :: '.' :: fraction ++ exponentText e

end Layout

end Decimal

end CompilerGateway
