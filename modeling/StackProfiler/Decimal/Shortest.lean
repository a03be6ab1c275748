/-!
# Shortest decimals

The decimal that stands for a floating point number in a text: of all decimals that are read back as
the number it is one with the fewest digits, and of those the nearest, the even one where two are
equally near. The search is exact, on integers: every binary number and every end of the interval that
rounds to it is a multiple of `10 ^ -1076`.
-/

namespace StackProfiler

namespace Decimal

/-- A positive decimal `digits * 10 ^ exponent`. -/
structure Positive where
  digits : Nat
  exponent : Int
  deriving DecidableEq

/-- The decimal without zeros at the end of its digits; `fuel` bounds how many are taken away. -/
def Positive.stripZeros (d : Positive) : Nat → Positive
  | 0 => d
  | fuel + 1 =>
    if d.digits % 10 = 0 then Positive.stripZeros ⟨d.digits / 10, d.exponent + 1⟩ fuel else d

/-- A positive binary number and the ends of the interval of the numbers that round to it, as multiples
of `10 ^ -1076`. The ends belong to it when its significand is even. -/
structure Interval where
  low : Nat
  value : Nat
  high : Nat
  closed : Bool

namespace Interval

/-- The interval of the finite positive number that is written in 64 bits. -/
def ofBits (bits : UInt64) : Interval :=
  let field := (bits.toNat / 4_503_599_627_370_496) % 2_048
  let fraction := bits.toNat % 4_503_599_627_370_496
  let significand := if field = 0 then fraction else 4_503_599_627_370_496 + fraction
  let scale := Nat.pow 2 (field - 1) * Nat.pow 5 1076
  let below := if fraction = 0 && 1 < field then 1 else 2
  ⟨(4 * significand - below) * scale, 4 * significand * scale, (4 * significand + 2) * scale,
    significand % 2 = 0⟩

/-- Whether a multiple of `10 ^ -1076` rounds to the number. -/
def holds (i : Interval) (n : Nat) : Bool :=
  if i.closed then i.low ≤ n && n ≤ i.high else i.low < n && n < i.high

/-- The nearest multiple of `step` that rounds to the number, in steps, if one of the two beside it
does. -/
def onGrid? (i : Interval) (step : Nat) : Option Nat :=
  let floor := i.value / step
  match i.holds (floor * step), i.holds ((floor + 1) * step) with
  | true, true =>
    let excess := i.value - floor * step
    if 2 * excess < step || (2 * excess = step && floor % 2 = 0) then some floor else some (floor + 1)
  | true, false => some floor
  | false, true => some (floor + 1)
  | false, false => none

/-- The decimal on the first grid with a hit, from one digit on; `fuel` grids are tried. -/
def shortestFrom (i : Interval) (width : Nat) : Nat → Positive
  | 0 => ⟨i.value, -1076⟩
  | fuel + 1 =>
    match i.onGrid? (Nat.pow 10 (width - 1)) with
    | some digits => Positive.stripZeros ⟨digits, (width : Int) - 1077⟩ 18
    | none => shortestFrom i (width - 1) fuel

/-- The shortest decimal in the interval. -/
def shortest (i : Interval) : Positive :=
  i.shortestFrom (Nat.toDigits 10 i.value).length 17

end Interval

/-- Where a text leaves positional notation: decimals whose first digit stands for a power of ten from
`least` to `greatest` are written out, all others with an exponent. -/
structure Layout where
  least : Int
  greatest : Int

/-- The text of a positive decimal: a point always stands in positional notation, the exponent always
has a sign. -/
def Positive.text (d : Positive) (layout : Layout) : String :=
  let digits := Nat.toDigits 10 d.digits
  let first := d.exponent + digits.length - 1
  let behind := fun (ds : List Char) => if ds.isEmpty then [] else '.' :: ds
  String.ofList <|
    if layout.least ≤ first && first ≤ layout.greatest then
      if first < 0 then '0' :: '.' :: List.replicate (-first - 1).toNat '0' ++ digits
      else
        let whole := digits.take (first + 1).toNat
        let rest := digits.drop (first + 1).toNat
        whole ++ List.replicate ((first + 1).toNat - digits.length) '0' ++
          '.' :: (if rest.isEmpty then ['0'] else rest)
    else
      digits.take 1 ++ behind (digits.drop 1) ++ 'e' :: (if first < 0 then '-' else '+') ::
        Nat.toDigits 10 first.natAbs

/-- The text of the finite number that is written in 64 bits. -/
def textOfBits (bits : UInt64) (layout : Layout) : String :=
  let sign := if 9_223_372_036_854_775_808 ≤ bits.toNat then "-" else ""
  if bits.toNat % 9_223_372_036_854_775_808 = 0 then sign ++ "0.0"
  else sign ++ (Interval.ofBits bits).shortest.text layout

end Decimal

end StackProfiler
