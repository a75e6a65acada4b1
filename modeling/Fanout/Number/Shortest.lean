import Fanout.Number.Double

/-!
# Fanout — the shortest text of a number

A double precision number is written with the fewest significant digits that
still round back to it, and among those with the digits nearest to its value.

The numbers that round to a given one form an interval around it. For 1, 2, … 17
digits in turn the two neighbours of the value on that decimal grid are tested
against the interval; the first grid with a hit wins.

The digits are laid out positionally, always with a point, while the decimal
exponent lies in `-5 … 15`, and with an explicitly signed exponent otherwise.
-/

namespace Fanout

/-- Decimal digits with the power of ten of the last one: `digits · 10 ^ power`. -/
structure Digits where
  digits : Nat
  power : Int
  deriving DecidableEq

namespace Double

/-- `num · 10 ^ power` compared with the quarter units `target`, both sides made whole. -/
private def compareQuarters (num : Nat) (power : Int) (target : Nat) : Ordering :=
  match power with
  | .ofNat up => compare (num * Nat.pow 10 up * Nat.pow 2 1076) target
  | .negSucc below => compare (num * Nat.pow 2 1076) (target * Nat.pow 10 (below + 1))

/-- Whether `num · 10 ^ power` rounds to the absolute value of `d`. The interval reaches half way
to both neighbours, its ends included if the significand is even. -/
def roundsFrom (d : Double) (num : Nat) (power : Int) : Bool :=
  -- everything in quarters of the smallest unit, so that both ends are whole
  let centre := 4 * d.magnitude
  let unit := Nat.pow 2 d.scale
  let above := centre + 2 * unit
  -- below a power of two the numbers stand twice as close
  let below :=
    if d.significand = Nat.pow 2 52 ∧ 1 ≤ d.scale then centre - unit else centre - 2 * unit
  let closed := d.significand % 2 == 0
  let low := compareQuarters num power below
  let high := compareQuarters num power above
  (low == .gt || (closed && low == .eq)) && (high == .lt || (closed && high == .eq))

/-- The decimal exponent of the first significant digit. -/
def decimalExponent (d : Double) : Int :=
  -- enough places that even the smallest number has digits before the point
  let guard : Nat := 400
  ((Nat.toDigits 10 (d.magnitude * Nat.pow 10 guard / Nat.pow 2 1074)).length : Int) - 1 - guard

/-- The nearer of the two neighbours of `d` with `count` digits, among those that round to `d`. -/
def neighbour? (d : Double) (count : Nat) : Option Digits :=
  let power := d.decimalExponent + 1 - count
  let floor := match power with
    | .ofNat up => d.magnitude / (Nat.pow 2 1074 * Nat.pow 10 up)
    | .negSucc below => d.magnitude * Nat.pow 10 (below + 1) / Nat.pow 2 1074
  match d.roundsFrom floor power, d.roundsFrom (floor + 1) power with
  -- both read back: the nearer one, and of a tie the even one
  | true, true =>
    match compareQuarters (2 * floor + 1) power (8 * d.magnitude) with
    | .gt => some ⟨floor, power⟩
    | .lt => some ⟨floor + 1, power⟩
    | .eq => some ⟨if floor % 2 = 0 then floor else floor + 1, power⟩
  | true, false => some ⟨floor, power⟩
  | false, true => some ⟨floor + 1, power⟩
  | false, false => none

/-- The shortest digits of a number other than zero, without a final zero. -/
def shortest (d : Double) : Digits :=
  let found := ((List.range 17).findSome? (fun n => d.neighbour? (n + 1))).getD ⟨0, 0⟩
  if found.digits % 10 = 0 then ⟨found.digits / 10, found.power + 1⟩ else found

end Double

namespace Digits

/-- The least and the greatest decimal exponent that is written positionally. -/
def positional (exponent : Int) : Bool := decide (-5 ≤ exponent ∧ exponent ≤ 15)

/-- The text of the digits as a number. -/
def text (d : Digits) : String :=
  let shown := Nat.toDigits 10 d.digits
  let exponent := d.power + shown.length - 1
  let zeros (count : Nat) := List.replicate count '0'
  if positional exponent then
    match d.power, exponent with
    | .ofNat trailing, _ => String.ofList (shown ++ zeros trailing ++ ['.', '0'])
    | .negSucc _, .ofNat place =>
      String.ofList (shown.take (place + 1) ++ '.' :: shown.drop (place + 1))
    | .negSucc _, .negSucc gap => String.ofList ('0' :: '.' :: zeros gap ++ shown)
  else
    let tail := if shown.length = 1 then [] else '.' :: shown.drop 1
    let sign := if exponent < 0 then '-' else '+'
    String.ofList (shown.take 1 ++ tail ++ 'e' :: sign :: Nat.toDigits 10 exponent.natAbs)

end Digits

/-- The text of a number; zero is written with one digit on either side of the point. -/
def Double.text (d : Double) : String :=
  let unsigned := if d.significand = 0 then "0.0" else d.shortest.text
  if d.negative then "-" ++ unsigned else unsigned

end Fanout
