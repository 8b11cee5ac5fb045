import Playbook.Decimal.Binary

/-!
The shortest decimal of a float: among the decimals that read back as the float, one with the
fewest digits, and of those the nearest to the float. The decimals that read back are those in an
interval around the float that reaches half way to each neighbour.
-/
namespace Playbook.Decimal

/-- `digits * 10 ^ exponent`. -/
structure Scaled where
  digits : Nat
  exponent : Int
  deriving DecidableEq, Repr

/-- A fraction of two naturals, the second of them positive. -/
structure Ratio where
  num : Nat
  den : Nat
  deriving Repr

/-- `r / 10 ^ e`. -/
def Ratio.scaleDown (r : Ratio) (e : Int) : Ratio :=
  match e with
  | .ofNat e => ⟨r.num, r.den * Nat.pow 10 e⟩
  | .negSucc e => ⟨r.num * Nat.pow 10 (e + 1), r.den⟩

/-- The magnitude `m * 2 ^ e` and the ends of its interval, in quarters of the last bit. The lower
end is nearer when the significand is the least of its binade. -/
structure Interval where
  value : Ratio
  low : Ratio
  high : Ratio
  closed : Bool

def Interval.of (w : Width) (m : Nat) (e : Int) : Interval :=
  let (up, down) := match e with
    | .ofNat e => (Nat.pow 2 e, 1)
    | .negSucc e => (1, Nat.pow 2 (e + 1))
  let lowGap := if m = Nat.pow 2 w.fractionBits ∧ e > w.leastExponent then 1 else 2
  { value := ⟨4 * m * up, 4 * down⟩
    low := ⟨(4 * m - lowGap) * up, 4 * down⟩
    high := ⟨(4 * m + 2) * up, 4 * down⟩
    closed := m % 2 = 0 }

/-- Whether `c * 10 ^ e` lies in the interval. -/
def Interval.holds (i : Interval) (c : Nat) (e : Int) : Bool :=
  let low := i.low.scaleDown e
  let high := i.high.scaleDown e
  if i.closed then decide (low.num ≤ c * low.den) && decide (c * high.den ≤ high.num)
  else decide (low.num < c * low.den) && decide (c * high.den < high.num)

/-- The least `k` with `r < 10 ^ k`, for a positive fraction `r`. -/
def Ratio.magnitude (r : Ratio) : Int :=
  if r.den ≤ r.num then (Nat.toDigits 10 (r.num / r.den)).length
  else 1 - ((Nat.toDigits 10 (r.den / r.num)).length : Int)

/-- Tries the grids of `n`, `n + 1`, … significant digits; `room` grids are left. -/
def searchGrid (i : Interval) (magnitude : Int) : (room n : Nat) → Scaled
  | 0, n =>
    let e := magnitude - n
    let v := i.value.scaleDown e
    ⟨v.num / v.den, e⟩
  | room + 1, n =>
    let e := magnitude - n
    let v := i.value.scaleDown e
    let below := v.num / v.den
    let above := below + 1
    match below ≠ 0 && i.holds below e, i.holds above e with
    | true, true =>
      if 2 * v.num < (below + above) * v.den then ⟨below, e⟩
      else if (below + above) * v.den < 2 * v.num then ⟨above, e⟩
      else if below % 2 = 0 then ⟨below, e⟩ else ⟨above, e⟩
    | true, false => ⟨below, e⟩
    | false, true => ⟨above, e⟩
    | false, false => searchGrid i magnitude room (n + 1)

/-- Drops zeros at the end of the digits. -/
def dropZeros : (fuel : Nat) → Scaled → Scaled
  | 0, d => d
  | fuel + 1, d =>
    if d.digits ≠ 0 ∧ d.digits % 10 = 0 then dropZeros fuel ⟨d.digits / 10, d.exponent + 1⟩ else d

/-- The shortest decimal of the positive magnitude `m * 2 ^ e` among the floats of a width. -/
def shortest (w : Width) (m : Nat) (e : Int) : Scaled :=
  let i := Interval.of w m e
  dropZeros 20 (searchGrid i i.value.magnitude 17 1)

end Playbook.Decimal
