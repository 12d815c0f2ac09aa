/-!
# Decimal fractions

Numbers with a fraction or an exponent are kept as the shortest decimal that
names the same binary64 value: `nearest` rounds a written number to binary64 (to
the nearest value, a tie to the even significand) and then takes the fewest
digits that still round to it, of two such decimals the nearer one.  All
arithmetic is exact arithmetic on natural numbers.

`text` writes a fraction positionally while its decimal point lies within five
places before and sixteen places after its first digit, and with an exponent
otherwise.
-/

namespace GaleraControl

/--
A fraction `± digits · 10 ^ exponent`.  In canonical form `digits` does not end
in a zero, and zero is `digits = 0`, `exponent = 0` with either sign.
-/
structure Decimal where
  negative : Bool
  /-- The significant digits, read as one natural number. -/
  digits : Nat
  /-- The power of ten by which the digits are scaled. -/
  exponent : Int
deriving DecidableEq, Repr, Inhabited

namespace Decimal

/-- A positive rational number. -/
structure Ratio where
  numerator : Nat
  denominator : Nat
deriving Repr

namespace Ratio

/-- The ratio times an integral power of a base. -/
def scaled (ratio : Ratio) (base : Nat) (power : Int) : Ratio :=
  if 0 ≤ power then ⟨ratio.numerator * base.pow power.toNat, ratio.denominator⟩
  else ⟨ratio.numerator, ratio.denominator * base.pow (-power).toNat⟩

/-- The integral part. -/
def floor (ratio : Ratio) : Nat := ratio.numerator / ratio.denominator

/-- The nearest natural number, a tie going to the even neighbour. -/
def rounded (ratio : Ratio) : Nat :=
  let below := ratio.floor
  let twiceRest := 2 * (ratio.numerator % ratio.denominator)
  if twiceRest < ratio.denominator then below
  else if ratio.denominator < twiceRest then below + 1
  else below + below % 2

/-- Whether one ratio is at most another. -/
def le (left right : Ratio) : Bool :=
  left.numerator * right.denominator ≤ right.numerator * left.denominator

/-- Whether one ratio is below another. -/
def lt (left right : Ratio) : Bool :=
  left.numerator * right.denominator < right.numerator * left.denominator

/-- The distance between two ratios. -/
def distance (left right : Ratio) : Ratio :=
  let a := left.numerator * right.denominator
  let b := right.numerator * left.denominator
  ⟨(a - b) + (b - a), left.denominator * right.denominator⟩

end Ratio

/-- The smallest power of the base above a ratio, as an exponent. -/
def magnitude (base : Nat) (ratio : Ratio) : Int :=
  let size (n : Nat) : Int := (Nat.toDigits base n).length
  let guess := size ratio.numerator - size ratio.denominator
  if ratio.lt (Ratio.scaled ⟨1, 1⟩ base guess) then guess else guess + 1

/-- A positive binary64 value: a significand scaled by a power of two. -/
structure Binary64 where
  /-- The significand, below `2 ^ 53`. -/
  significand : Nat
  /-- The power of two, at least `-1074`. -/
  power : Int

/-- The binary64 value nearest to a positive ratio. -/
def toBinary64 (ratio : Ratio) : Binary64 :=
  let power := max (magnitude 2 ratio - 53) (-1074)
  let significand := (ratio.scaled 2 (-power)).rounded
  if significand = Nat.pow 2 53 then ⟨Nat.pow 2 52, power + 1⟩ else ⟨significand, power⟩

/-- The ratio that a binary64 value stands for. -/
def Binary64.ratio (value : Binary64) : Ratio :=
  Ratio.scaled ⟨value.significand, 1⟩ 2 value.power

/-- Whether a ratio rounds to the given binary64 value. -/
def Binary64.claims (value : Binary64) (ratio : Ratio) : Bool :=
  let quarters := 4 * value.significand
  let below := if value.significand = Nat.pow 2 52 && -1074 < value.power then 1 else 2
  let low := Ratio.scaled ⟨quarters - below, 1⟩ 2 (value.power - 2)
  let high := Ratio.scaled ⟨quarters + 2, 1⟩ 2 (value.power - 2)
  if value.significand % 2 = 0 then low.le ratio && ratio.le high
  else low.lt ratio && ratio.lt high

/-- The decimal with the given number of digits that rounds to the value and is nearest to it. -/
def withDigits? (value : Binary64) (count : Nat) : Option (Nat × Int) :=
  let exact := value.ratio
  let exponent := magnitude 10 exact - count
  let below := (exact.scaled 10 (-exponent)).floor
  let named (digits : Nat) : Ratio := Ratio.scaled ⟨digits, 1⟩ 10 exponent
  match value.claims (named below), value.claims (named (below + 1)) with
  | false, false => none
  | true, false => some (below, exponent)
  | false, true => some (below + 1, exponent)
  | true, true =>
      if (Ratio.distance (named (below + 1)) exact).lt (Ratio.distance (named below) exact)
      then some (below + 1, exponent) else some (below, exponent)

/-- Move the zeros at the end of the digits into the exponent; `fuel` bounds their number. -/
def stripped (fuel : Nat) (digits : Nat) (exponent : Int) : Nat × Int :=
  match fuel with
  | 0 => (digits, exponent)
  | fuel + 1 =>
      if digits ≠ 0 && digits % 10 = 0 then stripped fuel (digits / 10) (exponent + 1)
      else (digits, exponent)

/-- The shortest decimal of the binary64 value nearest to `± digits · 10 ^ exponent`. -/
def nearest (negative : Bool) (digits : Nat) (exponent : Int) : Decimal :=
  let value := toBinary64 (Ratio.scaled ⟨digits, 1⟩ 10 exponent)
  if digits = 0 || value.significand = 0 then ⟨negative, 0, 0⟩
  else
    match ((List.range 17).map (· + 1)).findSome? (withDigits? value) with
    | some (shortest, power) =>
        let (digits, exponent) := stripped 17 shortest power
        ⟨negative, digits, exponent⟩
    | none => ⟨negative, digits, exponent⟩

/-- A run of zeros. -/
def zeros (count : Nat) : String := String.ofList (List.replicate count '0')

/-- A fraction without its sign. -/
def magnitudeText (digits : Nat) (exponent : Int) : String :=
  let written := Nat.repr digits
  let point : Int := written.length + exponent
  if digits = 0 then "0.0"
  else if 0 ≤ exponent && point ≤ 16 then written ++ zeros exponent.toNat ++ ".0"
  else if 0 < point && point ≤ 16 then
    let characters := written.toList
    String.ofList (characters.take point.toNat) ++ "." ++
      String.ofList (characters.drop point.toNat)
  else if -5 < point && point ≤ 0 then "0." ++ zeros (-point).toNat ++ written
  else
    match written.toList with
    | [] => ""
    | [only] => String.ofList [only] ++ "e" ++ toString (point - 1)
    | first :: rest =>
        String.ofList [first] ++ "." ++ String.ofList rest ++ "e" ++ toString (point - 1)

/-- A fraction as it is written in documents and messages. -/
def text (value : Decimal) : String :=
  (if value.negative then "-" else "") ++ magnitudeText value.digits value.exponent

end Decimal

end GaleraControl
