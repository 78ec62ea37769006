import MacAgent.Json.Basic

/-! # Integers in JSON

An integer of 64 bits, with or without a sign, is kept as it is. A larger one counts as a decimal
number: of its digits only as many are read as fit into 64 bits, the others give a power of ten, and
the product is rounded to 53 binary digits. Such a number is written with the fewest decimal digits
that no other number of 53 binary digits is nearer to, one of them before the point, and with the
power of ten behind them. -/

namespace MacAgent.Json

/-- How many binary digits of a number are dropped by rounding it. -/
def droppedBits (n : Nat) : Nat := n.log2 - 52

/-- The nearest number of 53 binary digits; a half goes to the even neighbour. -/
def rounded (n : Nat) : Nat :=
  let unit := Nat.pow 2 (droppedBits n)
  let whole := n / unit
  let rest := n % unit
  if unit < 2 * rest || (unit = 2 * rest && whole % 2 = 1) then (whole + 1) * unit
  else whole * unit

/-- Whether `m` is read as `n`, a number of 53 binary digits. -/
def readsAs (n m : Nat) : Bool := rounded m = n

/-- The multiple of a power of ten with the highest such power that is read as `n`, and of two the
nearer one. -/
def shortest (n : Nat) : Nat :=
  let places := (toString n).length
  let best? := (List.range places).reverse.findSome? fun p =>
    let step := Nat.pow 10 p
    let low := n / step * step
    let high := low + step
    match readsAs n low, readsAs n high with
    | true, true => some (if n - low ≤ high - n then low else high)
    | true, false => some low
    | false, true => some high
    | false, false => none
  best?.getD n

/-- The digits that are read of a number, and how many follow them. -/
def leading (n : Nat) : (bound : Nat) → Nat × Nat
  | 0 => (n, 0)
  | bound + 1 =>
    if n < 18446744073709551616 then (n, 0)
    else
      let (kept, dropped) := leading (n / 10) bound
      (kept, dropped + 1)

/-- The number of 53 binary digits for which a number counts. -/
def approximated (n : Nat) : Nat :=
  let (kept, dropped) := leading n (toString n).length
  rounded (rounded kept * rounded (Nat.pow 10 dropped))

/-- A number as a digit, a point with the further digits up to the last that is no zero, and a power
of ten. Without further digits there is no point. -/
def scientific (n : Nat) : String :=
  let digits := (toString n).toList
  let further := ((digits.drop 1).reverse.dropWhile (· = '0')).reverse
  let point := if further.isEmpty then [] else '.' :: further
  String.ofList (digits.take 1 ++ point) ++ "e+" ++ toString (digits.length - 1)

def ofInteger (n : Int) : Json :=
  if -9223372036854775808 ≤ n ∧ n < 18446744073709551616 then integer n
  else
    let size := scientific (shortest (approximated n.natAbs))
    decimal (if n < 0 then "-" ++ size else size)

end MacAgent.Json
