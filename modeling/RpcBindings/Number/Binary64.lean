import RpcBindings.Number.Rounding

namespace RpcBindings.Number

/-- A 64-bit floating-point number, given by its bits. -/
structure Binary64 where
  bits : UInt64
deriving DecidableEq, Repr

namespace Binary64

def negative (x : Binary64) : Bool := decide (Nat.pow 2 63 ≤ x.bits.toNat)

def biasedExponent (x : Binary64) : Nat := x.bits.toNat / Nat.pow 2 52 % Nat.pow 2 11

def fraction (x : Binary64) : Nat := x.bits.toNat % Nat.pow 2 52

def isFinite (x : Binary64) : Bool := x.biasedExponent != 2047

def isNaN (x : Binary64) : Bool := x.biasedExponent == 2047 && x.fraction != 0

def significand (x : Binary64) : Nat :=
  if x.biasedExponent = 0 then x.fraction else Nat.pow 2 52 + x.fraction

def exponent (x : Binary64) : Int := (max x.biasedExponent 1 : Nat) - 1075

def ratio (x : Binary64) : Nat × Nat :=
  (x.significand * Nat.pow 2 x.exponent.toNat, Nat.pow 2 (-x.exponent).toNat)

/-- The integer that a number is, if it is one. -/
def toInt? (x : Binary64) : Option Int :=
  let (num, den) := x.ratio
  if x.isFinite && num % den == 0 then
    some (if x.negative then -((num / den : Nat) : Int) else ((num / den : Nat) : Int))
  else none

/-- The decimal exponent of the first digit of a positive quotient: `10 ^ e ≤ num / den < 10 ^ (e + 1)`.
`room` bounds how far below one the quotient may be. -/
def leadingPlace (num den : Nat) : Nat → Int
  | 0 => 0
  | room + 1 =>
    if den ≤ num then ((Nat.toDigits 10 (num / den)).length : Int) - 1
    else leadingPlace (num * 10) den room - 1

structure Decimal where
  digits : Nat
  place : Int
deriving DecidableEq, Repr

/-- The decimal with `count` digits that lies in the interval of reals which round to the number, the
one nearer to it if two do. -/
def decimalWith (x : Binary64) (first : Int) (count : Nat) : Option Decimal :=
  let place := first - count + 1
  let (num, den) := x.ratio
  let up := Nat.pow 10 (-place).toNat
  let unit := 4 * den * Nat.pow 10 place.toNat
  let value := 4 * num * up
  let half := Nat.pow 2 x.exponent.toNat * up
  let below := value - (if x.fraction = 0 ∧ 1 < x.biasedExponent then half else 2 * half)
  let above := value + 2 * half
  let inside (d : Nat) : Bool :=
    if x.significand % 2 = 0 then decide (below ≤ d * unit ∧ d * unit ≤ above)
    else decide (below < d * unit ∧ d * unit < above)
  let d := value / unit
  let nearerUp := decide (unit < 2 * (value % unit)) ||
    (decide (unit = 2 * (value % unit)) && d % 2 == 1)
  let pick := if nearerUp then d + 1 else d
  let other := if nearerUp then d else d + 1
  -- a power of ten may need no more than its first digit
  let decimal (d : Nat) : Decimal := if d = Nat.pow 10 count then ⟨1, first + 1⟩ else ⟨d, place⟩
  if inside pick then some (decimal pick)
  else if inside other then some (decimal other)
  else none

def shortest (x : Binary64) : Decimal :=
  let (num, den) := x.ratio
  let first := leadingPlace num den 400
  ((List.range 17).findSome? fun n => x.decimalWith first (n + 1)).getD ⟨0, 0⟩

def Decimal.text (d : Decimal) : String :=
  let ds := Nat.toDigits 10 d.digits
  let point : Int := ds.length + d.place
  let str := String.ofList
  if -4 < point ∧ point ≤ 16 then
    if point ≤ 0 then "0." ++ str (List.replicate (-point).toNat '0' ++ ds)
    else
      let whole := ds.take point.toNat ++ List.replicate d.place.toNat '0'
      let rest := ds.drop point.toNat
      str whole ++ "." ++ (if rest.isEmpty then "0" else str rest)
  else
    let e := point - 1
    let size := str (Nat.toDigits 10 e.natAbs)
    str (ds.take 1) ++ (if ds.length = 1 then "" else "." ++ str (ds.drop 1)) ++ "e"
      ++ (if e < 0 then "-" else "+") ++ (if size.length < 2 then "0" else "") ++ size

/-- The shortest text that reads back; an integral number keeps `.0`. -/
def text (x : Binary64) : String :=
  if x.isNaN then "nan"
  else
    let sign := if x.negative then "-" else ""
    if !x.isFinite then sign ++ "inf"
    else if x.significand = 0 then sign ++ "0.0"
    else sign ++ x.shortest.text

/-- The text with `places` digits after the point; halves go to the even neighbour. -/
def fixed (places : Nat) (x : Binary64) : String :=
  if x.isNaN then "nan"
  else
    let sign := if x.negative then "-" else ""
    if !x.isFinite then sign ++ "inf"
    else
      let (num, den) := x.ratio
      let scaled := roundHalfEven (num * Nat.pow 10 places) den
      let ds := Nat.toDigits 10 (scaled % Nat.pow 10 places)
      sign ++ toString (scaled / Nat.pow 10 places) ++ "." ++
        String.ofList (List.replicate (places - ds.length) '0' ++ ds)

/-- The number nearest to `± digits * 10 ^ place`; a text of over 800 digits is cut by the reader. -/
def ofDecimal (isNegative : Bool) (d : Decimal) : Binary64 :=
  let size : Int := (Nat.toDigits 10 d.digits).length + d.place
  let x : Float :=
    if d.digits = 0 ∨ size < -400 then 0.0
    else if 400 < size then 1.0 / 0.0
    else Float.ofScientific d.digits (decide (d.place < 0)) d.place.natAbs
  ⟨(if isNegative then -x else x).toBits⟩

def infinity : Binary64 := ⟨0x7ff0000000000000⟩

def nan : Binary64 := ⟨0x7ff8000000000000⟩

def neg (x : Binary64) : Binary64 := ⟨x.bits ^^^ 0x8000000000000000⟩

def add (x y : Binary64) : Binary64 := ⟨(Float.ofBits x.bits + Float.ofBits y.bits).toBits⟩

def mul (x y : Binary64) : Binary64 := ⟨(Float.ofBits x.bits * Float.ofBits y.bits).toBits⟩

def ofNat (n : Nat) : Binary64 := ofDecimal false ⟨n, 0⟩

end Binary64

def grouped (n : Nat) : String :=
  let rec go : List Char → List Char
    | a :: b :: c :: d :: rest => a :: b :: c :: ',' :: go (d :: rest)
    | short => short
  String.ofList (go (Nat.toDigits 10 n).reverse).reverse

end RpcBindings.Number
