import PulseTrain.Nanoseconds

/-!
# Numbers in plain scalars

A plain scalar of YAML may spell a number: a whole one in base two, eight, ten or sixteen, or a
decimal one with a fraction or an exponent. Decimal digits with a needless zero in front spell none.
-/

namespace PulseTrain

namespace PlainNumber

/-- The value of a digit in bases up to 16. -/
def digitValue? (base : Nat) (c : Char) : Option Nat :=
  let value :=
    if c.isDigit then c.toNat - '0'.toNat
    else if 'a' ≤ c && c ≤ 'z' then c.toNat - 'a'.toNat + 10
    else if 'A' ≤ c && c ≤ 'Z' then c.toNat - 'A'.toNat + 10
    else base
  if value < base then some value else none

/-- The number that digits spell in a base. -/
def inBase? (base : Nat) (ds : List Char) : Option Nat :=
  if ds.isEmpty then none
  else ds.foldlM (fun n c => (digitValue? base c).map fun d => base * n + d) 0

/-! ## Whole numbers -/

/-- A number without a sign in a base that is announced by `0x`, `0o` or `0b`. -/
def based? : List Char → Option Nat
  | '0' :: 'x' :: ds => inBase? 16 ds
  | '0' :: 'o' :: ds => inBase? 8 ds
  | '0' :: 'b' :: ds => inBase? 2 ds
  | _ => none

/-- Decimal digits with a needless zero in front. -/
def isPadded : List Char → Bool
  | '0' :: c :: cs => (c :: cs).all Char.isDigit
  | _ => false

/-- A number without a sign. -/
def unsigned? (cs : List Char) : Option Nat :=
  match based? cs with
  | some n => some n
  | none => if isPadded cs then none else inBase? 10 cs

/-- A number that may have a plus sign. -/
def natural? : List Char → Option Nat
  | '+' :: cs => unsigned? cs
  | cs => unsigned? cs

/-- A number that may have a sign. -/
def integer? : List Char → Option Int
  | '-' :: cs => (unsigned? cs).map fun n => -(n : Int)
  | cs => (natural? cs).map Int.ofNat

/-! ## Decimal numbers -/

/-- A number without a sign: `digits` as a whole number, times a power of ten. -/
structure Decimal where
  /-- The digits before and behind the point. -/
  digits : List Char
  /-- The exponent of the power of ten. -/
  exponent : Int

/-- The exponent behind the letter that announces it. -/
def exponent? : List Char → Option Int
  | [] => some 0
  | e :: cs =>
    if e = 'e' || e = 'E' then
      match cs with
      | '-' :: ds => (inBase? 10 ds).map fun n => -(n : Int)
      | '+' :: ds => (inBase? 10 ds).map Int.ofNat
      | ds => (inBase? 10 ds).map Int.ofNat
    else
      none

/-- A decimal number without a sign. Digits on one side of the point are enough. -/
def decimal? (cs : List Char) : Option Decimal := do
  let whole := cs.takeWhile Char.isDigit
  let (fraction, rest) := match cs.dropWhile Char.isDigit with
    | '.' :: ds => (ds.takeWhile Char.isDigit, ds.dropWhile Char.isDigit)
    | ds => ([], ds)
  let exponent ← exponent? rest
  if whole.isEmpty && fraction.isEmpty then none
  else some ⟨whole ++ fraction, exponent - fraction.length⟩

namespace Decimal

/-- Half a step above the largest double-precision number, where rounding leads to infinity. -/
def infinite : Nat := (0x1fffffffffffff * 2 + 1) * Nat.pow 2 970

/-- Whether the nearest double-precision number is finite. A number is compared with the bound only
if its number of digits does not decide. -/
def isFinite (d : Decimal) : Bool :=
  let digits := d.digits.dropWhile (· = '0')
  let size := digits.length + d.exponent
  if digits.isEmpty || size < 300 then true
  else if 320 < size then false
  else
    let n := (inBase? 10 digits).getD 0
    if 0 ≤ d.exponent then n * Nat.pow 10 d.exponent.toNat < infinite
    else n < infinite * Nat.pow 10 (-d.exponent).toNat

end Decimal

/-! ## What reads as a number -/

/-- A text without its sign. -/
def withoutSign : List Char → List Char
  | '+' :: cs => cs
  | '-' :: cs => cs
  | cs => cs

/-- Whether a text reads as a number, or as one that is padded: a whole number of at most 128 bits
in another base than ten, or a decimal number within the range of double precision. -/
def isNumber (s : String) : Bool :=
  let cs := withoutSign s.toList
  let bound := if s.startsWith "-" then Word.signedLimit128 + 1 else Word.limit128
  (based? cs).any (· < bound) || isPadded cs || (decimal? cs).any Decimal.isFinite

end PlainNumber

end PulseTrain
