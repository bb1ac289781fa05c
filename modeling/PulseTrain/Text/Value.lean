/-!
# Values written as text

White space at the ends of a value does not count. Whole numbers are written in decimal digits; a
plus sign may stand in front, and so may zeros.
-/

namespace PulseTrain

namespace Text

/-- White space, as ranges of code points. -/
def blankRanges : List (Nat × Nat) :=
  [(0x9, 0xd), (0x20, 0x20), (0x85, 0x85), (0xa0, 0xa0), (0x1680, 0x1680), (0x2000, 0x200a),
    (0x2028, 0x2029), (0x202f, 0x202f), (0x205f, 0x205f), (0x3000, 0x3000)]

/-- Whether a character is white space. -/
def isBlank (c : Char) : Bool :=
  blankRanges.any fun (first, last) => first ≤ c.toNat && c.toNat ≤ last

/-- A text without the white space at its ends. -/
def trim (s : String) : String :=
  let cs := s.toList.dropWhile isBlank
  .ofList (cs.reverse.dropWhile isBlank).reverse

end Text

namespace Decimal

/-- The number that decimal digits spell; at least one digit is needed. -/
def digits? (cs : List Char) : Option Nat :=
  if cs.isEmpty || !cs.all Char.isDigit then none
  else some (cs.foldl (fun n c => 10 * n + (c.toNat - '0'.toNat)) 0)

/-- A natural number below `bound`. -/
def natural? (bound : Nat) (s : String) : Option Nat :=
  (match s.toList with
    | '+' :: cs => digits? cs
    | cs => digits? cs).filter (· < bound)

/-- A natural number below `bound`, where zero may have a minus sign. -/
def unsigned? (bound : Nat) (s : String) : Option Nat :=
  match s.toList with
  | '-' :: cs => (digits? cs).filter (· = 0)
  | _ => natural? bound s

end Decimal

end PulseTrain
