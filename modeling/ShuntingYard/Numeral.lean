/-
Numerals: the operands of arithmetic.

A numeral is either a single character that stands for a number, such as `½` or
`五`, or a real number in decimal notation.  The latter has an optional sign, and
then either the word `inf`, `infinity` or `nan` in any case, or a mantissa with
an optional exponent.  Digits of every script may be mixed, and a single `_` may
stand between two digits.

* `Numeral.dropGroup?` — reads a group of digits: a digit, then digits or `_`
  followed by a digit, as far as they go;
* `Numeral.dropMantissa?` — reads `G`, `G.`, `.G` or `G.G`, where `G` is a group;
* `Numeral.isExponent` — nothing, or `e`, an optional sign and a group;
* `Numeral.isReal`, `Numeral.isSingle` — the two kinds of numerals;
* `isNumeral` — whether a text is one.

The readers return what follows the part they have read.  Each takes as much as
it can, and this loses nothing: what ends a group can continue no other part.
-/
import ShuntingYard.CharSet.DecimalDigit
import ShuntingYard.CharSet.Numeric

namespace ShuntingYard

namespace Numeral

/-- A decimal digit of any script. -/
def isDigit (c : Char) : Bool := CharSet.decimalDigit.contains c

/-- What follows the rest of a digit group, whose first digit has been read. -/
def dropGroupTail : List Char → List Char
  | [] => []
  | '_' :: d :: cs => if isDigit d then dropGroupTail cs else '_' :: d :: cs
  | c :: cs => if isDigit c then dropGroupTail cs else c :: cs

/-- What follows the digit group at the start, if there is one. -/
def dropGroup? : List Char → Option (List Char)
  | [] => none
  | c :: cs => if isDigit c then some (dropGroupTail cs) else none

/-- The characters without the plus or minus sign in front. -/
def dropSign : List Char → List Char
  | '+' :: cs => cs
  | '-' :: cs => cs
  | cs => cs

/-- What follows the mantissa at the start, if there is one. -/
def dropMantissa? : List Char → Option (List Char)
  | '.' :: cs => dropGroup? cs
  | cs =>
    match dropGroup? cs with
    | none => none
    | some ('.' :: rest) => some ((dropGroup? rest).getD rest)
    | some rest => some rest

/-- Whether the characters are one digit group. -/
def isGroup (cs : List Char) : Bool := dropGroup? cs == some []

/-- Whether the characters are an exponent; it may be absent. -/
def isExponent : List Char → Bool
  | [] => true
  | c :: cs => (c == 'e' || c == 'E') && isGroup (dropSign cs)

/-- Whether the characters name an infinity or the undefined value, in any case. -/
def isNamed (cs : List Char) : Bool :=
  cs.map Char.toLower ∈ ["inf".toList, "infinity".toList, "nan".toList]

/-- Whether the characters are a mantissa with an optional exponent. -/
def isDecimal (cs : List Char) : Bool :=
  match dropMantissa? cs with
  | none => false
  | some rest => isExponent rest

/-- Whether the characters are a real number in decimal notation. -/
def isReal (cs : List Char) : Bool :=
  isNamed (dropSign cs) || isDecimal (dropSign cs)

/-- Whether there is just one character, and it stands for a number. -/
def isSingle : List Char → Bool
  | [c] => CharSet.number.contains c || CharSet.hanNumeral.contains c
  | _ => false

end Numeral

/-- Whether a text is a numeral. -/
def isNumeral (text : String) : Bool :=
  Numeral.isReal text.toList || Numeral.isSingle text.toList

end ShuntingYard
