/-
Quoted text: how messages show a piece of the input.

The text stands between double quotes.  A quote or a backslash gets a backslash
in front, NUL, tab, line feed and carriage return have an escape of one letter,
and every other unprintable character is written as its code point in
hexadecimal between braces.  All else stands as it is, so quoted text never
holds a line break.

* `quoteChar` — one character inside the quotes;
* `quote` — a text with its quotes.
-/
import ShuntingYard.CharSet.Unprintable

namespace ShuntingYard

/-- The code point of `c` in lower-case hexadecimal, without leading zeros. -/
def hexadecimal (c : Char) : String :=
  String.ofList (Nat.toDigits 16 c.toNat)

/-- What stands for `c` inside the quotes. -/
def quoteChar (c : Char) : String :=
  if c = '"' then "\\\""
  else if c = '\\' then "\\\\"
  else if c = '\x00' then "\\0"
  else if c = '\t' then "\\t"
  else if c = '\n' then "\\n"
  else if c = '\r' then "\\r"
  else if c ∈ CharSet.unprintable then "\\u\x7b" ++ hexadecimal c ++ "\x7d"
  else String.singleton c

/-- The text between double quotes, with each character in its quoted form. -/
def quote (text : String) : String :=
  "\"" ++ String.join (text.toList.map quoteChar) ++ "\""

end ShuntingYard
