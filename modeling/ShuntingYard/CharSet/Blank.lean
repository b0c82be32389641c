/-
The blanks: the characters that separate words.

These are the characters of Unicode's `White_Space` property: the ASCII blanks
and line breaks, the no-break space, the spaces of typography and the line and
paragraph separators.  Zero-width characters and the byte order mark are not
among them.

* `CharSet.blank` — the table;
* `CharSet.mem_blank_of_isWhitespace` — the ASCII blanks of the core library are
  in it.
-/
import ShuntingYard.CharSet

namespace ShuntingYard.CharSet

/-- The characters of the property `White_Space`. -/
def blank : CharSet where
  ranges := [
    (0x9, 0xD), (0x20, 0x20), (0x85, 0x85), (0xA0, 0xA0), (0x1680, 0x1680), (0x2000, 0x200A),
    (0x2028, 0x2029), (0x202F, 0x202F), (0x205F, 0x205F), (0x3000, 0x3000)]

/-- Every ASCII blank of the core library is a blank. -/
theorem mem_blank_of_isWhitespace {c : Char} (h : c.isWhitespace = true) : c ∈ blank := by
  simp only [Char.isWhitespace, Bool.or_eq_true, decide_eq_true_eq] at h
  rcases h with ((rfl | rfl) | rfl) | rfl <;> decide

end ShuntingYard.CharSet
