/-
Diagnostics: a failure shown under its expression.

A diagnostic has four lines: the name of the cause with its tip, an empty margin,
the expression, and carets below the characters that the failure talks about:

    Error: UnrecognisedToken (`x` is neither an operator nor an operand, …)
      |
    1 | 3 + x
      |     ^

* `Failure.column`, `Failure.width` — where the carets start, and how many;
* `Failure.lines` — the four lines;
* `Failure.diagnostic` — the lines as one text.

A span that does not start between two characters of the expression puts the
carets at the front, and one that selects no character gets a single caret.
-/
import ShuntingYard.Failure

namespace ShuntingYard.Failure

/-- The number of characters in front of the span. -/
def column (failure : Failure) : Nat :=
  (((⟨0, failure.span.start⟩ : Span).slice? failure.expression).map String.length).getD 0

/-- The number of characters in the span, but at least one. -/
def width (failure : Failure) : Nat :=
  max 1 (((failure.span.slice? failure.expression).map String.length).getD 0)

/-- The name of the cause, with its tip in parentheses if it has one. -/
def header (failure : Failure) : String :=
  match failure.cause.tip? with
  | none => "Error: " ++ failure.cause.name
  | some tip => "Error: " ++ failure.cause.name ++ " (" ++ tip ++ ")"

/-- The carets behind as many spaces as the column says. -/
def carets (failure : Failure) : String :=
  String.ofList (List.replicate failure.column ' ' ++ List.replicate failure.width '^')

/-- The four lines of the diagnostic. -/
def lines (failure : Failure) : List String :=
  [failure.header, "  |", "1 | " ++ failure.expression, "  | " ++ failure.carets]

/-- The diagnostic: each line with a line feed behind it. -/
def diagnostic (failure : Failure) : String :=
  String.join (failure.lines.map (· ++ "\n"))

end ShuntingYard.Failure
