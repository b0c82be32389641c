/-
Events: what is noted in the log while an expression is parsed.

* `Event` — the start, each token, each application of an operator, the end;
* `Level` — how much detail a reader of the log has to ask for to see an event;
* `Event.message` — the text of an event;
* `Event.shown` — its level and its text.
-/
import ShuntingYard.Span
import ShuntingYard.Token

namespace ShuntingYard

/-- The amount of detail at which an event shows. -/
inductive Level where
  | debug
  | trace
  deriving DecidableEq, Repr

/-- The name of a level. -/
def Level.name : Level → String
  | debug => "debug"
  | trace => "trace"

/-- What happens while an expression is parsed. -/
inductive Event where
  /-- Parsing starts. -/
  | parsing (expression : String)
  /-- A token has been met. -/
  | reading (token : Token) (span : Span)
  /-- An operator joins two trees, which are named by their roots. -/
  | reducing (left operator right : String)
  /-- Parsing has ended in a tree. -/
  | parsed (expression : String) (size : Nat)
  deriving DecidableEq, Repr

/-- The span as the log shows it. -/
def Span.describe (span : Span) : String :=
  "Span \x7b start: " ++ toString span.start ++ ", end: " ++ toString span.stop ++ " \x7d"

namespace Event

/-- Single tokens show only at the finest level. -/
def level : Event → Level
  | reading _ _ => .trace
  | parsing _ | reducing _ _ _ | parsed _ _ => .debug

/-- The text of an event. -/
def message : Event → String
  | parsing expression => "parsing " ++ quote expression
  | reading token span => "token " ++ token.describe ++ " at " ++ span.describe
  | reducing left operator right => "reducing " ++ left ++ " " ++ operator ++ " " ++ right
  | parsed expression size =>
    "parsed " ++ quote expression ++ " into " ++ toString size ++ " nodes"

/-- What a reader of the log sees of an event. -/
def shown (event : Event) : Level × String := (event.level, event.message)

end Event

end ShuntingYard
