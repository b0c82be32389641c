/-
Grammars: which words are operators, and which are operands.

A grammar binds operator symbols and has a test for operands.  A symbol has to be
a word, since no other text could ever be met as an operator; the type keeps the
proof.  Grammars are values: adding an operator gives a new grammar.

* `Grammar` — the bindings of the operators and the test for operands;
* `Grammar.addOperator`, `Grammar.withOperand` — change one of the two;
* `Grammar.ofEntries`, `Grammar.ofRanks` — grammars built from lists;
* `Grammar.standard` — arithmetic with `^`, `*`, `/`, `%`, `+` and `-`;
* `GrammarError` — why a table of operators is refused.

A parenthesis is no word, so it is never an operator; it has a precedence all the
same, above that of every operator.
-/
import Std.Data.TreeMap
import ShuntingYard.Binding
import ShuntingYard.Numeral
import ShuntingYard.Quoted
import ShuntingYard.Word

namespace ShuntingYard

/-- Why a table of operators is refused. -/
inductive GrammarError where
  | missingPrecedence (operator : String)
  | invalidSymbol (symbol : String)
  deriving DecidableEq, Repr

/-- The text that tells why the table is refused. -/
def GrammarError.message : GrammarError → String
  | missingPrecedence operator => "operator " ++ quote operator ++ " has no precedence"
  | invalidSymbol symbol => quote symbol ++ " cannot be used as an operator symbol"

/-- The bindings of the operator symbols, all of them words, and the test that
every other word has to pass to be an operand. -/
structure Grammar where
  bindings : Std.TreeMap String Binding
  isOperand : String → Bool
  isWord_of_mem : ∀ symbol ∈ bindings, IsWord symbol

namespace Grammar

/-! ### Questions -/

/-- The binding of an operator symbol. -/
def binding? (g : Grammar) (symbol : String) : Option Binding := g.bindings[symbol]?

/-- Whether the text is an operator symbol. -/
def isOperator (g : Grammar) (text : String) : Bool := g.bindings.contains text

/-- The side from which an operator groups. -/
def associativity? (g : Grammar) (symbol : String) : Option Associativity :=
  (g.binding? symbol).map Binding.associativity

/-- The strength of an operator or a parenthesis. -/
def precedence? (g : Grammar) (symbol : String) : Option Precedence :=
  if symbol = "(" ∨ symbol = ")" then
    some .parenthesis
  else
    (g.binding? symbol).map fun binding => .rank binding.rank

/-- The operator symbols in ascending order. -/
def operators (g : Grammar) : List String := g.bindings.keys

/-! ### Building -/

/-- The grammar without operators, in which the numerals are the operands. -/
def empty : Grammar where
  bindings := ∅
  isOperand := isNumeral
  isWord_of_mem := by simp

/-- Binds an operator symbol, in place of an earlier binding if it has one. -/
def addOperator (g : Grammar) (symbol : String) (binding : Binding) :
    Except GrammarError Grammar :=
  if h : IsWord symbol then
    .ok
      { bindings := g.bindings.insert symbol binding
        isOperand := g.isOperand
        isWord_of_mem := by
          intro other hother
          rcases Std.TreeMap.mem_insert.1 hother with heq | hmem
          · exact Std.LawfulEqCmp.eq_of_compare heq ▸ h
          · exact g.isWord_of_mem other hmem }
  else
    .error (.invalidSymbol symbol)

/-- The same operators with another test for operands. -/
def withOperand (g : Grammar) (isOperand : String → Bool) : Grammar :=
  { g with isOperand := isOperand }

/-- The grammar of a list of operators, added in order to the empty grammar.  The
first that cannot be added is reported. -/
def ofEntries (entries : List (String × Binding)) : Except GrammarError Grammar :=
  entries.foldlM (fun g entry => g.addOperator entry.1 entry.2) empty

/-- The grammar of operators whose ranks stand in a table of their own; all of
them group to the left.  Ranks of other symbols are ignored, and the first
operator that has no rank or cannot be added is reported. -/
def ofRanks (operators : List String) (ranks : Std.TreeMap String Int) :
    Except GrammarError Grammar :=
  operators.foldlM
    (fun g symbol =>
      match ranks[symbol]? with
      | none => .error (.missingPrecedence symbol)
      | some rank => g.addOperator symbol ⟨rank, .left⟩)
    empty

/-! ### Arithmetic -/

/-- The operators of arithmetic: powers before products before sums, and only
powers grouped from the right. -/
def standardEntries : List (String × Binding) :=
  [("^", ⟨2, .right⟩), ("*", ⟨1, .left⟩), ("/", ⟨1, .left⟩), ("%", ⟨1, .left⟩),
    ("+", ⟨0, .left⟩), ("-", ⟨0, .left⟩)]

/-- The grammar of arithmetic. -/
def standard : Grammar where
  bindings := .ofList standardEntries
  isOperand := isNumeral
  isWord_of_mem := by
    intro symbol hsymbol
    have hall : ∀ s ∈ standardEntries.map Prod.fst, IsWord s := by decide +kernel
    rw [Std.TreeMap.mem_ofList] at hsymbol
    exact hall symbol (by simpa using hsymbol)

/-- The operands of arithmetic are the numerals. -/
theorem isOperand_standard : standard.isOperand = isNumeral := rfl

instance : Inhabited Grammar := ⟨standard⟩

/-! ### Each question through the bindings -/

theorem isOperator_eq_isSome_binding? (g : Grammar) (text : String) :
    g.isOperator text = (g.binding? text).isSome :=
  Std.TreeMap.contains_eq_isSome_getElem?

theorem isOperator_eq_true_iff {g : Grammar} {text : String} :
    g.isOperator text = true ↔ ∃ binding, g.binding? text = some binding := by
  rw [isOperator_eq_isSome_binding?, Option.isSome_iff_exists]

/-- Every operator symbol is a word. -/
theorem isWord_of_binding?_eq_some {g : Grammar} {symbol : String} {binding : Binding}
    (h : g.binding? symbol = some binding) : IsWord symbol :=
  g.isWord_of_mem symbol
    (Std.TreeMap.mem_iff_isSome_getElem?.2 (Option.isSome_iff_exists.2 ⟨binding, h⟩))

/-- A text that is no word has no binding. -/
theorem binding?_eq_none_of_not_isWord {g : Grammar} {text : String} (h : ¬ IsWord text) :
    g.binding? text = none := by
  cases hbinding : g.binding? text with
  | none => rfl
  | some binding => exact absurd (isWord_of_binding?_eq_some hbinding) h

theorem mem_operators_iff {g : Grammar} {symbol : String} :
    symbol ∈ g.operators ↔ ∃ binding, g.binding? symbol = some binding := by
  rw [operators, Std.TreeMap.mem_keys, Std.TreeMap.mem_iff_isSome_getElem?,
    Option.isSome_iff_exists]
  rfl

theorem isSome_associativity?_iff {g : Grammar} {symbol : String} :
    (g.associativity? symbol).isSome = true ↔ ∃ binding, g.binding? symbol = some binding := by
  rw [associativity?, Option.isSome_map, Option.isSome_iff_exists]

/-- A parenthesis has no binding. -/
theorem binding?_of_paren (g : Grammar) {symbol : String} (h : symbol = "(" ∨ symbol = ")") :
    g.binding? symbol = none := by
  refine binding?_eq_none_of_not_isWord ?_
  rcases h with rfl | rfl
  · exact not_isWord_openParen
  · exact not_isWord_closeParen

theorem precedence?_of_paren (g : Grammar) {symbol : String} (h : symbol = "(" ∨ symbol = ")") :
    g.precedence? symbol = some .parenthesis := if_pos h

/-- The ranks are those of the bindings. -/
theorem precedence?_eq_rank_iff {g : Grammar} {symbol : String} {rank : Int} :
    g.precedence? symbol = some (.rank rank) ↔
      (g.binding? symbol).map Binding.rank = some rank := by
  by_cases hparen : symbol = "(" ∨ symbol = ")"
  · simp [precedence?_of_paren g hparen, binding?_of_paren g hparen]
  · simp [precedence?, hparen]

@[simp]
theorem binding?_empty (symbol : String) : empty.binding? symbol = none :=
  Std.TreeMap.getElem?_emptyc

@[simp]
theorem binding?_withOperand (g : Grammar) (isOperand : String → Bool) (symbol : String) :
    (g.withOperand isOperand).binding? symbol = g.binding? symbol := rfl

/-- A symbol can be added exactly if it is a word. -/
theorem exists_addOperator_eq_ok_iff {g : Grammar} {symbol : String} {binding : Binding} :
    (∃ g', g.addOperator symbol binding = .ok g') ↔ IsWord symbol := by
  unfold addOperator
  split
  · rename_i h
    simp [h]
  · rename_i h
    simp [h]

/-- A symbol that is no word is refused by its name. -/
theorem addOperator_eq_error_iff {g : Grammar} {symbol : String} {binding : Binding}
    {error : GrammarError} :
    g.addOperator symbol binding = .error error ↔
      ¬ IsWord symbol ∧ error = .invalidSymbol symbol := by
  unfold addOperator
  split
  · rename_i h
    simp [h]
  · rename_i h
    simp [h, eq_comm]

/-- Adding an operator binds its symbol and leaves the others as they were. -/
theorem binding?_of_addOperator_eq_ok {g g' : Grammar} {symbol : String} {binding : Binding}
    (h : g.addOperator symbol binding = .ok g') (other : String) :
    g'.binding? other = if symbol = other then some binding else g.binding? other := by
  unfold addOperator at h
  split at h
  · cases h
    show (g.bindings.insert symbol binding)[other]? = _
    rw [Std.TreeMap.getElem?_insert]
    simp only [Std.LawfulEqCmp.compare_eq_iff_eq]
    rfl
  · cases h

/-- Adding an operator keeps the test for operands. -/
theorem isOperand_of_addOperator_eq_ok {g g' : Grammar} {symbol : String} {binding : Binding}
    (h : g.addOperator symbol binding = .ok g') : g'.isOperand = g.isOperand := by
  unfold addOperator at h
  split at h
  · cases h
    rfl
  · cases h

end Grammar

end ShuntingYard
