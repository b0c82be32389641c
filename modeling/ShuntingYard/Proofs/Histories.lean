/-
Grammars and their histories.

A grammar comes from the standard table, from none or from lists, and then it is changed step
by step: an operator is bound, or the test for operands is exchanged.  A change that is refused
leaves the grammar as it was.  What such a grammar says of a symbol is told by the history
alone: it is what the last change said that bound the symbol, or else the table at the start.

* `Grammar.Origin`, `Grammar.Origin.table` — the grammars at the start, and what their tables
  say;
* `Grammar.Change`, `Grammar.change`, `Grammar.changed` — one change, and all of them in a row;
* `Grammar.write?`, `Grammar.lastWrite?` — the binding that a change gives to a symbol, and
  the last that a history gives to it;
* `Grammar.IsConsistent` — the questions about operators agree, and the parentheses stand
  apart from them;
* `Grammar.binding?_change`, `Grammar.binding?_changed` — what one change does to the bindings,
  and what all of them do;
* `Grammar.addRanked`, `Grammar.binding?_of_ofRanks_eq_ok` — an operator that is bound with its
  rank, and what is bound by a list of them;
* `Grammar.changed_last_write_wins` — every grammar that has a history is consistent and holds
  what was written last.
-/
import Mathlib.Tactic.TFAE
import ShuntingYard.Grammar

namespace ShuntingYard.Grammar

/-! ### Histories -/

/-- The binding that stands last for the symbol in a list of entries. -/
def latest? (entries : List (String × Binding)) (symbol : String) : Option Binding :=
  entries.reverse.lookup symbol

/-- What a history starts from: the standard grammar, the empty one, or one made from lists. -/
inductive Origin where
  | standard
  | empty
  | ranked (operators : List String) (ranks : Std.TreeMap String Int)
  | listed (entries : List (String × Binding))

/-- The grammar at the start, unless its lists are refused. -/
def Origin.grammar : Origin → Except GrammarError Grammar
  | standard => .ok Grammar.standard
  | empty => .ok Grammar.empty
  | ranked operators ranks => ofRanks operators ranks
  | listed entries => ofEntries entries

/-- What the table at the start says of a symbol. -/
def Origin.table : Origin → String → Option Binding
  | standard, symbol => latest? standardEntries symbol
  | empty, _ => none
  | ranked operators ranks, symbol =>
    if symbol ∈ operators then ranks[symbol]?.map fun rank => ⟨rank, .left⟩ else none
  | listed entries, symbol => latest? entries symbol

/-- A step of a history: an operator is bound, or the test for operands is exchanged. -/
inductive Change where
  | operator (symbol : String) (binding : Binding)
  | operand (isOperand : String → Bool)

/-- The grammar after a change.  It is the same as before if the change is refused. -/
def change (g : Grammar) : Change → Grammar
  | .operator symbol binding =>
    match g.addOperator symbol binding with
    | .ok g' => g'
    | .error _ => g
  | .operand isOperand => g.withOperand isOperand

/-- The grammar after some changes in a row. -/
def changed (g : Grammar) (changes : List Change) : Grammar := changes.foldl change g

/-- The binding that a change gives to the symbol, if it is about it and is not refused. -/
def write? (g : Grammar) (symbol : String) : Change → Option Binding
  | .operator other binding =>
    match g.addOperator other binding with
    | .ok _ => if other = symbol then some binding else none
    | .error _ => none
  | .operand _ => none

/-- The binding that the last change gives to the symbol among those that give it one. -/
def lastWrite? (g : Grammar) (symbol : String) : List Change → Option Binding
  | [] => none
  | first :: later => ((g.change first).lastWrite? symbol later).or (g.write? symbol first)

/-! ### What one change does -/

theorem change_of_addOperator_eq_ok {g g' : Grammar} {symbol : String} {binding : Binding}
    (h : g.addOperator symbol binding = .ok g') : g.change (.operator symbol binding) = g' := by
  rw [change, h]

theorem change_of_addOperator_eq_error {g : Grammar} {symbol : String} {binding : Binding}
    {error : GrammarError} (h : g.addOperator symbol binding = .error error) :
    g.change (.operator symbol binding) = g := by
  rw [change, h]

/-- After a change a symbol has the binding that the change gives to it, or the one that it
had. -/
theorem binding?_change (g : Grammar) (next : Change) (symbol : String) :
    (g.change next).binding? symbol = (g.write? symbol next).or (g.binding? symbol) := by
  cases next with
  | operand isOperand => rfl
  | operator other binding =>
    cases h : g.addOperator other binding with
    | error error =>
      rw [change_of_addOperator_eq_error h, write?, h]
      rfl
    | ok g' =>
      rw [change_of_addOperator_eq_ok h, binding?_of_addOperator_eq_ok h, write?, h]
      by_cases heq : other = symbol
      · simp [heq]
      · simp [heq]

/-- Whether a change binds its symbol does not depend on the grammar. -/
theorem write?_operator (g : Grammar) (symbol other : String) (binding : Binding) :
    g.write? symbol (.operator other binding) =
      if other = symbol ∧ IsWord other then some binding else none := by
  rw [write?]
  cases h : g.addOperator other binding with
  | error error =>
    have hword := (addOperator_eq_error_iff.1 h).1
    simp [hword]
  | ok g' =>
    have hword := exists_addOperator_eq_ok_iff.1 ⟨g', h⟩
    simp [hword]

theorem write?_operand (g : Grammar) (symbol : String) (isOperand : String → Bool) :
    g.write? symbol (.operand isOperand) = none := rfl

/-- Binding an operator keeps the test for operands, also if it is refused. -/
theorem isOperand_change_operator (g : Grammar) (symbol : String) (binding : Binding) :
    (g.change (.operator symbol binding)).isOperand = g.isOperand := by
  cases h : g.addOperator symbol binding with
  | error error => rw [change_of_addOperator_eq_error h]
  | ok g' => rw [change_of_addOperator_eq_ok h, isOperand_of_addOperator_eq_ok h]

/-! ### What a history does -/

/-- After some changes a symbol has the binding that was written last, or the one that it had
at the start. -/
theorem binding?_changed (g : Grammar) (changes : List Change) (symbol : String) :
    (g.changed changes).binding? symbol =
      (g.lastWrite? symbol changes).or (g.binding? symbol) := by
  induction changes generalizing g with
  | nil => rfl
  | cons first later ih =>
    show ((g.change first).changed later).binding? symbol = _
    rw [ih, binding?_change, lastWrite?, Option.or_assoc]

/-! ### What the tables at the start say -/

/-- If two computations in a row succeed, the second succeeds on the result of the first. -/
theorem exists_of_bind_eq_ok {ε α β : Type} {x : Except ε α} {f : α → Except ε β} {b : β}
    (h : x >>= f = .ok b) : ∃ a, x = .ok a ∧ f a = .ok b := by
  cases x with
  | error error => cases h
  | ok a => exact ⟨a, rfl, h⟩

theorem latest?_cons (entry : String × Binding) (entries : List (String × Binding))
    (symbol : String) :
    latest? (entry :: entries) symbol =
      (latest? entries symbol).or (if entry.1 = symbol then some entry.2 else none) := by
  rw [latest?, List.reverse_cons, List.lookup_append, ← latest?, List.lookup_cons]
  by_cases h : entry.1 = symbol
  · simp [h]
  · simp [h, beq_eq_false_iff_ne.2 (Ne.symm h)]

/-- A table that entries are put into holds the latest of them for each symbol. -/
theorem getElem?_insertMany (entries : List (String × Binding))
    (table : Std.TreeMap String Binding) (symbol : String) :
    (table.insertMany entries)[symbol]? = (latest? entries symbol).or table[symbol]? := by
  induction entries generalizing table with
  | nil => rfl
  | cons entry entries ih =>
    rw [Std.TreeMap.insertMany_cons, ih, latest?_cons, Std.TreeMap.getElem?_insert]
    simp only [Std.LawfulEqCmp.compare_eq_iff_eq]
    by_cases h : entry.1 = symbol
    · simp [h]
    · simp [h]

theorem binding?_standard (symbol : String) :
    standard.binding? symbol = latest? standardEntries symbol := by
  have hbindings : standard.bindings = .ofList standardEntries := rfl
  rw [binding?, hbindings, Std.TreeMap.ofList_eq_insertMany_empty, getElem?_insertMany,
    Std.TreeMap.getElem?_emptyc, Option.or_none]

/-- Operators that are added in a row are bound as the latest entries say. -/
theorem binding?_of_foldlM_addOperator {entries : List (String × Binding)} {g g' : Grammar}
    (h : entries.foldlM (fun g entry => g.addOperator entry.1 entry.2) g = .ok g')
    (symbol : String) :
    g'.binding? symbol = (latest? entries symbol).or (g.binding? symbol) := by
  induction entries generalizing g with
  | nil =>
    cases h
    rfl
  | cons entry entries ih =>
    rw [List.foldlM_cons] at h
    obtain ⟨next, hadd, hrest⟩ := exists_of_bind_eq_ok h
    rw [ih hrest, latest?_cons, binding?_of_addOperator_eq_ok hadd]
    by_cases heq : entry.1 = symbol
    · simp [heq]
    · simp [heq]

/-- Binds an operator to the left with the rank that stands for it in the table. -/
def addRanked (ranks : Std.TreeMap String Int) (g : Grammar) (symbol : String) :
    Except GrammarError Grammar :=
  match ranks[symbol]? with
  | none => .error (.missingPrecedence symbol)
  | some rank => g.addOperator symbol ⟨rank, .left⟩

theorem ofRanks_eq_foldlM (operators : List String) (ranks : Std.TreeMap String Int) :
    ofRanks operators ranks = operators.foldlM (addRanked ranks) empty := rfl

theorem addRanked_eq_ok_iff {ranks : Std.TreeMap String Int} {g g' : Grammar} {symbol : String} :
    addRanked ranks g symbol = .ok g' ↔
      ∃ rank, ranks[symbol]? = some rank ∧ g.addOperator symbol ⟨rank, .left⟩ = .ok g' := by
  rw [addRanked]
  cases ranks[symbol]? with
  | none => simp
  | some rank => simp

/-- Operators that are added in a row with their ranks are bound as the ranks say, the others
as they were. -/
theorem binding?_of_foldlM_addRanked {ranks : Std.TreeMap String Int} {operators : List String}
    {g g' : Grammar} (h : operators.foldlM (addRanked ranks) g = .ok g') (symbol : String) :
    g'.binding? symbol =
      if symbol ∈ operators then ranks[symbol]?.map fun rank => ⟨rank, .left⟩
      else g.binding? symbol := by
  induction operators generalizing g with
  | nil =>
    cases h
    rfl
  | cons first operators ih =>
    rw [List.foldlM_cons] at h
    obtain ⟨next, hfirst, hrest⟩ := exists_of_bind_eq_ok h
    obtain ⟨rank, hrank, hadd⟩ := addRanked_eq_ok_iff.1 hfirst
    rw [ih hrest, binding?_of_addOperator_eq_ok hadd]
    by_cases hmem : symbol ∈ operators
    · rw [if_pos hmem, if_pos (List.mem_cons_of_mem _ hmem)]
    · rw [if_neg hmem]
      by_cases heq : first = symbol
      · subst heq
        rw [if_pos rfl, if_pos List.mem_cons_self, hrank]
        rfl
      · rw [if_neg heq, if_neg]
        rintro (_ | ⟨_, hmem'⟩)
        · exact heq rfl
        · exact hmem hmem'

/-- In a grammar of ranked operators the operators are bound as the ranks say, and no other
symbol is bound. -/
theorem binding?_of_ofRanks_eq_ok {operators : List String} {ranks : Std.TreeMap String Int}
    {g : Grammar} (h : ofRanks operators ranks = .ok g) (symbol : String) :
    g.binding? symbol =
      if symbol ∈ operators then ranks[symbol]?.map fun rank => ⟨rank, .left⟩ else none := by
  rw [ofRanks_eq_foldlM] at h
  rw [binding?_of_foldlM_addRanked h, binding?_empty]

/-- The grammar at the start holds what its table says. -/
theorem Origin.binding?_of_grammar_eq_ok {origin : Origin} {g : Grammar}
    (h : origin.grammar = .ok g) (symbol : String) : g.binding? symbol = origin.table symbol := by
  cases origin with
  | standard =>
    cases h
    exact binding?_standard symbol
  | empty =>
    cases h
    exact binding?_empty symbol
  | ranked operators ranks =>
    exact binding?_of_ofRanks_eq_ok h symbol
  | listed entries =>
    rw [binding?_of_foldlM_addOperator h, binding?_empty, Option.or_none]
    rfl

/-! ### What the grammars of a history say -/

/-- All questions about operators agree.  The operators are words, so no parenthesis is one,
but the parentheses have a strength, which is above that of every operator. -/
structure IsConsistent (g : Grammar) : Prop where
  agree : ∀ symbol, List.TFAE [g.isOperator symbol = true,
    (g.associativity? symbol).isSome = true, symbol ∈ g.operators,
    ∃ rank, g.precedence? symbol = some (.rank rank)]
  isWord : ∀ symbol, g.isOperator symbol = true → IsWord symbol
  parenthesis : ∀ symbol, symbol = "(" ∨ symbol = ")" →
    g.isOperator symbol = false ∧ g.precedence? symbol = some .parenthesis
  lt_parenthesis : ∀ symbol strength, g.isOperator symbol = true →
    g.precedence? symbol = some strength → strength < .parenthesis

/-- The questions about operators have the same answers. -/
structure SameOperators (g g' : Grammar) : Prop where
  isOperator : ∀ symbol, g.isOperator symbol = g'.isOperator symbol
  associativity? : ∀ symbol, g.associativity? symbol = g'.associativity? symbol
  precedence? : ∀ symbol, g.precedence? symbol = g'.precedence? symbol
  operators : g.operators = g'.operators

/-- Every grammar is consistent. -/
theorem isConsistent (g : Grammar) : g.IsConsistent where
  agree symbol := by
    tfae_have 1 ↔ 2 := by rw [isOperator_eq_true_iff, isSome_associativity?_iff]
    tfae_have 1 ↔ 3 := by rw [isOperator_eq_true_iff, mem_operators_iff]
    tfae_have 1 ↔ 4 := by
      rw [isOperator_eq_true_iff]
      simp only [precedence?_eq_rank_iff, Option.map_eq_some_iff]
      constructor
      · rintro ⟨binding, hbinding⟩
        exact ⟨binding.rank, binding, hbinding, rfl⟩
      · rintro ⟨-, binding, hbinding, -⟩
        exact ⟨binding, hbinding⟩
    tfae_finish
  isWord symbol hoperator := by
    obtain ⟨binding, hbinding⟩ := isOperator_eq_true_iff.1 hoperator
    exact isWord_of_binding?_eq_some hbinding
  parenthesis symbol hparen := by
    refine ⟨?_, precedence?_of_paren g hparen⟩
    rw [isOperator_eq_isSome_binding?, binding?_of_paren g hparen]
    rfl
  lt_parenthesis symbol strength hoperator hstrength := by
    obtain ⟨binding, hbinding⟩ := isOperator_eq_true_iff.1 hoperator
    have hrank : g.precedence? symbol = some (.rank binding.rank) :=
      precedence?_eq_rank_iff.2 (by rw [hbinding, Option.map_some])
    rw [hrank] at hstrength
    cases hstrength
    exact Precedence.rank_lt_parenthesis binding.rank

/-- Grammars that bind every symbol alike agree on all questions about operators. -/
theorem SameOperators.of_binding?_eq {g g' : Grammar}
    (h : ∀ symbol, g.binding? symbol = g'.binding? symbol) : SameOperators g g' where
  isOperator symbol := by rw [isOperator_eq_isSome_binding?, isOperator_eq_isSome_binding?, h]
  associativity? symbol := by rw [Grammar.associativity?, Grammar.associativity?, h]
  precedence? symbol := by rw [Grammar.precedence?, Grammar.precedence?, h]
  operators := (Std.TreeMap.Equiv.of_forall_constGet?_eq h).keys_eq

/-- Another test for operands leaves the operators as they are. -/
theorem sameOperators_withOperand (g : Grammar) (isOperand : String → Bool) :
    SameOperators g (g.withOperand isOperand) :=
  .of_binding?_eq fun symbol => (binding?_withOperand g isOperand symbol).symm

/-- A grammar that has a history is consistent.  Its operators are bound as the last change
said that bound them, or else as the table at the start says; only changes that bind an
operator change them, and only the others change what an operand is. -/
theorem changed_last_write_wins {origin : Origin} {first : Grammar}
    (h : origin.grammar = .ok first) (changes : List Change) :
    (first.changed changes).IsConsistent ∧
      (∀ symbol,
        (first.changed changes).associativity? symbol =
            ((first.lastWrite? symbol changes).or (origin.table symbol)).map
              Binding.associativity ∧
          ∀ rank, (first.changed changes).precedence? symbol = some (.rank rank) ↔
            ((first.lastWrite? symbol changes).or (origin.table symbol)).map Binding.rank =
              some rank) ∧
      (∀ isOperand, SameOperators (first.changed changes)
        ((first.changed changes).change (.operand isOperand))) ∧
      ∀ symbol binding text,
        ((first.changed changes).change (.operator symbol binding)).isOperand text =
          (first.changed changes).isOperand text := by
  refine ⟨isConsistent _, fun symbol => ?_, fun isOperand => sameOperators_withOperand _ isOperand,
    fun symbol binding text => congrFun (isOperand_change_operator _ symbol binding) text⟩
  have hbinding := binding?_changed first changes symbol
  rw [Origin.binding?_of_grammar_eq_ok h] at hbinding
  refine ⟨?_, fun rank => ?_⟩
  · rw [associativity?, hbinding]
  · rw [precedence?_eq_rank_iff, hbinding]

/-- A list that names `+` twice, and then a symbol that is bound twice more, with refused
symbols and another test for operands in between. -/
theorem changed_last_write_wins_over_refusals :
    ∃ first, (Origin.listed [("+", ⟨0, .left⟩), ("*", ⟨1, .left⟩), ("+", ⟨3, .right⟩)]).grammar =
        .ok first ∧
      ∃ g, g = first.changed [.operator "*" ⟨5, .right⟩, .operator "a b" ⟨9, .left⟩,
          .operand fun _ => true, .operator "*" ⟨-2147483648, .left⟩, .operator "(" ⟨9, .left⟩] ∧
        g.IsConsistent ∧
        g.associativity? "+" = some .right ∧ g.precedence? "+" = some (.rank 3) ∧
        g.associativity? "*" = some .left ∧ g.precedence? "*" = some (.rank (-2147483648)) ∧
        g.associativity? "a b" = none := by
  cases horigin : (Origin.listed
      [("+", ⟨0, .left⟩), ("*", ⟨1, .left⟩), ("+", ⟨3, .right⟩)]).grammar with
  | error error =>
    have hok := congrArg Except.isOk horigin
    rw [show Except.isOk (Origin.listed _).grammar = true by decide +kernel] at hok
    cases hok
  | ok first =>
    obtain ⟨hconsistent, hbound, -, -⟩ := changed_last_write_wins horigin [
      .operator "*" ⟨5, .right⟩, .operator "a b" ⟨9, .left⟩, .operand fun _ => true,
      .operator "*" ⟨-2147483648, .left⟩, .operator "(" ⟨9, .left⟩]
    simp only [lastWrite?, write?_operator, write?_operand] at hbound
    exact ⟨first, rfl, _, rfl, hconsistent, (hbound "+").1.trans (by decide +kernel),
      ((hbound "+").2 3).2 (by decide +kernel), (hbound "*").1.trans (by decide +kernel),
      ((hbound "*").2 (-2147483648)).2 (by decide +kernel),
      (hbound "a b").1.trans (by decide +kernel)⟩

end ShuntingYard.Grammar
