/-
Grammars that are made from a list of operators and a table of ranks.

The list is gone through once, and every operator is bound as the table says.  Whether an
operator can be bound, and why not, is a matter of the operator and the table alone: what has
been bound before plays no part.  So the first operator that is refused alone is refused in the
list, and if there is none, the grammar holds what the table says of the operators, however
often they are listed and in whatever order.

* `Grammar.refusal?` — why an operator is refused, whatever stands around it;
* `Grammar.addRanked_eq_error_iff` — when a single operator is refused;
* `foldlM_eq_error_iff` — steps that fail for reasons of their own: the first reason is given;
* `Grammar.ofRanks_eq_error_iff`, `Grammar.exists_ofRanks_eq_ok_iff` — when a list is refused, and
  when it is not;
* `Grammar.Indistinguishable` — two grammars that no question and no expression tells apart;
* `Grammar.ofRanks_order_insensitive` — what such a grammar holds, and what it depends on.
-/
import ShuntingYard.Proofs.Histories
import ShuntingYard.Proofs.RankOrder

namespace ShuntingYard

/-- If it does not depend on the state whether a step fails, and why, then a run fails for the
first reason there is. -/
theorem foldlM_eq_error_iff {ε α σ : Type} {step : σ → α → Except ε σ} {reason? : α → Option ε}
    (hstep : ∀ s a e, step s a = .error e ↔ reason? a = some e) {as : List α} {s : σ} {e : ε} :
    as.foldlM step s = .error e ↔ as.findSome? reason? = some e := by
  induction as generalizing s with
  | nil =>
    constructor
    · intro h
      cases h
    · intro h
      cases h
  | cons a as ih =>
    rw [List.foldlM_cons]
    cases hfirst : step s a with
    | error reason =>
      rw [List.findSome?_cons, (hstep s a reason).1 hfirst]
      constructor
      · intro h
        cases h
        rfl
      · intro h
        cases h
        rfl
    | ok next =>
      have hnone : reason? a = none := by
        refine Option.eq_none_iff_forall_ne_some.2 fun reason hreason => ?_
        rw [(hstep s a reason).2 hreason] at hfirst
        cases hfirst
      rw [List.findSome?_cons, hnone]
      exact ih

namespace Grammar

variable {operators : List String} {ranks : Std.TreeMap String Int} {g g' : Grammar}
  {symbol : String} {error : GrammarError}

/-! ### One operator -/

/-- Why an operator is refused: it has no rank, or it has one and is no word. -/
def refusal? (ranks : Std.TreeMap String Int) (symbol : String) : Option GrammarError :=
  if symbol ∈ ranks then
    if IsWord symbol then none else some (.invalidSymbol symbol)
  else
    some (.missingPrecedence symbol)

theorem refusal?_eq_none_iff : refusal? ranks symbol = none ↔ symbol ∈ ranks ∧ IsWord symbol := by
  unfold refusal?
  split_ifs with hmem hword
  · simp [hmem, hword]
  · simp [hword]
  · simp [hmem]

theorem refusal?_eq_some_iff :
    refusal? ranks symbol = some error ↔
      symbol ∉ ranks ∧ error = .missingPrecedence symbol ∨
        symbol ∈ ranks ∧ ¬ IsWord symbol ∧ error = .invalidSymbol symbol := by
  unfold refusal?
  split_ifs with hmem hword
  · simp [hmem, hword]
  · simp [hmem, hword, eq_comm]
  · simp [hmem, eq_comm]

/-- The operators that have been bound before play no part. -/
theorem addRanked_eq_error_iff :
    addRanked ranks g symbol = .error error ↔ refusal? ranks symbol = some error := by
  rw [addRanked, refusal?_eq_some_iff, Std.TreeMap.mem_iff_isSome_getElem?]
  cases ranks[symbol]? with
  | none => simp [eq_comm]
  | some rank => simp [addOperator_eq_error_iff]

theorem isOperand_of_addRanked_eq_ok (h : addRanked ranks g symbol = .ok g') :
    g'.isOperand = g.isOperand := by
  obtain ⟨rank, -, hadd⟩ := addRanked_eq_ok_iff.1 h
  exact isOperand_of_addOperator_eq_ok hadd

/-! ### The list -/

/-- The first operator that is refused alone is refused in the list. -/
theorem ofRanks_eq_error_iff :
    ofRanks operators ranks = .error error ↔
      operators.findSome? (refusal? ranks) = some error := by
  have hstep : ∀ g symbol error,
      addRanked ranks g symbol = .error error ↔ refusal? ranks symbol = some error :=
    fun _ _ _ => addRanked_eq_error_iff
  rw [ofRanks_eq_foldlM]
  exact foldlM_eq_error_iff hstep

/-- A list is accepted if every operator alone is. -/
theorem exists_ofRanks_eq_ok_iff :
    (∃ g, ofRanks operators ranks = .ok g) ↔
      ∀ symbol ∈ operators, symbol ∈ ranks ∧ IsWord symbol := by
  simp only [← refusal?_eq_none_iff, ← List.findSome?_eq_none_iff]
  cases h : ofRanks operators ranks with
  | ok g =>
    refine ⟨fun _ => Option.eq_none_iff_forall_ne_some.2 fun error herror => ?_, fun _ => ⟨g, rfl⟩⟩
    rw [ofRanks_eq_error_iff.2 herror] at h
    cases h
  | error error => simp [ofRanks_eq_error_iff.1 h]

theorem isOperand_of_foldlM_addRanked (h : operators.foldlM (addRanked ranks) g = .ok g') :
    g'.isOperand = g.isOperand := by
  induction operators generalizing g with
  | nil =>
    cases h
    rfl
  | cons first operators ih =>
    rw [List.foldlM_cons] at h
    obtain ⟨next, hfirst, hrest⟩ := exists_of_bind_eq_ok h
    exact (ih hrest).trans (isOperand_of_addRanked_eq_ok hfirst)

/-- An operator of a list that is accepted has a rank, and it is bound with it. -/
theorem exists_rank_of_ofRanks_eq_ok (h : ofRanks operators ranks = .ok g)
    (hsymbol : symbol ∈ operators) :
    ∃ rank, ranks[symbol]? = some rank ∧ g.binding? symbol = some ⟨rank, .left⟩ := by
  have hmem := (exists_ofRanks_eq_ok_iff.1 ⟨g, h⟩ symbol hsymbol).1
  rw [Std.TreeMap.mem_iff_isSome_getElem?, Option.isSome_iff_exists] at hmem
  obtain ⟨rank, hrank⟩ := hmem
  refine ⟨rank, hrank, ?_⟩
  rw [binding?_of_ofRanks_eq_ok h, if_pos hsymbol, hrank, Option.map_some]

theorem mem_operators_of_ofRanks_eq_ok (h : ofRanks operators ranks = .ok g) :
    symbol ∈ g.operators ↔ symbol ∈ operators := by
  rw [mem_operators_iff]
  constructor
  · rintro ⟨binding, hbinding⟩
    by_contra hsymbol
    rw [binding?_of_ofRanks_eq_ok h, if_neg hsymbol] at hbinding
    cases hbinding
  · intro hsymbol
    obtain ⟨rank, -, hbinding⟩ := exists_rank_of_ofRanks_eq_ok h hsymbol
    exact ⟨_, hbinding⟩

theorem isOperand_of_ofRanks_eq_ok (h : ofRanks operators ranks = .ok g) :
    g.isOperand = isNumeral := by
  rw [ofRanks_eq_foldlM] at h
  exact isOperand_of_foldlM_addRanked h

/-! ### What the list and the table determine -/

/-- Every question has the same answer under both grammars, and every expression has the same
result and the same log. -/
structure Indistinguishable (g g' : Grammar) : Prop where
  operators : g.SameOperators g'
  isOperand : ∀ text, g.isOperand text = g'.isOperand text
  runs : ∀ expression, g.RunsAlike g' expression

/-- Nothing is to be seen of a grammar but its bindings and its test for operands. -/
theorem indistinguishable_of_binding?_eq (h : ∀ symbol, g.binding? symbol = g'.binding? symbol)
    (hoperand : g.isOperand = g'.isOperand) : g.Indistinguishable g' where
  operators := .of_binding?_eq h
  isOperand := congrFun hoperand
  runs _ := AgreeOn.runsAlike (.of_binding?_eq fun text _ => ⟨h text, congrFun hoperand text⟩)

/-- Of the list only its members count, and of the table only their ranks. -/
theorem exists_indistinguishable_of_ofRanks_eq_ok {operators' : List String}
    {ranks' : Std.TreeMap String Int} (h : ofRanks operators ranks = .ok g)
    (hmem : ∀ symbol, symbol ∈ operators' ↔ symbol ∈ operators)
    (hranks : ∀ symbol ∈ operators, ranks'[symbol]? = ranks[symbol]?) :
    ∃ g', ofRanks operators' ranks' = .ok g' ∧ g.Indistinguishable g' := by
  have haccepted : ∀ symbol ∈ operators', symbol ∈ ranks' ∧ IsWord symbol := by
    intro symbol hsymbol
    have hsymbol := (hmem symbol).1 hsymbol
    rw [Std.TreeMap.mem_iff_isSome_getElem?, hranks symbol hsymbol,
      ← Std.TreeMap.mem_iff_isSome_getElem?]
    exact exists_ofRanks_eq_ok_iff.1 ⟨g, h⟩ symbol hsymbol
  obtain ⟨g', h'⟩ := exists_ofRanks_eq_ok_iff.2 haccepted
  refine ⟨g', h', indistinguishable_of_binding?_eq (fun symbol => ?_) ?_⟩
  · rw [binding?_of_ofRanks_eq_ok h, binding?_of_ofRanks_eq_ok h']
    by_cases hsymbol : symbol ∈ operators
    · rw [if_pos hsymbol, if_pos ((hmem symbol).2 hsymbol), hranks symbol hsymbol]
    · rw [if_neg hsymbol, if_neg (mt (hmem symbol).1 hsymbol)]
  · rw [isOperand_of_ofRanks_eq_ok h, isOperand_of_ofRanks_eq_ok h']

/-- A list of operators is accepted exactly if each of them has a rank and is a word.  Then these
are the operators of the grammar, all of them group to the left with their ranks, and the
numerals are the operands.  Another list of the same operators, with a table that gives them the
same ranks, makes a grammar that nothing tells apart from this one.  Otherwise the first operator
in the list that has no rank or is no word is reported: for its rank if it has none, whatever its
text, and else for its text. -/
theorem ofRanks_order_insensitive (operators : List String) (ranks : Std.TreeMap String Int) :
    ((∃ g, ofRanks operators ranks = .ok g) ↔
        ∀ symbol ∈ operators, symbol ∈ ranks ∧ IsWord symbol) ∧
      (∀ g, ofRanks operators ranks = .ok g →
        (∀ symbol, symbol ∈ g.operators ↔ symbol ∈ operators) ∧
        (∀ symbol ∈ operators, g.associativity? symbol = some .left ∧
          ∃ rank, ranks[symbol]? = some rank ∧ g.precedence? symbol = some (.rank rank)) ∧
        g.isOperand = isNumeral ∧
        ∀ operators' ranks', (∀ symbol, symbol ∈ operators' ↔ symbol ∈ operators) →
          (∀ symbol ∈ operators, ranks'[symbol]? = ranks[symbol]?) →
            ∃ g', ofRanks operators' ranks' = .ok g' ∧ g.Indistinguishable g') ∧
      ∀ error, ofRanks operators ranks = .error error ↔
        ∃ before symbol after, operators = before ++ symbol :: after ∧
          (∀ other ∈ before, other ∈ ranks ∧ IsWord other) ∧
          (symbol ∉ ranks ∧ error = .missingPrecedence symbol ∨
            symbol ∈ ranks ∧ ¬ IsWord symbol ∧ error = .invalidSymbol symbol) := by
  refine ⟨exists_ofRanks_eq_ok_iff, fun g h => ?_, fun error => ?_⟩
  · refine ⟨fun symbol => mem_operators_of_ofRanks_eq_ok h, fun symbol hsymbol => ?_,
      isOperand_of_ofRanks_eq_ok h,
      fun operators' ranks' => exists_indistinguishable_of_ofRanks_eq_ok h⟩
    obtain ⟨rank, hrank, hbinding⟩ := exists_rank_of_ofRanks_eq_ok h hsymbol
    refine ⟨by rw [associativity?, hbinding, Option.map_some], rank, hrank, ?_⟩
    rw [precedence?_eq_rank_iff, hbinding, Option.map_some]
  · rw [ofRanks_eq_error_iff, List.findSome?_eq_some_iff]
    simp only [refusal?_eq_some_iff, refusal?_eq_none_iff]
    constructor
    · rintro ⟨before, symbol, after, hsplit, hreason, hbefore⟩
      exact ⟨before, symbol, after, hsplit, hbefore, hreason⟩
    · rintro ⟨before, symbol, after, hsplit, hbefore, hreason⟩
      exact ⟨before, symbol, after, hsplit, hreason, hbefore⟩

/-- An operator that is listed twice, another order and a rank for a parenthesis; and then the
parenthesis among the operators, first without its rank and then with it. -/
theorem ofRanks_order_insensitive_repeated :
    ∃ g g', ofRanks ["+", "*", "+"] (.ofList [("+", (0 : Int)), ("*", 1)]) = .ok g ∧
      ofRanks ["*", "+"] (.ofList [("(", (9 : Int)), ("*", 1), ("+", 0)]) = .ok g' ∧
      g.Indistinguishable g' ∧ g.isOperand = isNumeral ∧
      ofRanks ["+", "(", "a b"] (.ofList [("+", (0 : Int)), ("a b", 1)]) =
        .error (.missingPrecedence "(") ∧
      ofRanks ["+", "(", "a b"] (.ofList [("+", (0 : Int)), ("(", 9)]) =
        .error (.invalidSymbol "(") := by
  obtain ⟨g, h⟩ :=
    (ofRanks_order_insensitive ["+", "*", "+"] (.ofList [("+", (0 : Int)), ("*", 1)])).1.2
      (by decide +kernel)
  obtain ⟨-, -, hoperand, hsame⟩ := (ofRanks_order_insensitive _ _).2.1 g h
  obtain ⟨g', h', hg'⟩ := hsame ["*", "+"] (.ofList [("(", (9 : Int)), ("*", 1), ("+", 0)])
    (by simp [or_comm]) (by decide +kernel)
  refine ⟨g, g', h, h', hg', hoperand, ?_, ?_⟩
  · exact ((ofRanks_order_insensitive _ _).2.2 _).2
      ⟨["+"], "(", ["a b"], rfl, by decide +kernel, Or.inl ⟨by decide +kernel, rfl⟩⟩
  · exact ((ofRanks_order_insensitive _ _).2.2 _).2
      ⟨["+"], "(", ["a b"], rfl, by decide +kernel,
        Or.inr ⟨by decide +kernel, by decide +kernel, rfl⟩⟩

end Grammar

end ShuntingYard
