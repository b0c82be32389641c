/-
What an expression sees of a grammar.

Of a grammar an expression sees how its own lexemes are classified, from which side its
operators group, and which of two of them has the higher rank.  Two grammars that agree in
this run alike: step by step the same operators wait, the same trees are finished, and the
same is noted in the log.  How far apart the ranks are is not seen, and neither are the
operators that do not occur.

* `Grammar.AgreeOn` — two grammars that some texts cannot tell apart;
* `Grammar.AgreeOn.reducesBefore_eq` — of two operators the same goes first under both;
* `Grammar.AgreeOn.of_binding?_eq`, `Grammar.AgreeOn.of_strictMonoOn` — other operators do
  not matter, and neither does a change of ranks that keeps their order;
* `Grammar.RunsAlike` — the same result and the same log;
* `Grammar.parse_of_agreeOn` — grammars that agree on the lexemes of an expression run
  alike on it.
-/
import Mathlib.Data.Int.ConditionallyCompleteOrder
import Mathlib.Order.ConditionallyCompleteLattice.Basic
import ShuntingYard.Proofs.Correspondence

namespace ShuntingYard

namespace Grammar

variable {g g' : Grammar} {texts : List String}

/-- The texts cannot tell the two grammars apart. -/
structure AgreeOn (g g' : Grammar) (texts : List String) : Prop where
  /-- Each text is of the same kind, or of none. -/
  kind : ∀ text ∈ texts, g.kind? text = g'.kind? text
  /-- Each operator groups from the same side. -/
  associativity : ∀ symbol ∈ texts, g.isOperator symbol = true →
    g.associativity? symbol = g'.associativity? symbol
  /-- The ranks of any two operators compare alike. -/
  rank : ∀ symbol ∈ texts, ∀ other ∈ texts, ∀ a b a' b',
    g.binding? symbol = some a → g.binding? other = some b →
      g'.binding? symbol = some a' → g'.binding? other = some b' →
        (a.rank ≤ b.rank ↔ a'.rank ≤ b'.rank)

/-! ### Which operator goes first -/

/-- The two grammars bind one of the texts so. -/
def Bound (g g' : Grammar) (texts : List String) (binding binding' : Binding) : Prop :=
  ∃ symbol ∈ texts, g.binding? symbol = some binding ∧ g'.binding? symbol = some binding'

/-- Of two operators the same goes first under both grammars. -/
theorem AgreeOn.reducesBefore_eq (h : g.AgreeOn g' texts) {top top' incoming incoming' : Binding}
    (htop : Bound g g' texts top top') (hincoming : Bound g g' texts incoming incoming') :
    top.reducesBefore incoming = top'.reducesBefore incoming' := by
  obtain ⟨a, ha, hatop, hatop'⟩ := htop
  obtain ⟨b, hb, hbinc, hbinc'⟩ := hincoming
  have hside : incoming.associativity = incoming'.associativity := by
    have hsides := h.associativity b hb (isOperator_eq_true_iff.2 ⟨incoming, hbinc⟩)
    rw [associativity?, associativity?, hbinc, hbinc'] at hsides
    exact Option.some_inj.1 hsides
  have hle := h.rank a ha b hb top incoming top' incoming' hatop hbinc hatop' hbinc'
  have hge := h.rank b hb a ha incoming top incoming' top' hbinc hatop hbinc' hatop'
  rw [Bool.eq_iff_iff, Binding.reducesBefore_eq_true_iff, Binding.reducesBefore_eq_true_iff, hside]
  cases incoming'.associativity with
  | left =>
    simp only [and_true]
    omega
  | right =>
    simp only [reduceCtorEq, and_false, or_false]
    omega

/-! ### Grammars that agree -/

/-- Operators that do not occur do not matter. -/
theorem AgreeOn.of_binding?_eq
    (h : ∀ text ∈ texts,
      g.binding? text = g'.binding? text ∧ g.isOperand text = g'.isOperand text) :
    g.AgreeOn g' texts := by
  refine ⟨?_, ?_, ?_⟩
  · intro text htext
    obtain ⟨hbinding, hoperand⟩ := h text htext
    rw [kind?, kind?, classify, classify, hbinding, hoperand]
  · intro symbol hsymbol _
    rw [associativity?, associativity?, (h symbol hsymbol).1]
  · intro symbol hsymbol other hother a b a' b' ha hb ha' hb'
    rw [(h symbol hsymbol).1, ha', Option.some_inj] at ha
    rw [(h other hother).1, hb', Option.some_inj] at hb
    rw [ha, hb]

/-- The ranks of the operators of a grammar. -/
def ranks (g : Grammar) : Set Int :=
  {rank | ∃ symbol binding, g.binding? symbol = some binding ∧ binding.rank = rank}

/-- A change of ranks that keeps their order does not matter. -/
theorem AgreeOn.of_strictMonoOn {f : Int → Int} (hf : StrictMonoOn f g.ranks)
    (hbinding : ∀ symbol, g'.binding? symbol =
      (g.binding? symbol).map fun binding => ⟨f binding.rank, binding.associativity⟩)
    (hoperand : g'.isOperand = g.isOperand) (texts : List String) : g.AgreeOn g' texts := by
  refine ⟨?_, ?_, ?_⟩
  · intro text _
    rw [kind?, kind?, classify, classify, hbinding, hoperand]
    cases g.binding? text <;> simp only [Option.map_none, Option.map_some]
    split
    · rfl
    · split <;> rfl
  · intro symbol _ _
    rw [associativity?, associativity?, hbinding]
    cases g.binding? symbol <;> rfl
  · intro symbol _ other _ a b a' b' ha hb ha' hb'
    rw [hbinding, ha, Option.map_some, Option.some_inj] at ha'
    rw [hbinding, hb, Option.map_some, Option.some_inj] at hb'
    subst ha'
    subst hb'
    exact (hf.le_iff_le ⟨symbol, a, ha, rfl⟩ ⟨other, b, hb, rfl⟩).symm

/-- The same operators with other ranks. -/
def mapRanks (f : Int → Int) (g : Grammar) : Grammar where
  bindings := g.bindings.map fun _ binding => ⟨f binding.rank, binding.associativity⟩
  isOperand := g.isOperand
  isWord_of_mem symbol hsymbol := g.isWord_of_mem symbol (Std.TreeMap.mem_map.1 hsymbol)

theorem binding?_mapRanks (f : Int → Int) (g : Grammar) (symbol : String) :
    (g.mapRanks f).binding? symbol =
      (g.binding? symbol).map fun binding => ⟨f binding.rank, binding.associativity⟩ :=
  Std.TreeMap.getElem?_map

/-- The ranks of arithmetic moved to both ends of the 32-bit numbers. -/
def stretch (rank : Int) : Int :=
  if rank < 1 then rank - 2147483648 else if 1 < rank then rank + 2147483645 else rank

theorem stretch_strictMono : StrictMono stretch := by
  intro a b hlt
  unfold stretch
  split_ifs <;> omega

/-! ### Two runs -/

/-- Both grammars give the same result for the expression, and the same log. -/
def RunsAlike (g g' : Grammar) (expression : String) : Prop :=
  g.parse expression = g'.parse expression ∧
    (g.log expression).map Event.shown = (g'.log expression).map Event.shown

/-- The runs under grammars that agree differ in the bindings of operators only. -/
def AgreeOn.comparison (h : g.AgreeOn g' texts) : Comparison where
  place := Eq
  bound := Bound g g' texts
  exchange _ value := .leaf value
  fault := Eq
  mask event := some event.shown
  missingOperand _ hspan := by rw [hspan]
  unbalancedParentheses _ hspan := by rw [hspan]
  reducesBefore_eq := h.reducesBefore_eq
  mask_reducing left right symbol n m := by
    rw [Tree.substituteFrom_leaf, Tree.substituteFrom_leaf]

/-- Lexemes with these texts read alike. -/
theorem AgreeOn.readsAlike (h : g.AgreeOn g' texts) {lexemes : List Lexeme}
    (hlexemes : ∀ lexeme ∈ lexemes, lexeme.text ∈ texts) (n : Nat) :
    h.comparison.ReadsAlike g g' n lexemes lexemes := by
  induction lexemes generalizing n with
  | nil => exact .nil n
  | cons lexeme others ih =>
    obtain ⟨hlexeme, hothers⟩ := List.forall_mem_cons.1 hlexemes
    rcases classify_of_kind?_eq (h.kind lexeme.text hlexeme) with
      ⟨hnone, hnone'⟩ | ⟨token, token', htoken, htoken', hkind⟩
    · exact .unrecognised hnone hnone' rfl
    · have htext : token.text = token'.text :=
        (text_of_classify_eq_some htoken).trans (text_of_classify_eq_some htoken').symm
      have hmask : h.comparison.mask (.reading token lexeme.span) =
          h.comparison.mask (.reading token' lexeme.span) := by
        have hdescribe := Token.describe_eq_of_kind_eq hkind htext
        simp only [comparison, Event.shown, Event.level, Event.message, hdescribe]
      refine .token htoken htoken' (.of_kind_eq hkind ?_ ?_) rfl hmask (ih hothers _)
      · rintro text text' rfl rfl
        exact congrArg Tree.leaf htext
      · rintro symbol binding symbol' binding' rfl rfl
        exact ⟨htext, lexeme.text, hlexeme, (classify_eq_operator_iff.1 htoken).2,
          (classify_eq_operator_iff.1 htoken').2⟩

/-- Grammars that agree on the lexemes of an expression run alike on it. -/
theorem AgreeOn.runsAlike {expression : String}
    (h : g.AgreeOn g' ((lexemes expression).map Lexeme.text)) : g.RunsAlike g' expression := by
  have hlexemes : ∀ lexeme ∈ lexemes expression,
      lexeme.text ∈ (lexemes expression).map Lexeme.text :=
    fun lexeme hlexeme => List.mem_map_of_mem hlexeme
  obtain ⟨hevents, houtcome⟩ := Comparison.parallel_run (h.readsAlike hlexemes 0)
    (fun _ => rfl) rfl fun tree => by
      rw [show tree.substitute h.comparison.exchange = tree from tree.substitute_leaf]
  have heq : (g.run expression).outcome = (g'.run expression).outcome := by
    generalize (g.run expression).outcome = outcome at houtcome ⊢
    generalize (g'.run expression).outcome = outcome' at houtcome ⊢
    cases houtcome with
    | @ok tree tree' htree =>
      have hsame : tree' = tree := htree.trans tree.substitute_leaf
      rw [hsame]
    | error hfault => exact congrArg Except.error hfault
  refine ⟨by rw [parse, parse, heq], ?_⟩
  have hmask : List.filterMap h.comparison.mask = List.map Event.shown := List.filterMap_eq_map
  rwa [hmask] at hevents

/-- An expression sees of a grammar only the kinds of its own lexemes, the sides from which
its operators group and the order of their ranks.  So operators that do not occur in it do
not matter, and neither does a change of ranks that keeps their order. -/
theorem parse_of_agreeOn (g g' : Grammar) (expression : String) :
    (g.AgreeOn g' ((lexemes expression).map Lexeme.text) → g.RunsAlike g' expression) ∧
      ((∀ lexeme ∈ lexemes expression, g.binding? lexeme.text = g'.binding? lexeme.text ∧
          g.isOperand lexeme.text = g'.isOperand lexeme.text) →
        g.RunsAlike g' expression) ∧
      ∀ f : Int → Int, StrictMonoOn f g.ranks →
        (∀ symbol, g'.binding? symbol =
          (g.binding? symbol).map fun binding => ⟨f binding.rank, binding.associativity⟩) →
        g'.isOperand = g.isOperand → g.RunsAlike g' expression := by
  refine ⟨AgreeOn.runsAlike, fun h => ?_, fun f hf hbinding hoperand => ?_⟩
  · have hagree : g.AgreeOn g' ((lexemes expression).map Lexeme.text) :=
      .of_binding?_eq fun text htext => by
        obtain ⟨lexeme, hlexeme, rfl⟩ := List.mem_map.1 htext
        exact h lexeme hlexeme
    exact hagree.runsAlike
  · exact (AgreeOn.of_strictMonoOn hf hbinding hoperand _).runsAlike

/-- Ranks as far apart as 32 bits allow, and an operator that does not occur. -/
theorem parse_at_extreme_ranks :
    ∃ stretched widened : Grammar,
      stretched.binding? "^" = some ⟨2147483647, .right⟩ ∧
        stretched.binding? "-" = some ⟨-2147483648, .left⟩ ∧
        standard.addOperator "==" ⟨3, .right⟩ = .ok widened ∧
        standard.AgreeOn stretched ((lexemes "8 - 3 * 2 ^ (4 ^ 5) - )").map Lexeme.text) ∧
        standard.RunsAlike stretched "8 - 3 * 2 ^ (4 ^ 5) - )" ∧
        standard.RunsAlike stretched "8 - 3 * 2 ^ 4 ^ 5 - 6" ∧
        standard.RunsAlike widened "8 - 3 * 2 ^ 4 ^ 5 - 6" := by
  have hbinding := binding?_mapRanks stretch standard
  have hstretch : StrictMonoOn stretch standard.ranks := stretch_strictMono.strictMonoOn _
  have hagree := AgreeOn.of_strictMonoOn hstretch hbinding rfl
    ((lexemes "8 - 3 * 2 ^ (4 ^ 5) - )").map Lexeme.text)
  obtain ⟨widened, hwidened⟩ : ∃ g, standard.addOperator "==" ⟨3, .right⟩ = .ok g :=
    exists_addOperator_eq_ok_iff.2 (by decide +kernel)
  have habsent : ∀ lexeme ∈ lexemes "8 - 3 * 2 ^ 4 ^ 5 - 6", "==" ≠ lexeme.text := by
    decide +kernel
  refine ⟨standard.mapRanks stretch, widened, ?_, ?_, hwidened, hagree,
    (parse_of_agreeOn _ _ _).1 hagree, (parse_of_agreeOn _ _ _).2.2 stretch hstretch hbinding rfl,
    (parse_of_agreeOn _ _ _).2.1 fun lexeme hlexeme => ?_⟩
  · decide +kernel
  · decide +kernel
  · rw [binding?_of_addOperator_eq_ok hwidened, if_neg (habsent lexeme hlexeme),
      isOperand_of_addOperator_eq_ok hwidened]
    exact ⟨rfl, rfl⟩

end Grammar

end ShuntingYard
