/-
Where what waits stands among the lexemes that have been read.

Each entry of the track is a lexeme, and the lexemes between an entry and the next have
been settled: their parentheses match, and their operators have been reduced, since they
go before the entry that stands behind them.  An operator that is reduced joins what is
settled on its two sides.

A settled stretch need not have left a tree, as operands may be missing in it, and then it
may have taken trees from elsewhere.  But where no operand is missing it has left at least
one, and so have all stretches above the last in which one is missing.

* `Waiting`, `covered` — an entry with what is settled in front of it, and the lexemes up
  to the latest entry;
* `Grammar.Ordered` — what has been settled between entries, and why they still wait;
* `Grammar.Supply` — how many trees the stretches without a missing operand have left;
* `Layout` — the layout of what has been read, as the yard has it;
* `Layout.push`, `Layout.operand`, `Layout.close`, `Layout.join` — what becomes of it with
  one change of the yard;
* `Layout.fails` — an operator that finds fewer than two trees has an operand missing on
  one of its two sides.
-/
import ShuntingYard.Proofs.Reasons
import ShuntingYard.Yard

namespace ShuntingYard

/-! ### What waits -/

/-- The lexeme of what waits. -/
def Pending.lexeme : Pending → Lexeme
  | openParen span => ⟨"(", span⟩
  | operator symbol _ span => ⟨symbol, span⟩

/-- What waits, and the lexemes that are settled between the entry below and itself. -/
structure Waiting where
  settled : List Lexeme
  entry : Pending

/-- The lexemes up to the latest entry. -/
def covered : List Waiting → List Lexeme
  | [] => []
  | waiting :: below => covered below ++ waiting.settled ++ [waiting.entry.lexeme]

/-- The latest entry does not go before an operator bound by `incoming`. -/
def Waits : List Waiting → Binding → Prop
  | ⟨_, .operator _ binding _⟩ :: _, incoming => binding.reducesBefore incoming = false
  | _, _ => True

theorem Waits.trans {waiting : List Waiting} {binding incoming : Binding}
    (h : Waits waiting binding) (hincoming : binding.reducesBefore incoming = false) :
    Waits waiting incoming := by
  rcases waiting with _ | ⟨⟨settled, span | ⟨symbol, other, span⟩⟩, below⟩
  · trivial
  · trivial
  · exact Binding.reducesBefore_eq_false_trans h hincoming

namespace Grammar

/-- The lexemes end a token: no operator stands outside of their groups, and none stands
at the end. -/
structure AtRest (g : Grammar) (lexemes : List Lexeme) : Prop where
  not_outside : ∀ binding, ¬ g.Outside lexemes binding
  not_due : ∀ lexeme ∈ lexemes.getLast?, ¬ g.DueBehind lexeme

theorem atRest_nil (g : Grammar) : g.AtRest [] := ⟨fun _ => not_outside_nil, by simp⟩

theorem atRest_singleton {g : Grammar} {lexeme : Lexeme} (hopen : lexeme.text ≠ "(")
    (hbinding : g.binding? lexeme.text = none) : g.AtRest [lexeme] := by
  constructor
  · intro binding houtside
    have hsome := outside_singleton houtside
    rw [hbinding] at hsome
    exact absurd hsome nofun
  · intro other hother
    rw [List.getLast?_singleton] at hother
    obtain rfl := Option.some_inj.1 hother
    rw [DueBehind, isOperator_eq_true_iff, hbinding]
    rintro (htext | ⟨binding, hsome⟩)
    · exact hopen htext
    · exact absurd hsome nofun

/-- An operand or a group behind lexemes that end a token. -/
theorem AtRest.append {g : Grammar} {settled part : List Lexeme} (h : g.AtRest settled)
    (hbalanced : Balanced settled) (hne : part ≠ []) (hpart : g.AtRest part) :
    g.AtRest (settled ++ part) := by
  constructor
  · intro binding houtside
    rcases outside_append hbalanced houtside with houtside | houtside
    · exact h.not_outside binding houtside
    · exact hpart.not_outside binding houtside
  · intro lexeme hlexeme
    rw [List.getLast?_append_of_ne_nil _ hne] at hlexeme
    exact hpart.not_due lexeme hlexeme

/-- What is settled between the entries is balanced; its operators have waited for the entry
below, and have gone before the operator behind it. -/
inductive Ordered (g : Grammar) : List Waiting → Prop where
  | nil : Ordered g []
  | openParen {below : List Waiting} {settled : List Lexeme} {span : Span}
      (hbelow : Ordered g below) (hbalanced : Balanced settled) (hrest : g.AtRest settled) :
      Ordered g (⟨settled, .openParen span⟩ :: below)
  | operator {below : List Waiting} {settled : List Lexeme} {symbol : String}
      {binding : Binding} {span : Span} (hbelow : Ordered g below)
      (hbalanced : Balanced settled) (hbinding : g.binding? symbol = some binding)
      (hwaits : Waits below binding)
      (hsettled : ∀ other, g.Outside settled other →
        Waits below other ∧ other.reducesBefore binding = true) :
      Ordered g (⟨settled, .operator symbol binding span⟩ :: below)

theorem Ordered.of_openParen {g : Grammar} {below : List Waiting} {settled : List Lexeme}
    {span : Span} (h : g.Ordered (⟨settled, .openParen span⟩ :: below)) :
    g.Ordered below ∧ Balanced settled ∧ g.AtRest settled := by
  cases h with
  | openParen hbelow hbalanced hrest => exact ⟨hbelow, hbalanced, hrest⟩

theorem Ordered.of_operator {g : Grammar} {below : List Waiting} {left : List Lexeme}
    {symbol : String} {binding : Binding} {span : Span}
    (h : g.Ordered (⟨left, .operator symbol binding span⟩ :: below)) :
    g.Ordered below ∧ Balanced left ∧ g.binding? symbol = some binding ∧ Waits below binding ∧
      ∀ other, g.Outside left other → Waits below other ∧ other.reducesBefore binding = true := by
  cases h with
  | operator hbelow hleft hbinding hwaits hsettled =>
    exact ⟨hbelow, hleft, hbinding, hwaits, hsettled⟩

/-- Behind the latest entry an operator that the entry waits for has its left operand. -/
theorem Ordered.getLast?_covered {g : Grammar} {waiting : List Waiting} {binding : Binding}
    (h : g.Ordered waiting) (hwaits : Waits waiting binding) :
    ∀ lexeme ∈ (covered waiting).getLast?, lexeme.text = "(" ∨
      ∃ other, g.binding? lexeme.text = some other ∧ other.reducesBefore binding = false := by
  intro lexeme hlexeme
  cases h with
  | nil => simp [covered] at hlexeme
  | openParen =>
    rw [covered, List.getLast?_concat] at hlexeme
    obtain rfl := Option.some_inj.1 hlexeme
    exact Or.inl rfl
  | operator _ _ hbinding =>
    rw [covered, List.getLast?_concat] at hlexeme
    obtain rfl := Option.some_inj.1 hlexeme
    exact Or.inr ⟨_, hbinding, hwaits⟩

/-- The stretches below the latest entry have left `count` trees at least: each of them in
which no operand is missing has left one, down to the first in which one is missing.  In
front of an opening parenthesis there need not be a stretch. -/
inductive Supply (g : Grammar) : List Waiting → Nat → Prop where
  | none (waiting : List Waiting) : Supply g waiting 0
  | stretch {below : List Waiting} {settled : List Lexeme} {entry : Pending} {count : Nat}
      (h : ¬ g.Lacks settled) (hbelow : Supply g below count) :
      Supply g (⟨settled, entry⟩ :: below) (count + 1)
  | openParen {below : List Waiting} {span : Span} {count : Nat} (hbelow : Supply g below count) :
      Supply g (⟨[], .openParen span⟩ :: below) count

end Grammar

/-- The layout of the lexemes that have been read: what waits, and what is settled behind the
latest entry. -/
structure Layout (g : Grammar) (read : List Lexeme) (yard : Yard) (waiting : List Waiting)
    (top : List Lexeme) : Prop where
  pending : yard.pending = waiting.map Waiting.entry
  read : read = covered waiting ++ top
  ordered : g.Ordered waiting
  balanced : Balanced top
  waits : ∀ other, g.Outside top other → Waits waiting other
  supplied : ∀ count, g.Supply waiting count →
    (top = [] → count ≤ yard.trees.length) ∧ (¬ g.Lacks top → count + 1 ≤ yard.trees.length)

namespace Layout

variable {g : Grammar} {read : List Lexeme} {yard : Yard} {waiting : List Waiting}
  {top : List Lexeme}

theorem empty (g : Grammar) : Layout g [] Yard.empty [] [] where
  pending := rfl
  read := rfl
  ordered := .nil
  balanced := balanced_nil
  waits := fun _ _ => trivial
  supplied := by
    intro count hcount
    cases hcount with
    | none => exact ⟨fun _ => Nat.le_refl 0, fun h => absurd Grammar.lacks_nil h⟩

/-! ### One change at a time -/

/-- A new entry has all that is settled behind the last one in front of it. -/
theorem push (h : Layout g read yard waiting top) {entry : Pending}
    (hordered : g.Ordered (⟨top, entry⟩ :: waiting)) :
    Layout g (read ++ [entry.lexeme]) ⟨entry :: yard.pending, yard.trees⟩
      (⟨top, entry⟩ :: waiting) [] where
  pending := by rw [h.pending, List.map_cons]
  read := by rw [h.read, covered, List.append_nil]
  ordered := hordered
  balanced := balanced_nil
  waits := fun _ houtside => absurd houtside Grammar.not_outside_nil
  supplied := by
    intro count hcount
    refine ⟨fun _ => ?_, fun hlacks => absurd Grammar.lacks_nil hlacks⟩
    cases hcount with
    | none => exact Nat.zero_le _
    | stretch hsettled hbelow => exact (h.supplied _ hbelow).2 hsettled
    | openParen hbelow => exact (h.supplied _ hbelow).1 rfl

/-- An operand is settled at once. -/
theorem operand (h : Layout g read yard waiting top) (hrest : g.AtRest top) {lexeme : Lexeme}
    (hbalanced : Balanced [lexeme]) (hnot : g.AtRest [lexeme]) (tree : Tree) :
    Layout g (read ++ [lexeme]) ⟨yard.pending, tree :: yard.trees⟩ waiting (top ++ [lexeme]) where
  pending := h.pending
  read := by rw [h.read, List.append_assoc]
  ordered := h.ordered
  balanced := h.balanced.append hbalanced
  waits := by
    intro other houtside
    exact absurd houtside ((hrest.append h.balanced (by simp) hnot).not_outside other)
  supplied := by
    intro count hcount
    obtain ⟨hempty, htop⟩ := h.supplied count hcount
    refine ⟨fun hnil => by simp at hnil, fun hlacks => Nat.succ_le_succ ?_⟩
    by_cases hne : top = []
    · exact hempty hne
    · have hlacks' : ¬ g.Lacks top := fun hmissing =>
        hlacks (hmissing.append hne hrest.not_due [lexeme])
      exact Nat.le_of_succ_le (htop hlacks')

/-- A group is settled when it is closed, together with what was settled in front of it. -/
theorem close {pending : List Pending} {trees : List Tree} {below : List Waiting}
    {settled inner : List Lexeme} {span : Span} {closing : Lexeme}
    (h : Layout g read ⟨.openParen span :: pending, trees⟩ (⟨settled, .openParen span⟩ :: below)
      inner)
    (hclose : closing.text = ")") :
    Layout g (read ++ [closing]) ⟨pending, trees⟩ below
        (settled ++ ⟨"(", span⟩ :: (inner ++ [closing])) ∧
      g.AtRest (settled ++ ⟨"(", span⟩ :: (inner ++ [closing])) := by
  obtain ⟨hbelow, hbalanced, hrest⟩ := h.ordered.of_openParen
  have hgroup : Balanced (⟨"(", span⟩ :: (inner ++ [closing])) :=
    h.balanced.parenthesized rfl hclose
  have hgroupRest : g.AtRest (⟨"(", span⟩ :: (inner ++ [closing])) := by
    refine ⟨fun _ => Grammar.not_outside_parenthesized h.balanced rfl, ?_⟩
    intro lexeme hlexeme
    rw [← List.cons_append, List.getLast?_append] at hlexeme
    obtain rfl := Option.some_inj.1 hlexeme
    exact Grammar.not_dueBehind_of_text_eq hclose
  have hnew := hrest.append hbalanced (List.cons_ne_nil _ _) hgroupRest
  refine ⟨⟨?_, ?_, hbelow, hbalanced.append hgroup, ?_, ?_⟩, hnew⟩
  · exact (List.cons_eq_cons.1 h.pending).2
  · rw [h.read, covered]
    simp [Pending.lexeme]
  · intro other houtside
    exact absurd houtside (hnew.not_outside other)
  · intro count hcount
    refine ⟨fun hnil => by simp at hnil, fun hlacks => ?_⟩
    have hinner : ¬ g.Lacks inner := fun hmissing =>
      hlacks ((hmissing.append_cons (Or.inl hclose) []).cons_append (Or.inl rfl) settled)
    by_cases hne : settled = []
    · subst hne
      exact (h.supplied count (.openParen hcount)).2 hinner
    · have hsettled : ¬ g.Lacks settled := fun hmissing =>
        hlacks (hmissing.append hne hrest.not_due _)
      exact Nat.le_of_succ_le ((h.supplied (count + 1) (.stretch hsettled hcount)).2 hinner)

/-! ### Reductions -/

section

variable {pending : List Pending} {trees trees' : List Tree} {below : List Waiting}
  {left right after : List Lexeme} {symbol : String} {binding : Binding} {span whole : Span}

/-- An operator that finds two trees joins what is settled on its two sides. -/
theorem join
    (h : Layout g read ⟨.operator symbol binding span :: pending, trees⟩
      (⟨left, .operator symbol binding span⟩ :: below) right)
    (htrees : trees.length = trees'.length + 1) :
    Layout g read ⟨pending, trees'⟩ below (left ++ ⟨symbol, span⟩ :: right) := by
  obtain ⟨hbelow, hleft, hbinding, hwaits, hsettled⟩ := h.ordered.of_operator
  have hdue : g.isOperator symbol = true := Grammar.isOperator_eq_true_iff.2 ⟨binding, hbinding⟩
  refine ⟨(List.cons_eq_cons.1 h.pending).2, ?_, hbelow,
    hleft.append ((Grammar.balanced_operator hbinding span).append h.balanced), ?_, ?_⟩
  · rw [h.read, covered]
    simp [Pending.lexeme]
  · intro other houtside
    rcases Grammar.outside_join hleft hbinding houtside with houtside | rfl | houtside
    · exact (hsettled other houtside).1
    · exact hwaits
    · exact hwaits.trans (h.waits other houtside)
  · intro count hcount
    refine ⟨fun hnil => by simp at hnil, fun hlacks => ?_⟩
    have hleft' : ¬ g.Lacks left := fun hmissing =>
      hlacks (hmissing.append_cons (Or.inr hdue) right)
    have hright' : ¬ g.Lacks right := fun hmissing =>
      hlacks (hmissing.cons_append (Or.inr hdue) left)
    -- Each side has left a tree of its own, so one is still there for the two.
    have htwo : count + 1 + 1 ≤ trees.length :=
      (h.supplied (count + 1) (.stretch hleft' hcount)).2 hright'
    show count + 1 ≤ trees'.length
    omega

/-- If it finds fewer, an operand is missing on one of the two sides. -/
theorem fails
    (h : Layout g read ⟨.operator symbol binding span :: pending, trees⟩
      (⟨left, .operator symbol binding span⟩ :: below) right)
    (htrees : trees.length < 2)
    (hafter : ∀ lexeme ∈ after.head?, lexeme.text = ")" ∨
      ∃ other, g.binding? lexeme.text = some other ∧ binding.reducesBefore other = true) :
    g.Fails (read ++ after) whole ⟨.missingOperand symbol, span⟩ := by
  obtain ⟨hbelow, hleft, hbinding, hwaits, hsettled⟩ := h.ordered.of_operator
  have hjoins : g.Joins (covered below) left binding right after :=
    ⟨hleft, h.balanced, fun other houtside => (hsettled other houtside).2, h.waits,
      hbelow.getLast?_covered hwaits, hafter⟩
  have hlacks : g.Lacks left ∨ g.Lacks right := by
    by_contra hneither
    obtain ⟨hleft', hright'⟩ := not_or.1 hneither
    have htwo : 2 ≤ trees.length := (h.supplied 1 (.stretch hleft' (.none below))).2 hright'
    omega
  have hread : read ++ after = covered below ++ left ++ ⟨symbol, span⟩ :: (right ++ after) := by
    rw [h.read, covered]
    simp [Pending.lexeme]
  exact .missing hread hbinding hjoins hlacks

end

end Layout

end ShuntingYard
