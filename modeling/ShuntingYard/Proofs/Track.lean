/-
The track of what waits.

Behind any number of lexemes, whether the expression turns out to have a tree or not, the
operators and parentheses that wait are in order.  An operator waits for the one that came
behind it, so within a group their ranks do not fall, and where they are equal the later
operator groups to the right.  The parentheses are those that are open, and everything
stands on the track in the order in which it was read.

* `unclosed` — the opening parentheses among some lexemes that are not closed;
* `unclosed_append`, `Balanced.unclosed_eq_nil` — those of lexemes in a row, and of balanced
  ones;
* `Grammar.Ordered.unclosed_covered` — the parentheses that wait are those that are open;
* `Grammar.Ordered.reducesBefore_eq_false` — an operator waits for all operators that stand
  above it in its group, and not just for the next;
* `IsTrack`, `Yard.isTrack_of_foldlM_read` — the order of the track, and that every yard has it.
-/
import ShuntingYard.Proofs.Failures
import ShuntingYard.Proofs.Segmentation

namespace ShuntingYard

/-! ### Open parentheses -/

instance (lexemes : List Lexeme) : Decidable (NeverBelow lexemes) :=
  decidable_of_iff (∀ before ∈ lexemes.inits, closes before ≤ opens before) <| by
    simp only [List.mem_inits, NeverBelow]

instance (lexemes : List Lexeme) : Decidable (ClosedBy lexemes) :=
  decidable_of_iff _ closedBy_iff.symm

/-- The opening parentheses that are not closed by what stands behind them. -/
def unclosed : List Lexeme → List Lexeme
  | [] => []
  | lexeme :: rest =>
    if lexeme.text = "(" ∧ ¬ ClosedBy rest then lexeme :: unclosed rest else unclosed rest

variable {before after inner : List Lexeme}

/-- What closes nothing in front of it does not close a parenthesis. -/
theorem closedBy_append_iff (h : NeverBelow after) :
    ClosedBy (before ++ after) ↔ ClosedBy before := by
  rw [closedBy_iff, closedBy_iff, not_iff_not]
  exact ⟨NeverBelow.of_append, fun hbefore => hbefore.append h⟩

theorem unclosed_append (h : NeverBelow after) :
    unclosed (before ++ after) = unclosed before ++ unclosed after := by
  induction before with
  | nil => rfl
  | cons lexeme before ih =>
    simp only [List.cons_append, unclosed, closedBy_append_iff h, ih]
    split
    · rfl
    · rfl

/-- A parenthesis with nothing behind it is open. -/
theorem unclosed_singleton {lexeme : Lexeme} (h : lexeme.text = "(") :
    unclosed [lexeme] = [lexeme] :=
  if_pos ⟨h, fun hclosed => closedBy_iff.1 hclosed neverBelow_nil⟩

/-- In balanced lexemes no parenthesis is open. -/
theorem Balanced.unclosed_eq_nil (h : Balanced inner) : unclosed inner = [] := by
  have hend : ∀ rest before, inner = before ++ rest → unclosed rest = [] := by
    intro rest
    induction rest with
    | nil => exact fun _ _ => rfl
    | cons lexeme rest ih =>
      rintro before rfl
      rw [unclosed, if_neg]
      · exact ih (before ++ [lexeme]) (by simp)
      · rintro ⟨hopen, hnot⟩
        exact hnot (h.closedBy hopen)
  exact hend inner [] rfl

/-! ### The entries of a layout -/

/-- The parenthesis that an entry stands for, if it is one. -/
def Pending.opening? : Pending → Option Lexeme
  | openParen span => some ⟨"(", span⟩
  | operator .. => none

/-- The entries are among the lexemes, in this order. -/
theorem sublist_covered (waiting : List Waiting) :
    ((waiting.map Waiting.entry).reverse.map Pending.lexeme).Sublist (covered waiting) := by
  induction waiting with
  | nil => exact List.Sublist.refl []
  | cons first below ih =>
    rw [List.map_cons, List.reverse_cons, List.map_append, covered]
    exact (ih.trans (List.sublist_append_left _ _)).append (List.Sublist.refl _)

/-- What is settled in front of an entry leaves no parenthesis open. -/
theorem unclosed_covered_cons {below : List Waiting} {settled : List Lexeme} {entry : Pending}
    (hsettled : Balanced settled) (hentry : NeverBelow [entry.lexeme]) :
    unclosed (covered (⟨settled, entry⟩ :: below)) =
      unclosed (covered below) ++ unclosed [entry.lexeme] := by
  rw [covered, unclosed_append hentry, unclosed_append hsettled.neverBelow,
    hsettled.unclosed_eq_nil, List.append_nil]

namespace Grammar.Ordered

variable {g : Grammar} {waiting : List Waiting}

/-- The parentheses that wait are those that are open. -/
theorem unclosed_covered (h : g.Ordered waiting) :
    unclosed (covered waiting) =
      (waiting.map Waiting.entry).reverse.filterMap Pending.opening? := by
  induction h with
  | nil => rfl
  | @openParen below settled span _ hbalanced _ ih =>
    have hopen : NeverBelow [(Pending.openParen span).lexeme] :=
      neverBelow_nil.concat (by simp [Pending.lexeme])
    rw [unclosed_covered_cons hbalanced hopen, unclosed_singleton rfl, ih, List.map_cons,
      List.reverse_cons, List.filterMap_append]
    rfl
  | @operator below settled symbol binding span _ hbalanced hbinding _ _ ih =>
    have hsingle : Balanced [(Pending.operator symbol binding span).lexeme] :=
      balanced_operator hbinding span
    rw [unclosed_covered_cons hbalanced hsingle.neverBelow, hsingle.unclosed_eq_nil, ih,
      List.map_cons, List.reverse_cons, List.filterMap_append]
    rfl

/-- Below an entry everything is in order as well. -/
theorem of_append {above : List Waiting} (h : g.Ordered (above ++ waiting)) :
    g.Ordered waiting := by
  induction above with
  | nil => exact h
  | cons first above ih =>
    cases h with
    | openParen hbelow => exact ih hbelow
    | operator hbelow => exact ih hbelow

/-- An operator waits for every operator above it, up to the next parenthesis. -/
theorem reducesBefore_eq_false {between below : List Pending} {settled : List Lexeme}
    {upper lower : String} {binding binding' : Binding} {span span' : Span}
    (h : g.Ordered (⟨settled, .operator upper binding span⟩ :: waiting))
    (hwaiting : waiting.map Waiting.entry = between ++ .operator lower binding' span' :: below)
    (hbetween : ∀ span, .openParen span ∉ between) : binding'.reducesBefore binding = false := by
  induction between generalizing waiting settled upper binding span with
  | nil =>
    obtain ⟨⟨settled', entry⟩, rest, rfl, rfl, -⟩ := List.map_eq_cons_iff.1 hwaiting
    obtain ⟨-, -, -, hwaits, -⟩ := h.of_operator
    exact hwaits
  | cons first between ih =>
    obtain ⟨⟨settled', entry⟩, rest, rfl, rfl, hrest⟩ := List.map_eq_cons_iff.1 hwaiting
    obtain ⟨hbelow, -, -, hwaits, -⟩ := h.of_operator
    cases entry with
    | openParen span => exact absurd List.mem_cons_self (hbetween span)
    | operator symbol middle place =>
      -- It waits for the one between, which waits for the one above.
      have hmiddle : binding'.reducesBefore middle = false :=
        ih hbelow hrest fun span hmem => hbetween span (List.mem_cons_of_mem _ hmem)
      exact Binding.reducesBefore_eq_false_trans hmiddle hwaits

end Grammar.Ordered

/-! ### The order of the track -/

/-- Both lexemes take some bytes, and the first ends before the later one starts. -/
def Lexeme.InFrontOf (lexeme later : Lexeme) : Prop :=
  lexeme.span.start < lexeme.span.stop ∧ lexeme.span.stop ≤ later.span.start ∧
    later.span.start < later.span.stop

/-- What waits behind the lexemes `read`, the latest entry in front, is in order. -/
structure IsTrack (g : Grammar) (read : List Lexeme) (pending : List Pending) : Prop where
  /-- The operators are those of the grammar, with their bindings. -/
  bound : ∀ symbol binding span, .operator symbol binding span ∈ pending →
    g.binding? symbol = some binding
  /-- Of two operators without a parenthesis between them, the upper one has no lower rank,
  and if it has the same rank it groups to the right. -/
  ranks : ∀ above upper binding span between lower binding' span' below,
    pending = above ++ .operator upper binding span ::
        (between ++ .operator lower binding' span' :: below) →
      (∀ span, .openParen span ∉ between) →
        binding'.rank ≤ binding.rank ∧
          (binding'.rank = binding.rank → binding.associativity = .right)
  /-- The parentheses are, from below, those that have been read and are not closed. -/
  parens : pending.reverse.filterMap Pending.opening? = unclosed read
  /-- From below, each entry ends before the next ones start. -/
  spans : (pending.reverse.map Pending.lexeme).Pairwise Lexeme.InFrontOf

namespace Layout

variable {g : Grammar} {read : List Lexeme} {yard : Yard} {waiting : List Waiting}
  {top : List Lexeme}

/-- An entry of the track is in order with all that waits below it. -/
theorem ordered_of_pending_eq (h : Layout g read yard waiting top) {above below : List Pending}
    {entry : Pending} (hpending : yard.pending = above ++ entry :: below) :
    ∃ settled rest, g.Ordered (⟨settled, entry⟩ :: rest) ∧ rest.map Waiting.entry = below := by
  rw [h.pending] at hpending
  obtain ⟨front, back, rfl, -, hback⟩ := List.map_eq_append_iff.1 hpending
  obtain ⟨⟨settled, entry⟩, rest, rfl, rfl, hrest⟩ := List.map_eq_cons_iff.1 hback
  exact ⟨settled, rest, h.ordered.of_append, hrest⟩

/-- The entries of a layout are in order, if its lexemes are. -/
theorem isTrack (h : Layout g read yard waiting top) (hread : read.Pairwise Lexeme.InFrontOf) :
    IsTrack g read yard.pending where
  bound := by
    intro symbol binding span hmem
    obtain ⟨above, below, hpending⟩ := List.append_of_mem hmem
    obtain ⟨settled, rest, hordered, -⟩ := h.ordered_of_pending_eq hpending
    exact hordered.of_operator.2.2.1
  ranks := by
    intro above upper binding span between lower binding' span' below hpending hbetween
    obtain ⟨settled, rest, hordered, hrest⟩ := h.ordered_of_pending_eq hpending
    exact Binding.reducesBefore_eq_false_iff.1 (hordered.reducesBefore_eq_false hrest hbetween)
  parens := by
    rw [h.pending, h.read, unclosed_append h.balanced.neverBelow, h.balanced.unclosed_eq_nil,
      List.append_nil, h.ordered.unclosed_covered]
  spans := by
    have hsublist : (yard.pending.reverse.map Pending.lexeme).Sublist read := by
      rw [h.pending, h.read]
      exact (sublist_covered waiting).trans (List.sublist_append_left _ _)
    exact hread.sublist hsublist

end Layout

/-- The lexemes of an expression follow one another. -/
theorem pairwise_inFrontOf_lexemes (expression : String) :
    (lexemes expression).Pairwise Lexeme.InFrontOf := by
  have hcuts := isSegmentation_lexemes expression
  refine hcuts.ordered.imp_of_mem ?_
  intro lexeme later hlexeme hlater hle
  exact ⟨(hcuts.within lexeme hlexeme).1, hle, (hcuts.within later hlater).1⟩

/-- Behind any beginning of an expression that has been read, what waits is in order. -/
theorem Yard.isTrack_of_foldlM_read {g : Grammar} {expression : String} {read : List Lexeme}
    {yard : Yard} (hread : read <+: lexemes expression)
    (h : (read.foldlM (Yard.read g) Yard.empty).outcome = .ok yard) :
    IsTrack g read yard.pending := by
  obtain ⟨waiting, top, hlayout, -⟩ := Layout.laidOut_of_foldlM_read h
  exact hlayout.isTrack ((pairwise_inFrontOf_lexemes expression).sublist hread.sublist)

/-- Between operators that miss operands, and with two parentheses open behind one that has
been closed. -/
theorem Yard.isTrack_behind_gaps :
    ∃ read yard, read <+: lexemes "+ 1 2 * ( ( 3 ) ^ ^ ( ζ" ∧
      (read.foldlM (Yard.read .standard) Yard.empty).outcome = .ok yard ∧
      yard.pending = [.openParen ⟨20, 21⟩, .operator "^" ⟨2, .right⟩ ⟨18, 19⟩,
        .operator "^" ⟨2, .right⟩ ⟨16, 17⟩, .openParen ⟨8, 9⟩,
        .operator "*" ⟨1, .left⟩ ⟨6, 7⟩, .operator "+" ⟨0, .left⟩ ⟨0, 1⟩] ∧
      IsTrack .standard read yard.pending ∧
      unclosed read = [⟨"(", ⟨8, 9⟩⟩, ⟨"(", ⟨20, 21⟩⟩] := by
  have hread : (lexemes "+ 1 2 * ( ( 3 ) ^ ^ ( ζ").take 11 <+:
      lexemes "+ 1 2 * ( ( 3 ) ^ ^ ( ζ" := List.take_prefix 11 _
  have hyard : (((lexemes "+ 1 2 * ( ( 3 ) ^ ^ ( ζ").take 11).foldlM (Yard.read .standard)
      Yard.empty).outcome =
        .ok ⟨[.openParen ⟨20, 21⟩, .operator "^" ⟨2, .right⟩ ⟨18, 19⟩,
            .operator "^" ⟨2, .right⟩ ⟨16, 17⟩, .openParen ⟨8, 9⟩,
            .operator "*" ⟨1, .left⟩ ⟨6, 7⟩, .operator "+" ⟨0, .left⟩ ⟨0, 1⟩],
          [.leaf "3", .leaf "2", .leaf "1"]⟩ := by
    decide +kernel
  have htrack := isTrack_of_foldlM_read hread hyard
  exact ⟨_, _, hread, hyard, rfl, htrack, htrack.parens.symm⟩

end ShuntingYard
