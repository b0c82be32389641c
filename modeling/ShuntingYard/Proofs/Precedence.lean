/-
Precedence and sides are resolved as the structure of an expression prescribes.

Sorting decides about each operator when the next one arrives, looking at nothing but
the two.  The tree of a phrase is told from whole rows: the operator that is applied
last cuts a row in two.  Both come to the same.  What waits when the root of a row
arrives is what its left side has left behind, and all of it goes before the root;
nothing behind the root makes the root go, so its right side is sorted above it as if
it stood alone.

Only the parentheses have to match for this; that operands and operators alternate is
not used until the order in which they are applied is made a tree.

* `ReversePolish.follow` — sorting after an operator and the operand on its right;
* `ReversePolish.exists_waiting_of_row` — what waits after a row, and what the output
  will be once it has gone;
* `Nesting.sort_tokens` — matching parentheses are enough for tokens to be sorted, in the
  order in which they are applied;
* `Phrase.sort_tokens` — the tokens of a phrase are sorted into the entries of its tree;
* `Grammar.parse_eq_ok_tree` — the tree of an expression is that of its phrase.
-/
import ShuntingYard.Nesting
import ShuntingYard.Phrase
import ShuntingYard.Proofs.Refinement

namespace ShuntingYard

namespace ReversePolish

/-- Sorting after an operator and the operand on its right. -/
def follow (state : Sorting) (link : Link (List Entry)) : Sorting :=
  let flushed := flushBefore link.binding state.held state.output
  ⟨.operator link.symbol link.binding :: flushed.held, flushed.output ++ link.operand⟩

/-! ### What waits above, and what waits below -/

/-- The waiting operators, as they are held. -/
def heldOf (waiting : List (String × Binding)) : List Held :=
  waiting.map fun op => .operator op.1 op.2

/-- The waiting operators, as they will be sent to the output. -/
def entriesOf (waiting : List (String × Binding)) : List Entry :=
  waiting.map fun op => .operator op.1

/-- Nothing goes when an operator bound by `incoming` arrives. -/
def Stays (held : List Held) (incoming : Binding) : Prop :=
  ∀ output, flushBefore incoming held output = ⟨held, output⟩

theorem stays_nil (incoming : Binding) : Stays [] incoming := fun _ => rfl

theorem stays_openParen (held : List Held) (incoming : Binding) :
    Stays (.openParen :: held) incoming := fun _ => rfl

theorem stays_operator {symbol : String} {binding incoming : Binding} (held : List Held)
    (h : binding.reducesBefore incoming = false) :
    Stays (.operator symbol binding :: held) incoming := by
  intro output
  rw [flushBefore, if_neg (by simp [h])]

theorem flushBefore_heldOf_append {waiting : List (String × Binding)} {incoming : Binding}
    (h : ∀ op ∈ waiting, op.2.reducesBefore incoming = true) (held : List Held)
    (output : List Entry) :
    flushBefore incoming (heldOf waiting ++ held) output =
      flushBefore incoming held (output ++ entriesOf waiting) := by
  induction waiting generalizing output with
  | nil => simp [heldOf, entriesOf]
  | cons op waiting ih =>
    obtain ⟨hop, hwaiting⟩ := List.forall_mem_cons.1 h
    show flushBefore incoming (.operator op.1 op.2 :: (heldOf waiting ++ held)) output = _
    rw [flushBefore, if_pos hop, ih hwaiting, List.append_assoc]
    rfl

theorem flushGroup_heldOf_append (waiting : List (String × Binding)) (held : List Held)
    (output : List Entry) :
    flushGroup (heldOf waiting ++ held) output =
      flushGroup held (output ++ entriesOf waiting) := by
  induction waiting generalizing output with
  | nil => simp [heldOf, entriesOf]
  | cons op waiting ih =>
    show flushGroup (.operator op.1 op.2 :: (heldOf waiting ++ held)) output = _
    rw [flushGroup, ih, List.append_assoc]
    rfl

/-! ### Rows -/

/-- After a row that nothing below it is drawn into, only operators of the row wait
above, and the output with these behind it is the joined row. -/
theorem exists_waiting_of_row {held : List Held} {links : List (Link (List Entry))}
    (hstays : ∀ link ∈ links, Stays held link.binding) (output first : List Entry) :
    ∃ waiting : List (String × Binding),
      (links.foldl follow ⟨held, output ++ first⟩).held = heldOf waiting ++ held ∧
        (links.foldl follow ⟨held, output ++ first⟩).output ++ entriesOf waiting =
            output ++ joinLinks applied first links ∧
          ∀ op ∈ waiting, ∃ link ∈ links, link.binding = op.2 := by
  -- The induction is on the length of the row: its root leaves two shorter ones.
  induction h : links.length using Nat.strongRecOn generalizing held links output first with
  | ind n ih =>
    subst h
    cases hcut : splitRoot? links with
    | none =>
      obtain rfl := splitRoot?_eq_none_iff.1 hcut
      exact ⟨[], by simp [heldOf], by simp [entriesOf], by simp⟩
    | some cut =>
      obtain ⟨before, link, after⟩ := cut
      obtain ⟨hbefore, hafter⟩ := length_lt_of_splitRoot?_eq_some hcut
      obtain ⟨hlinks, hgo, hwait⟩ := splitRoot?_spec hcut
      subst hlinks
      -- On the left everything that waits goes before the root.
      obtain ⟨waiting, hheld, houtput, hmem⟩ :=
        ih _ hbefore (fun other hother => hstays other (by simp [hother])) output first rfl
      have hroot : follow (before.foldl follow ⟨held, output ++ first⟩) link =
          ⟨.operator link.symbol link.binding :: held,
            output ++ joinLinks applied first before ++ link.operand⟩ := by
        -- What waits has come from the left side, and all of that goes before the root.
        have hall : ∀ op ∈ waiting, op.2.reducesBefore link.binding = true := by
          intro op hop
          obtain ⟨other, hother, hbinding⟩ := hmem op hop
          rw [← hbinding]
          exact hgo other hother
        rw [follow, hheld, flushBefore_heldOf_append hall, houtput, hstays link (by simp)]
      -- On the right the root waits at the bottom and is not drawn in.
      obtain ⟨above, hheld', houtput', hmem'⟩ :=
        ih _ hafter (fun other hother => stays_operator held (hwait other hother))
          (output ++ joinLinks applied first before) link.operand rfl
      rw [List.foldl_append, List.foldl_cons, hroot]
      refine ⟨above ++ [(link.symbol, link.binding)], ?_, ?_, ?_⟩
      · rw [hheld']
        simp [heldOf]
      -- The root is sent off last, behind both sides.
      · rw [joinLinks_of_splitRoot?_eq_some hcut, entriesOf, List.map_append,
          ← List.append_assoc]
        show _ ++ entriesOf above ++ _ = _
        rw [houtput']
        simp [applied]
      · intro op hop
        rcases List.mem_append.1 hop with hop | hop
        · obtain ⟨other, hother, hbinding⟩ := hmem' op hop
          exact ⟨other, by simp [hother], hbinding⟩
        · obtain rfl := List.mem_singleton.1 hop
          exact ⟨link, by simp, rfl⟩

/-- Where no operator waits below a row, the end of its group sends off all of it. -/
theorem flushGroup_row {held : List Held} (hstays : ∀ incoming, Stays held incoming)
    (output first : List Entry) (links : List (Link (List Entry))) :
    flushGroup (links.foldl follow ⟨held, output ++ first⟩).held
        (links.foldl follow ⟨held, output ++ first⟩).output =
      flushGroup held (output ++ joinLinks applied first links) := by
  obtain ⟨waiting, hheld, houtput, -⟩ :=
    exists_waiting_of_row (fun link _ => hstays link.binding) output first
  rw [hheld, flushGroup_heldOf_append, houtput]

end ReversePolish

open ReversePolish (Held Entry applied follow step sort)

/-! ### Nestings -/

namespace Nesting

/-- A nesting is sorted link by link, whatever waits in front of it. -/
theorem foldlM_step_tokens (nesting : Nesting) (held : List Held) (output : List Entry) :
    nesting.tokens.foldlM step ⟨held, output⟩ =
      some (nesting.row.2.foldl follow ⟨held, output ++ nesting.row.1⟩) := by
  induction nesting generalizing held output with
  | nil => simp [tokens, row]
  | operand text rest ih =>
    show rest.tokens.foldlM step ⟨held, output ++ [.operand text]⟩ = _
    rw [ih, List.append_assoc]
    rfl
  | operator symbol binding rest ih =>
    rw [tokens, List.foldlM_cons]
    refine (ih _ _).trans ?_
    simp [row, follow]
  | group inner rest ihInner ihRest =>
    -- The open parenthesis keeps what waits below it out of the inner row.
    have hflush := ReversePolish.flushGroup_row (ReversePolish.stays_openParen held) output
      inner.row.1 inner.row.2
    rw [tokens, List.foldlM_cons]
    show (inner.tokens ++ Token.closeParen :: rest.tokens).foldlM step
      ⟨.openParen :: held, output⟩ = _
    rw [List.foldlM_append, ihInner]
    simp only [Option.bind_eq_bind, Option.bind_some, List.foldlM_cons, step, hflush,
      ReversePolish.flushGroup, ihRest, row, List.append_assoc]

theorem sort_tokens (nesting : Nesting) : sort nesting.tokens = some nesting.entries := by
  refine ReversePolish.sort_eq_some_iff.2 ⟨_, nesting.foldlM_step_tokens [] [], ?_⟩
  rw [ReversePolish.flushGroup_row ReversePolish.stays_nil]
  rfl

end Nesting

/-! ### Phrases -/

mutual

/-- A phrase by its parentheses alone. -/
def Phrase.nesting : Phrase → Nesting
  | .single part => part.nesting .nil
  | .chain part symbol binding rest => part.nesting (.operator symbol binding rest.nesting)

/-- A part by its parentheses alone, in front of a nesting. -/
def Part.nesting : Part → Nesting → Nesting
  | .operand text, rest => .operand text rest
  | .group inner, rest => .group inner.nesting rest

end

mutual

theorem Phrase.tokens_nesting (phrase : Phrase) : phrase.nesting.tokens = phrase.tokens := by
  cases phrase with
  | single part =>
    rw [Phrase.nesting, part.tokens_nesting]
    exact List.append_nil _
  | chain part symbol binding rest =>
    rw [Phrase.nesting, part.tokens_nesting, Nesting.tokens, rest.tokens_nesting]
    rfl

theorem Part.tokens_nesting (part : Part) (rest : Nesting) :
    (part.nesting rest).tokens = part.tokens ++ rest.tokens := by
  cases part with
  | operand text => rfl
  | group inner =>
    rw [Part.nesting, Nesting.tokens, inner.tokens_nesting]
    simp [Part.tokens]

end

/-- A joined row of trees is spelled by the joined row of their entries. -/
theorem Tree.entries_joinLinks (first : Tree) (links : List (Link Tree)) :
    (joinLinks .node first links).entries =
      joinLinks applied first.entries (links.map (Link.map Tree.entries)) :=
  joinLinks_map Tree.entries (fun _ _ _ => rfl) first links

mutual

/-- In a phrase each operator has the entries of a single tree on its right. -/
theorem Phrase.row_nesting (phrase : Phrase) :
    phrase.nesting.row =
      (phrase.row.1.entries, phrase.row.2.map (Link.map Tree.entries)) := by
  cases phrase with
  | single part =>
    rw [Phrase.nesting, part.row_nesting]
    simp [Nesting.row, Phrase.row]
  | chain part symbol binding rest =>
    rw [Phrase.nesting, part.row_nesting, Nesting.row, rest.row_nesting]
    simp [Phrase.row, Link.map]

theorem Part.row_nesting (part : Part) (rest : Nesting) :
    (part.nesting rest).row = (part.tree.entries ++ rest.row.1, rest.row.2) := by
  cases part with
  | operand text => rfl
  | group inner =>
    rw [Part.nesting, Nesting.row, inner.row_nesting, Part.tree, Tree.entries_joinLinks]

end

/-- A phrase is applied in the order of its tree. -/
theorem Phrase.entries_nesting (phrase : Phrase) :
    phrase.nesting.entries = phrase.tree.entries := by
  rw [Nesting.entries, phrase.row_nesting, Phrase.tree, Tree.entries_joinLinks]

/-- The tokens of a phrase are sorted into the entries of its tree. -/
theorem Phrase.sort_tokens (phrase : Phrase) : sort phrase.tokens = some phrase.tree.entries := by
  rw [← phrase.tokens_nesting, phrase.nesting.sort_tokens, phrase.entries_nesting]

namespace Grammar

/-- The tree of an expression that is spelled by a phrase is that of the phrase. -/
theorem parse_eq_ok_tree {g : Grammar} {expression : String} {phrase : Phrase}
    (h : g.tokens? expression = some phrase.tokens) :
    g.parse expression = .ok phrase.tree := by
  have hsort := phrase.sort_tokens
  exact parse_eq_ok_iff_sort.2 ⟨phrase.tokens, h, hsort⟩

/-- Powers are grouped from the right, and differences from the left. -/
theorem parse_powers_and_differences :
    ∃ phrase : Phrase, standard.tokens? "2 ^ 3 ^ ( 4 - 5 - 6 ) * 7" = some phrase.tokens ∧
      standard.parse "2 ^ 3 ^ ( 4 - 5 - 6 ) * 7" = .ok phrase.tree ∧
      phrase.tree = .node "*" (.node "^" (.leaf "2") (.node "^" (.leaf "3")
        (.node "-" (.node "-" (.leaf "4") (.leaf "5")) (.leaf "6")))) (.leaf "7") := by
  let inner : Phrase := .chain (.operand "4") "-" ⟨0, .left⟩
    (.chain (.operand "5") "-" ⟨0, .left⟩ (.single (.operand "6")))
  let phrase : Phrase := .chain (.operand "2") "^" ⟨2, .right⟩
    (.chain (.operand "3") "^" ⟨2, .right⟩
      (.chain (.group inner) "*" ⟨1, .left⟩ (.single (.operand "7"))))
  have htokens : standard.tokens? "2 ^ 3 ^ ( 4 - 5 - 6 ) * 7" = some phrase.tokens := by
    decide +kernel
  exact ⟨phrase, htokens, parse_eq_ok_tree htokens, by decide +kernel⟩

end Grammar

end ShuntingYard
