/-
Polish notation needs no parentheses.

Where every operator stands behind its operands, a listing is an expression in reverse Polish
notation, as long as its operators can be told from its operands.  Read as such it gives the
tree back.  Where every operator stands in front of its operands, the listing is read from the
end: backwards it is reverse Polish notation for the mirror image.  A text with a space between
any two values can be cut at the spaces, so it does as well as the listing.

* `Grammar.entry` — an operator or an operand, as the grammar has it;
* `Grammar.IsListable` — a tree whose listings can be read under the grammar;
* `Grammar.IsListable.evaluate_map_entry` — reading a listing gives the tree back;
* `splitOn_intercalate_space` — values are found again between the spaces;
* `Grammar.listings_identify` — the two listings and their texts identify the tree.
-/
import ShuntingYard.Proofs.Listings
import ShuntingYard.Proofs.RoundTrip

namespace ShuntingYard

/-! ### Texts with spaces -/

/-- Values without a space, put together with a space between any two, are found again between
the spaces. -/
theorem splitOn_intercalate_space {values : List String} (hne : values ≠ [])
    (h : ∀ value ∈ values, ' ' ∉ value.toList) :
    (String.intercalate " " values).toList.splitOn ' ' = values.map String.toList := by
  rw [String.toList_intercalate]
  refine List.splitOn_intercalate ' ' ?_ (by simpa using hne)
  intro cs hcs
  obtain ⟨value, hvalue, rfl⟩ := List.mem_map.1 hcs
  exact h value hvalue

/-- Different values give different texts. -/
theorem intercalate_space_injective {values values' : List String} (hne : values ≠ [])
    (hne' : values' ≠ []) (h : ∀ value ∈ values, ' ' ∉ value.toList)
    (h' : ∀ value ∈ values', ' ' ∉ value.toList)
    (heq : String.intercalate " " values = String.intercalate " " values') : values = values' := by
  have hsplit := splitOn_intercalate_space hne h
  rw [heq, splitOn_intercalate_space hne' h'] at hsplit
  exact (List.map_inj_right fun _ _ => String.toList_inj.1).1 hsplit.symm

namespace Grammar

open ReversePolish (Entry evaluate)

variable {g : Grammar} {tree tree' : Tree}

/-- A value of a listing is an operator if the grammar has it, and otherwise an operand. -/
def entry (g : Grammar) (value : String) : Entry :=
  if g.isOperator value = true then .operator value else .operand value

/-- The grammar tells the leaves of the tree from its other values, and no value is empty or
broken by a blank. -/
structure IsListable (g : Grammar) (tree : Tree) : Prop where
  leaves : ∀ value ∈ tree.leaves, g.isOperator value = false
  symbols : ∀ symbol ∈ tree.symbols, g.isOperator symbol = true
  unbroken : ∀ value ∈ tree.preOrder, value ≠ "" ∧ ∀ c ∈ value.toList, isBlank c = false

/-- The values of a tree that is found are words, and each is read as what it is. -/
theorem isListable_of_parse {expression : String} (h : g.parse expression = .ok tree) :
    g.IsListable tree := by
  have hlabelled := wellLabelled_of_parse h
  refine ⟨fun value hvalue => (hlabelled.leaves value hvalue).2.1, hlabelled.symbols, ?_⟩
  intro value hvalue
  have hword := hlabelled.isWord ((tree.mem_listing_iff .before).1 hvalue)
  exact ⟨hword.1, fun c hc => (isWordChar_eq_true_iff.1 (hword.2 c hc)).1⟩

/-- A listing holds the values of the tree, so a space is in none of them. -/
theorem IsListable.space_not_mem (h : g.IsListable tree) (order : Order) :
    ∀ value ∈ tree.listing order, ' ' ∉ value.toList := by
  intro value hvalue hspace
  have hmem : value ∈ tree.listing .before :=
    (tree.mem_listing_iff .before).2 ((tree.mem_listing_iff order).1 hvalue)
  exact absurd ((h.unbroken value hmem).2 ' ' hspace) (by decide)

/-! ### Reading -/

/-- With the operators behind their operands, the values of a tree are read as its entries. -/
theorem map_entry_postOrder (hleaves : ∀ value ∈ tree.leaves, g.isOperator value = false)
    (hsymbols : ∀ symbol ∈ tree.symbols, g.isOperator symbol = true) :
    tree.postOrder.map g.entry = tree.entries := by
  induction tree with
  | leaf value =>
    have hvalue := hleaves value (List.mem_singleton_self value)
    simp [Tree.postOrder, Tree.entries, entry, hvalue]
  | node symbol left right ihl ihr =>
    simp only [Tree.leaves, Tree.symbols, List.mem_append, List.mem_cons] at hleaves hsymbols
    have hsymbol := hsymbols symbol (by simp)
    rw [Tree.postOrder, Tree.entries, List.map_append, List.map_append,
      ihl (fun value hvalue => hleaves value (Or.inl hvalue))
        (fun other hother => hsymbols other (Or.inl hother)),
      ihr (fun value hvalue => hleaves value (Or.inr hvalue))
        (fun other hother => hsymbols other (Or.inr (Or.inr hother)))]
    simp [entry, hsymbol]

/-- Reading the listing with the operators behind their operands gives the tree back. -/
theorem IsListable.evaluate_map_entry (h : g.IsListable tree) :
    evaluate (tree.postOrder.map g.entry) [] = some [tree] := by
  have hread := ReversePolish.evaluate_entries tree [] []
  rwa [List.append_nil, ← map_entry_postOrder h.leaves h.symbols] at hread

theorem IsListable.eq_of_postOrder_eq (h : g.IsListable tree) (h' : g.IsListable tree')
    (heq : tree.postOrder = tree'.postOrder) : tree = tree' := by
  have hread := h.evaluate_map_entry
  rw [heq, h'.evaluate_map_entry] at hread
  cases hread
  rfl

/-- The mirror image has the same values. -/
theorem IsListable.mirror (h : g.IsListable tree) : g.IsListable tree.mirror where
  leaves value hvalue := h.leaves value (by simpa using hvalue)
  symbols symbol hsymbol := h.symbols symbol (by simpa using hsymbol)
  unbroken value hvalue := by
    refine h.unbroken value ((tree.mem_listing_iff .before).2 ?_)
    have hmem := (tree.mirror.mem_listing_iff .before).1 hvalue
    rwa [Tree.leaves_mirror, Tree.symbols_mirror, List.mem_reverse, List.mem_reverse] at hmem

/-- Backwards, a listing with the operators in front is one of the mirror image with the
operators behind. -/
theorem IsListable.eq_of_preOrder_eq (h : g.IsListable tree) (h' : g.IsListable tree')
    (heq : tree.preOrder = tree'.preOrder) : tree = tree' := by
  have hmirror : tree.mirror.postOrder = tree'.mirror.postOrder :=
    calc tree.mirror.postOrder
      _ = tree.preOrder.reverse := (tree.reverse_listing .before).symm
      _ = tree'.preOrder.reverse := by rw [heq]
      _ = tree'.mirror.postOrder := tree'.reverse_listing .before
  exact Tree.mirror_injective (h.mirror.eq_of_postOrder_eq h'.mirror hmirror)

/-- The text with a space between any two values tells the listing. -/
theorem IsListable.listing_eq_of_intercalate_eq (h : g.IsListable tree) (h' : g.IsListable tree')
    (order : Order) (heq : String.intercalate " " (tree.listing order) =
      String.intercalate " " (tree'.listing order)) :
    tree.listing order = tree'.listing order :=
  intercalate_space_injective (tree.listing_ne_nil order) (tree'.listing_ne_nil order)
    (h.space_not_mem order) (h'.space_not_mem order) heq

/-- If a grammar tells the operators of two trees from their operands, and no value is empty or
broken by a blank, the trees are the same as soon as they are listed alike with the operators
in front of their operands, or with the operators behind them.  It is enough that the values
give the same text with a space between any two.  Every tree that is found is such a tree. -/
theorem listings_identify (g : Grammar) :
    (∀ tree tree', g.IsListable tree → g.IsListable tree' →
      (tree.preOrder = tree'.preOrder ∨ tree.postOrder = tree'.postOrder ∨
        String.intercalate " " tree.preOrder = String.intercalate " " tree'.preOrder ∨
        String.intercalate " " tree.postOrder = String.intercalate " " tree'.postOrder) →
      tree = tree') ∧
    ∀ expression tree, g.parse expression = .ok tree → g.IsListable tree := by
  refine ⟨?_, fun expression tree => isListable_of_parse⟩
  rintro tree tree' h h' (heq | heq | heq | heq)
  · exact h.eq_of_preOrder_eq h' heq
  · exact h.eq_of_postOrder_eq h' heq
  · exact h.eq_of_preOrder_eq h' (h.listing_eq_of_intercalate_eq h' .before heq)
  · exact h.eq_of_postOrder_eq h' (h.listing_eq_of_intercalate_eq h' .after heq)

/-- Two groupings of the same values.  With the operators between their operands they are listed
alike, but not with the operators in front, and neither with the operators behind. -/
theorem listings_tell_groups_apart :
    ∃ tree tree' : Tree, standard.IsListable tree ∧ standard.IsListable tree' ∧
      tree.inOrder = ["f(x)", "-", "(", "*", "-1"] ∧ tree'.inOrder = tree.inOrder ∧
      String.intercalate " " tree.preOrder ≠ String.intercalate " " tree'.preOrder ∧
      String.intercalate " " tree.postOrder ≠ String.intercalate " " tree'.postOrder := by
  have hunbroken : ∀ values : List String,
      (values.all fun value => value != "" && value.toList.all fun c => !isBlank c) = true →
        ∀ value ∈ values, value ≠ "" ∧ ∀ c ∈ value.toList, isBlank c = false := by
    intro values hall value hvalue
    simpa using List.all_eq_true.1 hall value hvalue
  have h : standard.IsListable (.node "-" (.leaf "f(x)") (.node "*" (.leaf "(") (.leaf "-1"))) :=
    ⟨by decide +kernel, by decide +kernel, hunbroken _ (by decide +kernel)⟩
  have h' : standard.IsListable (.node "*" (.node "-" (.leaf "f(x)") (.leaf "(")) (.leaf "-1")) :=
    ⟨by decide +kernel, by decide +kernel, hunbroken _ (by decide +kernel)⟩
  refine ⟨_, _, h, h', rfl, rfl, fun heq => ?_, fun heq => ?_⟩
  · exact absurd ((listings_identify standard).1 _ _ h h' (Or.inr (Or.inr (Or.inl heq))))
      (by decide)
  · exact absurd ((listings_identify standard).1 _ _ h h' (Or.inr (Or.inr (Or.inr heq))))
      (by decide)

end Grammar

end ShuntingYard
