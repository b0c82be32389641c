/-
Operator symbols.

Whether a symbol can be an operator is told by its characters.  Whether it can ever be met as
one is told by how expressions are cut into lexemes.  The two agree: the symbols that a
grammar takes are the texts of lexemes other than the parentheses, and each of them is a
lexeme already where it stands alone.  Since operators go before operands, it is then taken
for the operator, whatever the test for operands says.

* `lexemes_of_isWord` — a word alone is a single lexeme;
* `exists_lexeme_iff_isWord`, `exists_single_lexeme_iff_isWord` — words told by lexemes;
* `Grammar.classify_of_addOperator_eq_ok` — a symbol that has been added is met as the
  operator;
* `Grammar.addOperator_iff_lexeme` — the symbols that can be added.
-/
import ShuntingYard.Proofs.Segmentation
import ShuntingYard.Token

namespace ShuntingYard

/-! ### Words and lexemes -/

/-- A word alone is a single lexeme, from its beginning to its end. -/
theorem lexemes_of_isWord {word : String} (h : IsWord word) :
    lexemes word = [⟨word, ⟨0, word.utf8ByteSize⟩⟩] := by
  have hcut : Cut (0 + byteSize [] + byteSize word.toList) [] [] := .blanks (by simp)
  have hword := (Cut.piece (by simp) (Or.inr ⟨h, by simp⟩) hcut).eq_lexemes
  rw [List.append_nil, List.nil_append] at hword
  rw [lexemes, Cursor.ofString, ← hword]
  simp [byteSize_toList]

/-- The texts of lexemes are the words, and the parentheses. -/
theorem exists_lexeme_iff_isWord {text : String} :
    (∃ source, ∃ lexeme ∈ lexemes source, lexeme.text = text ∧ text ≠ "(" ∧ text ≠ ")") ↔
      IsWord text := by
  constructor
  · rintro ⟨source, lexeme, hlexeme, rfl, hopen, hclose⟩
    rcases (isSegmentation_lexemes source).pieces lexeme hlexeme with htext | htext | hword
    · exact absurd htext hopen
    · exact absurd htext hclose
    · exact hword
  · intro hword
    refine ⟨text, ⟨text, ⟨0, text.utf8ByteSize⟩⟩, ?_, rfl, hword.ne_openParen, hword.ne_closeParen⟩
    rw [lexemes_of_isWord hword]
    exact List.mem_singleton_self _

/-- The texts that are a single lexeme from beginning to end are the words, and the
parentheses. -/
theorem exists_single_lexeme_iff_isWord {text : String} :
    (∃ lexeme, lexemes text = [lexeme] ∧ lexeme.span = ⟨0, text.utf8ByteSize⟩ ∧
        text ≠ "(" ∧ text ≠ ")") ↔ IsWord text := by
  constructor
  · rintro ⟨lexeme, hsingle, hspan, hopen, hclose⟩
    have hmem : lexeme ∈ lexemes text := by
      rw [hsingle]
      exact List.mem_singleton_self _
    -- The lexeme is the part of the text that its span selects, which is all of it.
    have hslice := (isSegmentation_lexemes text).slice lexeme hmem
    rw [hspan, Span.slice?_whole, Option.some_inj] at hslice
    exact exists_lexeme_iff_isWord.1 ⟨text, lexeme, hmem, hslice.symm, hopen, hclose⟩
  · intro hword
    exact ⟨_, lexemes_of_isWord hword, rfl, hword.ne_openParen, hword.ne_closeParen⟩

namespace Grammar

/-! ### Adding an operator -/

/-- A symbol that has been added is met as the operator, whatever the test for operands. -/
theorem classify_of_addOperator_eq_ok {g g' : Grammar} {symbol : String} {binding : Binding}
    (h : g.addOperator symbol binding = .ok g') (isOperand : String → Bool) :
    (g'.withOperand isOperand).classify symbol = some (.operator symbol binding) := by
  rw [classify_eq_operator_iff, binding?_withOperand, binding?_of_addOperator_eq_ok h,
    if_pos rfl]
  exact ⟨rfl, rfl⟩

/-- A symbol can be added exactly if some text has it as a lexeme and it is no parenthesis,
and exactly if it is a single lexeme itself.  Once added, it is met as the operator, whatever
the test for operands. -/
theorem addOperator_iff_lexeme (g : Grammar) (symbol : String) (binding : Binding) :
    ((∃ g', g.addOperator symbol binding = .ok g') ↔
        ∃ source, ∃ lexeme ∈ lexemes source,
          lexeme.text = symbol ∧ symbol ≠ "(" ∧ symbol ≠ ")") ∧
      ((∃ g', g.addOperator symbol binding = .ok g') ↔
        ∃ lexeme, lexemes symbol = [lexeme] ∧ lexeme.span = ⟨0, symbol.utf8ByteSize⟩ ∧
          symbol ≠ "(" ∧ symbol ≠ ")") ∧
        ∀ g', g.addOperator symbol binding = .ok g' → ∀ source, ∀ lexeme ∈ lexemes source,
          lexeme.text = symbol → ∀ isOperand,
            (g'.withOperand isOperand).classify lexeme.text = some (.operator symbol binding) := by
  refine ⟨?_, ?_, ?_⟩
  · rw [exists_addOperator_eq_ok_iff, exists_lexeme_iff_isWord]
  · rw [exists_addOperator_eq_ok_iff, exists_single_lexeme_iff_isWord]
  · rintro g' h source lexeme - rfl isOperand
    exact classify_of_addOperator_eq_ok h isOperand

end Grammar

end ShuntingYard
