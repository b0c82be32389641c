/-
The carets of a diagnostic.

The span of a failure counts bytes, and the carets count characters.  Every span that a
failure has selects whole characters of the expression, so the one count tells the other:
in front of the carets there are as many spaces as there are characters in front of the
span, and there is a caret below each character in it.

Nothing that a header shows holds a line feed, since what is quoted there from the
expression is a parenthesis or a word.  So if the expression stands on one line, the
diagnostic has four.

* `IsLine` — a text without a line feed;
* `splitOn_join`, `splitOn_join_lines` — the lines of texts that are put together;
* `Failure.isLine_header` — what a header shows stands on one line;
* `length_le_iff_byteSize_le` — of two beginnings of a text the longer one takes more bytes;
* `Failure.lines_eq`, `toList_caretLine_eq_caret_iff` — the lines of a diagnostic whose span selects
  a part of the expression, and where the carets are;
* `Grammar.parse_diagnostic` — the diagnostic of a failure.
-/
import ShuntingYard.Diagnostic
import ShuntingYard.Proofs.Places

namespace ShuntingYard

/-! ### Lines -/

/-- The text holds no line feed. -/
def IsLine (text : String) : Prop := '\n' ∉ text.toList

instance (text : String) : Decidable (IsLine text) := inferInstanceAs (Decidable (_ ∉ _))

theorem isLine_append_iff {before after : String} :
    IsLine (before ++ after) ↔ IsLine before ∧ IsLine after := by
  rw [IsLine, String.toList_append, List.mem_append, not_or]
  rfl

/-- A number is written with digits. -/
theorem isLine_toString (n : Nat) : IsLine (toString n) := by
  rw [IsLine, Nat.toString_eq_ofList_toDigits, String.toList_ofList]
  intro hmem
  have hdigit := Nat.isDigit_of_mem_toDigits (by decide) (by decide) hmem
  exact absurd hdigit (by decide)

/-- A piece of an expression holds no blank. -/
theorem isLine_of_piece {text : String} (h : text = "(" ∨ text = ")" ∨ IsWord text) :
    IsLine text := by
  rcases h with rfl | rfl | ⟨-, hall⟩
  · decide
  · decide
  · intro hmem
    exact absurd (hall _ hmem) (by decide)

/-- Texts that are put together, each with a line feed behind it, have the lines of the one
after the other.  Behind the last of them nothing is left. -/
theorem splitOn_join (texts : List String) :
    (String.join (texts.map (· ++ "\n"))).toList.splitOn '\n' =
      texts.flatMap (fun text => text.toList.splitOn '\n') ++ [[]] := by
  induction texts with
  | nil => rfl
  | cons text texts ih =>
    have htoList : (String.join ((text :: texts).map (· ++ "\n"))).toList =
        text.toList ++ '\n' :: (String.join (texts.map (· ++ "\n"))).toList := by
      simp [String.toList_join]
    rw [htoList, List.splitOn_append_cons_self, ih, List.flatMap_cons, List.append_assoc]

/-- Lines that are put together are found again. -/
theorem splitOn_join_lines {lines : List String} (h : ∀ line ∈ lines, IsLine line) :
    (String.join (lines.map (· ++ "\n"))).toList.splitOn '\n' =
      lines.map String.toList ++ [[]] := by
  have hsplit : lines.flatMap (fun line => line.toList.splitOn '\n') =
      lines.flatMap fun line => [line.toList] :=
    List.flatMap_congr fun line hline => List.splitOn_eq_singleton (h line hline)
  rw [splitOn_join, hsplit, List.map_eq_flatMap]

/-! ### The header -/

namespace Cause

theorem isLine_name (cause : Cause) : IsLine cause.name := by
  cases cause <;> simp only [name] <;> decide

/-- What a tip quotes is the text that the cause names. -/
theorem isLine_of_tip?_eq_some {cause : Cause} (h : ∀ text ∈ cause.subject?, IsLine text)
    {tip : String} (htip : cause.tip? = some tip) : IsLine tip := by
  cases cause with
  | unrecognisedToken token =>
    obtain rfl := Option.some_inj.1 htip
    simp only [isLine_append_iff]
    exact ⟨⟨by decide, h token rfl⟩, by decide⟩
  | unbalancedParentheses symbol =>
    obtain rfl := Option.some_inj.1 htip
    simp only [isLine_append_iff]
    exact ⟨⟨by decide, h symbol rfl⟩, by decide⟩
  | malformedExpression operands =>
    cases operands with
    | zero =>
      obtain rfl := Option.some_inj.1 htip
      decide
    | succ others =>
      obtain rfl := Option.some_inj.1 htip
      exact isLine_append_iff.2 ⟨isLine_toString _, by decide⟩
  | missingOperand operator => cases htip

end Cause

theorem Failure.isLine_header {failure : Failure}
    (h : ∀ text ∈ failure.cause.subject?, IsLine text) : IsLine failure.header := by
  have hname := failure.cause.isLine_name
  unfold header
  split
  · exact isLine_append_iff.2 ⟨by decide, hname⟩
  · rename_i tip htip
    have htip := Cause.isLine_of_tip?_eq_some h htip
    simp only [isLine_append_iff]
    exact ⟨⟨⟨⟨by decide, hname⟩, by decide⟩, htip⟩, by decide⟩

/-! ### Characters and bytes -/

/-- Of two beginnings of a text, the one of more characters is the one of more bytes. -/
theorem length_le_iff_byteSize_le {before after before' after' : List Char}
    (h : before ++ after = before' ++ after') :
    before.length ≤ before'.length ↔ byteSize before ≤ byteSize before' := by
  constructor
  · intro hle
    obtain ⟨middle, rfl⟩ :=
      List.prefix_of_prefix_length_le (List.prefix_append before after)
        (h ▸ List.prefix_append before' after') hle
    rw [byteSize_append]
    exact Nat.le_add_right _ _
  · intro hle
    obtain ⟨middle, rfl, -⟩ := exists_eq_append_of_byteSize_le h hle
    rw [List.length_append]
    exact Nat.le_add_right _ _

/-- The line of a diagnostic that has some carets behind some spaces. -/
def caretLine (spaces carets : Nat) : String :=
  "  | " ++ String.ofList (List.replicate spaces ' ' ++ List.replicate carets '^')

theorem isLine_caretLine (spaces carets : Nat) : IsLine (caretLine spaces carets) := by
  refine isLine_append_iff.2 ⟨by decide, ?_⟩
  rw [IsLine, String.toList_ofList, List.mem_append, List.mem_replicate, List.mem_replicate]
  rintro (⟨-, h⟩ | ⟨-, h⟩)
  · exact absurd h (by decide)
  · exact absurd h (by decide)

/-- Behind a margin of four characters a line has the columns of its text. -/
theorem getElem?_behind_margin {margin text : String} {column : Nat}
    (h : margin.toList.length = 4) :
    (margin ++ text).toList[4 + column]? = text.toList[column]? := by
  rw [String.toList_append, List.getElem?_append_right (by omega), h, Nat.add_sub_cancel_left]

/-- The line has its carets behind the spaces and nowhere else. -/
theorem toList_caretLine_eq_caret_iff {spaces carets column : Nat} :
    (caretLine spaces carets).toList[4 + column]? = some '^' ↔
      spaces ≤ column ∧ column < spaces + carets := by
  rw [caretLine, getElem?_behind_margin rfl, String.toList_ofList]
  rcases Nat.lt_or_ge column spaces with hlt | hle
  · rw [List.getElem?_append_left (by simpa using hlt), List.getElem?_replicate, if_pos hlt]
    simp [Nat.not_le.2 hlt]
  · rw [List.getElem?_append_right (by simpa using hle), List.length_replicate,
      List.getElem?_replicate]
    split
    · simp only [true_iff]
      omega
    · simp only [reduceCtorEq, false_iff]
      omega

/-- Both what is in front of a span and what it selects are parts of the text. -/
theorem Span.slice?_eq_some_of_toList {span : Span} {text : String} {before part after : List Char}
    (htext : text.toList = before ++ part ++ after)
    (hspan : span = ⟨byteSize before, byteSize before + byteSize part⟩) :
    (⟨0, span.start⟩ : Span).slice? text = some (String.ofList before) ∧
      span.slice? text = some (String.ofList part) := by
  constructor
  · exact slice?_eq_some_iff.2 ⟨[], part ++ after, by simp [htext], by simp [hspan]⟩
  · exact slice?_eq_some_iff.2 ⟨before, after, by simp [htext], by simp [hspan]⟩

namespace Failure

section

variable {failure : Failure} {before part after : List Char}
  (hexpression : failure.expression.toList = before ++ part ++ after)
  (hspan : failure.span = ⟨byteSize before, byteSize before + byteSize part⟩)

include hexpression hspan

/-- The column of a span counts the characters in front of it. -/
theorem column_eq : failure.column = before.length := by
  obtain ⟨hfront, -⟩ := Span.slice?_eq_some_of_toList hexpression hspan
  rw [column, hfront]
  simp

/-- The width of a span counts the characters in it, and one if there are none. -/
theorem width_eq : failure.width = max 1 part.length := by
  obtain ⟨-, hpart⟩ := Span.slice?_eq_some_of_toList hexpression hspan
  rw [width, hpart]
  simp

/-- The lines of a diagnostic whose span selects the characters `part`. -/
theorem lines_eq : failure.lines = [failure.header, "  |", "1 | " ++ failure.expression,
    caretLine before.length (max 1 part.length)] := by
  rw [lines, carets, column_eq hexpression hspan, width_eq hexpression hspan, caretLine]

end

end Failure

/-- The characters that stand above the carets are those in the span. -/
theorem above_carets_iff {before part after front back : List Char} {c : Char}
    (h : before ++ part ++ after = front ++ c :: back) (hpart : part ≠ []) :
    before.length ≤ front.length ∧ front.length < before.length + max 1 part.length ↔
      byteSize before ≤ byteSize front ∧ byteSize front < byteSize before + byteSize part := by
  have hwidth : max 1 part.length = part.length :=
    Nat.max_eq_right (List.length_pos_iff.2 hpart)
  have hstart : before.length ≤ front.length ↔ byteSize before ≤ byteSize front :=
    length_le_iff_byteSize_le ((List.append_assoc _ _ _).symm.trans h)
  have hstop := length_le_iff_byteSize_le h
  rw [List.length_append, byteSize_append] at hstop
  rw [hwidth, hstart, ← Nat.not_le, hstop, Nat.not_le]

namespace Grammar

variable {g : Grammar} {expression : String} {failure : Failure} {fault : Fault}

/-- What the cause of a failure names is a piece of the expression. -/
theorem Locates.piece (h : g.Locates expression fault) {text : String}
    (htext : text ∈ fault.cause.subject?) : text = "(" ∨ text = ")" ∨ IsWord text := by
  have hpiece : ∀ text, ⟨text, fault.span⟩ ∈ lexemes expression →
      text = "(" ∨ text = ")" ∨ IsWord text :=
    fun text hmem => (isSegmentation_lexemes expression).pieces _ hmem
  obtain ⟨cause, span⟩ := fault
  cases cause with
  | unrecognisedToken token =>
    obtain rfl := Option.some_inj.1 htext
    obtain ⟨front, back, hlexemes, -, -⟩ := h
    refine hpiece _ ?_
    rw [hlexemes]
    exact List.mem_append_right _ List.mem_cons_self
  | missingOperand operator =>
    obtain rfl := Option.some_inj.1 htext
    exact hpiece _ h.1
  | unbalancedParentheses symbol =>
    obtain rfl := Option.some_inj.1 htext
    exact hpiece _ h
  | malformedExpression count => cases htext

/-- What is at fault in an expression that is not empty is not empty either. -/
theorem Locates.subject_ne_nil (h : g.Locates expression fault) (hne : expression.toList ≠ []) :
    (fault.cause.subject?.getD expression).toList ≠ [] := by
  cases hsubject : fault.cause.subject? with
  | none => exact hne
  | some text =>
    have hsize := byteSize_pos_of_piece (h.piece hsubject)
    intro hnil
    rw [Option.getD_some] at hnil
    rw [hnil] at hsize
    cases hsize

/-- The diagnostic of a failure on one line has four lines.  The carets in the last one are
below the characters of the expression that the span selects, and there is a single one if
it selects none. -/
theorem parse_diagnostic (hline : IsLine expression) (h : g.parse expression = .error failure) :
    ∃ before part after, expression.toList = before ++ part ++ after ∧
      failure.span = ⟨byteSize before, byteSize before + byteSize part⟩ ∧
      failure.diagnostic = (failure.header ++ "\n") ++ ("  |" ++ "\n") ++
        ("1 | " ++ expression ++ "\n") ++ (caretLine before.length (max 1 part.length) ++ "\n") ∧
      failure.diagnostic.toList.splitOn '\n' =
        [failure.header.toList, "  |".toList, ("1 | " ++ expression).toList,
          (caretLine before.length (max 1 part.length)).toList, []] ∧
      (⟨0, failure.span.start⟩ : Span).slice? failure.expression = some (String.ofList before) ∧
      failure.span.slice? failure.expression = some (String.ofList part) ∧
      ∀ front c back, expression.toList = front ++ c :: back →
        ("1 | " ++ expression).toList[4 + front.length]? = some c ∧
          ((caretLine before.length (max 1 part.length)).toList[4 + front.length]? = some '^' ↔
            failure.span.start ≤ byteSize front ∧ byteSize front < failure.span.stop) := by
  obtain ⟨rfl, -, hslice, hlocates⟩ := parse_error_place h
  obtain ⟨before, after, htext, hspan⟩ := Span.slice?_eq_some_iff.1 hslice
  set part := (failure.cause.subject?.getD failure.expression).toList with hpart
  have hlines := Failure.lines_eq htext hspan
  obtain ⟨hfront, hselected⟩ := Span.slice?_eq_some_of_toList htext hspan
  refine ⟨before, part, after, htext, hspan, ?_, ?_, hfront, hselected, ?_⟩
  · rw [Failure.diagnostic, hlines]
    simp only [List.map_cons, List.map_nil, String.join_cons, String.join_nil, String.append_empty,
      String.append_assoc]
  · have hall : ∀ line ∈ failure.lines, IsLine line := by
      rw [hlines]
      simp only [List.forall_mem_cons]
      refine ⟨Failure.isLine_header fun text hmem => isLine_of_piece (hlocates.piece hmem),
        by decide, isLine_append_iff.2 ⟨by decide, hline⟩, isLine_caretLine _ _, by simp⟩
    rw [Failure.diagnostic, splitOn_join_lines hall, hlines]
    rfl
  · intro front c back hposition
    have hne : part ≠ [] := hlocates.subject_ne_nil (by simp [hposition])
    constructor
    · rw [getElem?_behind_margin rfl, hposition, List.getElem?_append_right (Nat.le_refl _),
        Nat.sub_self]
      rfl
    · rw [toList_caretLine_eq_caret_iff, above_carets_iff (htext.symm.trans hposition) hne, hspan]

/-- Three carets below a word of six bytes, behind four characters of five. -/
theorem parse_diagnostic_of_wide_word :
    IsLine "½ * αβγ" ∧
      standard.parse "½ * αβγ" = .error ⟨⟨.unrecognisedToken "αβγ", ⟨5, 11⟩⟩, "½ * αβγ"⟩ ∧
      (⟨⟨.unrecognisedToken "αβγ", ⟨5, 11⟩⟩, "½ * αβγ"⟩ : Failure).diagnostic =
        "Error: UnrecognisedToken (" ++
            "`αβγ` is neither an operator nor an operand, is it separated by whitespace?)\n" ++
          "  |\n1 | ½ * αβγ\n  |     ^^^\n" := by
  have hline : IsLine "½ * αβγ" := by decide +kernel
  have h : standard.parse "½ * αβγ" =
      .error ⟨⟨.unrecognisedToken "αβγ", ⟨5, 11⟩⟩, "½ * αβγ"⟩ :=
    parse_eq_error_iff_run.2 ⟨rfl, by decide +kernel⟩
  obtain ⟨before, part, after, -, -, hdiagnostic, -, hfront, hpart, -⟩ := parse_diagnostic hline h
  have hbefore : (⟨0, 5⟩ : Span).slice? "½ * αβγ" = some "½ * " := by decide +kernel
  have hword : (⟨5, 11⟩ : Span).slice? "½ * αβγ" = some "αβγ" := by decide +kernel
  obtain rfl : before = "½ * ".toList := by
    simpa using congrArg String.toList (Option.some_inj.1 (hfront.symm.trans hbefore))
  obtain rfl : part = "αβγ".toList := by
    simpa using congrArg String.toList (Option.some_inj.1 (hpart.symm.trans hword))
  exact ⟨hline, h, hdiagnostic.trans (by decide +kernel)⟩

end Grammar

end ShuntingYard
