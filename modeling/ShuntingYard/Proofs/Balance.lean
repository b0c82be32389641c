/-
Parentheses told by their number.

Lexemes are balanced if they close as many parentheses as they open, and no beginning of
them closes more.  An opening parenthesis and a later closing one belong together if the
lexemes between them are balanced.

* `opens`, `closes` — the numbers of opening and of closing parentheses;
* `NeverBelow`, `Balanced` — no beginning closes more than it opens, and the whole closes
  as many as it opens;
* `ClosedBy` — a parenthesis in front of some lexemes is closed among them;
* `closedBy_iff` — it is, exactly if some beginning of them closes more than it opens;
* `Grammar.Outside` — the operators that stand in no parentheses.
-/
import Mathlib.Data.List.Infix
import ShuntingYard.Grammar
import ShuntingYard.Lexeme

namespace ShuntingYard

/-- A member of two lists in a row is a member of the first or of the second. -/
theorem exists_of_append_cons_eq_append {α : Type} {before after front back : List α} {a : α}
    (h : before ++ a :: after = front ++ back) :
    (∃ rest, front = before ++ a :: rest ∧ after = rest ++ back) ∨
      ∃ rest, before = front ++ rest ∧ back = rest ++ a :: after := by
  rcases List.append_eq_append_iff.1 h with ⟨rest, hfront, hback⟩ | ⟨rest, hbefore, hback⟩
  · cases rest with
    | nil => exact Or.inr ⟨[], by simpa using hfront.symm, hback.symm⟩
    | cons first rest =>
      obtain ⟨rfl, hafter⟩ := List.cons_eq_cons.1 hback
      exact Or.inl ⟨rest, hfront, hafter⟩
  · exact Or.inr ⟨rest, hbefore, hback⟩

/-! ### Numbers of parentheses -/

/-- The number of opening parentheses. -/
def opens (lexemes : List Lexeme) : Nat := lexemes.countP fun lexeme => lexeme.text = "("

/-- The number of closing parentheses. -/
def closes (lexemes : List Lexeme) : Nat := lexemes.countP fun lexeme => lexeme.text = ")"

@[simp]
theorem opens_append (before after : List Lexeme) :
    opens (before ++ after) = opens before + opens after := List.countP_append

@[simp]
theorem closes_append (before after : List Lexeme) :
    closes (before ++ after) = closes before + closes after := List.countP_append

variable {before after inner lexemes : List Lexeme} {lexeme opening closing : Lexeme}

@[simp]
theorem opens_nil : opens [] = 0 := rfl

@[simp]
theorem closes_nil : closes [] = 0 := rfl

theorem opens_cons_of_ne (h : lexeme.text ≠ "(") (lexemes : List Lexeme) :
    opens (lexeme :: lexemes) = opens lexemes := List.countP_cons_of_neg (by simpa using h)

theorem closes_cons_of_ne (h : lexeme.text ≠ ")") (lexemes : List Lexeme) :
    closes (lexeme :: lexemes) = closes lexemes := List.countP_cons_of_neg (by simpa using h)

theorem opens_cons_opening (h : opening.text = "(") (lexemes : List Lexeme) :
    opens (opening :: lexemes) = opens lexemes + 1 := List.countP_cons_of_pos (by simpa using h)

theorem closes_cons_opening (h : opening.text = "(") (lexemes : List Lexeme) :
    closes (opening :: lexemes) = closes lexemes :=
  closes_cons_of_ne (by rw [h]; decide) lexemes

theorem opens_cons_closing (h : closing.text = ")") (lexemes : List Lexeme) :
    opens (closing :: lexemes) = opens lexemes :=
  opens_cons_of_ne (by rw [h]; decide) lexemes

theorem closes_cons_closing (h : closing.text = ")") (lexemes : List Lexeme) :
    closes (closing :: lexemes) = closes lexemes + 1 :=
  List.countP_cons_of_pos (by simpa using h)

/-- No beginning of the lexemes closes more parentheses than it opens. -/
def NeverBelow (lexemes : List Lexeme) : Prop :=
  ∀ before, before <+: lexemes → closes before ≤ opens before

/-- As many parentheses are closed as are opened, and none before it is opened. -/
structure Balanced (lexemes : List Lexeme) : Prop where
  neverBelow : NeverBelow lexemes
  closes_eq_opens : closes lexemes = opens lexemes

/-! ### Building up -/

/-- The beginnings of the front part, and those that reach beyond it. -/
theorem NeverBelow.append (hbefore : NeverBelow before) (hafter : NeverBelow after) :
    NeverBelow (before ++ after) := by
  intro part hpart
  rcases List.prefix_or_prefix_of_prefix hpart (List.prefix_append before after) with h | h
  · exact hbefore part h
  · obtain ⟨rest, rfl⟩ := h
    have hle := hbefore before (List.prefix_refl before)
    have hrest := hafter rest ((List.prefix_append_right_inj before).1 hpart)
    rw [opens_append, closes_append]
    omega

theorem NeverBelow.of_append (h : NeverBelow (before ++ after)) : NeverBelow before := by
  intro part hpart
  exact h part (hpart.trans (List.prefix_append before after))

theorem NeverBelow.closes_le_opens (h : NeverBelow lexemes) : closes lexemes ≤ opens lexemes :=
  h lexemes (List.prefix_refl lexemes)

/-- A lexeme that is no closing parenthesis closes nothing. -/
theorem NeverBelow.concat (h : NeverBelow before) (hlexeme : lexeme.text ≠ ")") :
    NeverBelow (before ++ [lexeme]) := by
  intro part hpart
  rcases List.prefix_concat_iff.1 hpart with rfl | hpart
  · have hle := h.closes_le_opens
    rw [opens_append, closes_append, closes_cons_of_ne hlexeme, closes_nil]
    omega
  · exact h part hpart

theorem neverBelow_nil : NeverBelow [] := by
  intro part hpart
  rw [List.prefix_nil.1 hpart]
  exact Nat.le_refl 0

theorem balanced_nil : Balanced [] := ⟨neverBelow_nil, rfl⟩

theorem Balanced.append (hbefore : Balanced before) (hafter : Balanced after) :
    Balanced (before ++ after) := by
  refine ⟨hbefore.neverBelow.append hafter.neverBelow, ?_⟩
  rw [opens_append, closes_append, hbefore.closes_eq_opens, hafter.closes_eq_opens]

/-- A lexeme that is no parenthesis is balanced. -/
theorem balanced_singleton (hopen : lexeme.text ≠ "(") (hclose : lexeme.text ≠ ")") :
    Balanced [lexeme] := by
  refine ⟨neverBelow_nil.concat hclose, ?_⟩
  rw [opens_cons_of_ne hopen, closes_cons_of_ne hclose]
  rfl

/-- Balanced lexemes in parentheses are balanced. -/
theorem Balanced.parenthesized (h : Balanced inner) (hopen : opening.text = "(")
    (hclose : closing.text = ")") : Balanced (opening :: (inner ++ [closing])) := by
  have hfront : NeverBelow ([opening] ++ inner) := by
    have hsingle : NeverBelow [opening] := neverBelow_nil.concat (by rw [hopen]; decide)
    exact hsingle.append h.neverBelow
  have hequal := h.closes_eq_opens
  have hwhole : closes (opening :: (inner ++ [closing])) =
      opens (opening :: (inner ++ [closing])) := by
    simp only [opens_cons_opening hopen, closes_cons_opening hopen, opens_append, closes_append,
      opens_cons_closing hclose, closes_cons_closing hclose, opens_nil, closes_nil]
    omega
  refine ⟨?_, hwhole⟩
  intro part hpart
  rw [← List.cons_append, ← List.singleton_append] at hpart
  rcases List.prefix_concat_iff.1 hpart with rfl | hpart
  · exact Nat.le_of_eq hwhole
  · exact hfront part hpart

/-! ### Taking apart -/

/-- What is balanced stays so without a balanced part in front. -/
theorem Balanced.of_append (h : Balanced (before ++ after)) (hbefore : Balanced before) :
    Balanced after := by
  have hequal := h.closes_eq_opens
  have hequal' := hbefore.closes_eq_opens
  rw [opens_append, closes_append] at hequal
  constructor
  · intro part hpart
    have hle := h.neverBelow (before ++ part) ((List.prefix_append_right_inj before).2 hpart)
    rw [opens_append, closes_append] at hle
    omega
  · omega

/-- An opening parenthesis in front of these lexemes is closed among them. -/
def ClosedBy (lexemes : List Lexeme) : Prop :=
  ∃ inner closing rest, lexemes = inner ++ closing :: rest ∧ closing.text = ")" ∧ Balanced inner

/-- A parenthesis is closed by the first lexeme behind it at which more have been closed
than opened since. -/
theorem closedBy_iff : ClosedBy lexemes ↔ ¬ NeverBelow lexemes := by
  constructor
  · rintro ⟨inner, closing, rest, rfl, hclose, hinner⟩ hbelow
    have hle := hbelow (inner ++ [closing]) ⟨rest, by simp⟩
    have hequal := hinner.closes_eq_opens
    rw [opens_append, closes_append, opens_cons_closing hclose, closes_cons_closing hclose] at hle
    simp only [opens_nil, closes_nil] at hle
    omega
  · intro hbelow
    -- From behind: the first such lexeme is the last one, or stands in front of it.
    induction lexemes using List.reverseRecOn with
    | nil => exact absurd neverBelow_nil hbelow
    | append_singleton front last ih =>
      by_cases hfront : NeverBelow front
      · have hle := hfront.closes_le_opens
        have hclose : last.text = ")" := by
          by_contra hlast
          exact hbelow (hfront.concat hlast)
        refine ⟨front, last, [], rfl, hclose, hfront, ?_⟩
        by_contra hne
        apply hbelow
        intro part hpart
        rcases List.prefix_concat_iff.1 hpart with rfl | hpart
        · rw [opens_append, closes_append, opens_cons_closing hclose, closes_cons_closing hclose]
          simp only [opens_nil, closes_nil]
          omega
        · exact hfront part hpart
      · obtain ⟨inner, closing, rest, rfl, hclose, hinner⟩ := ih hfront
        exact ⟨inner, closing, rest ++ [last], by simp, hclose, hinner⟩

/-- In balanced lexemes every opening parenthesis is closed. -/
theorem Balanced.closedBy (h : Balanced (before ++ opening :: after))
    (hopen : opening.text = "(") : ClosedBy after := by
  rw [closedBy_iff]
  intro hafter
  have hle := h.neverBelow.of_append.closes_le_opens
  have hle' := hafter.closes_le_opens
  have hequal := h.closes_eq_opens
  rw [opens_append, closes_append, opens_cons_opening hopen, closes_cons_opening hopen] at hequal
  omega

/-! ### Operators outside of groups -/

namespace Grammar

variable {g : Grammar} {binding : Binding}

/-- An operator bound by `binding` stands in no parentheses among the lexemes. -/
def Outside (g : Grammar) (lexemes : List Lexeme) (binding : Binding) : Prop :=
  ∃ before lexeme after, lexemes = before ++ lexeme :: after ∧ Balanced before ∧
    g.binding? lexeme.text = some binding

theorem not_outside_nil : ¬ g.Outside [] binding := by
  rintro ⟨before, lexeme, after, h, -, -⟩
  simp at h

/-- What stands outside of groups does so in one of two balanced parts. -/
theorem outside_append (hbefore : Balanced before) (h : g.Outside (before ++ after) binding) :
    g.Outside before binding ∨ g.Outside after binding := by
  obtain ⟨front, lexeme, back, heq, hfront, hbinding⟩ := h
  rcases exists_of_append_cons_eq_append heq.symm with ⟨rest, rfl, -⟩ | ⟨rest, rfl, rfl⟩
  · exact Or.inl ⟨front, lexeme, rest, rfl, hfront, hbinding⟩
  · exact Or.inr ⟨rest, lexeme, back, rfl, hfront.of_append hbefore, hbinding⟩

theorem outside_singleton (h : g.Outside [lexeme] binding) :
    g.binding? lexeme.text = some binding := by
  obtain ⟨before, other, after, heq, -, hbinding⟩ := h
  cases before with
  | nil =>
    obtain ⟨rfl, -⟩ := List.cons_eq_cons.1 heq
    exact hbinding
  | cons first before => simp at heq

/-- An operator is no parenthesis. -/
theorem balanced_operator {symbol : String} (h : g.binding? symbol = some binding) (span : Span) :
    Balanced [⟨symbol, span⟩] := by
  have hword := isWord_of_binding?_eq_some h
  exact balanced_singleton hword.ne_openParen hword.ne_closeParen

/-- What stands outside of groups around an operator. -/
theorem outside_join {left right : List Lexeme} {symbol : String} {span : Span} {other : Binding}
    (hleft : Balanced left) (hbinding : g.binding? symbol = some binding)
    (h : g.Outside (left ++ ⟨symbol, span⟩ :: right) other) :
    g.Outside left other ∨ other = binding ∨ g.Outside right other := by
  rcases outside_append hleft h with h | h
  · exact Or.inl h
  rcases outside_append (balanced_operator hbinding span) h with h | h
  · have hother : g.binding? symbol = some other := outside_singleton h
    exact Or.inr (Or.inl (Option.some_inj.1 (hother.symm.trans hbinding)))
  · exact Or.inr (Or.inr h)

/-- Nothing in a group stands outside. -/
theorem not_outside_parenthesized (h : Balanced inner) (hopen : opening.text = "(") :
    ¬ g.Outside (opening :: (inner ++ [closing])) binding := by
  rintro ⟨before, other, after, heq, hbefore, hbinding⟩
  cases before with
  | nil =>
    obtain ⟨rfl, -⟩ := List.cons_eq_cons.1 heq
    exact absurd hopen (isWord_of_binding?_eq_some hbinding).ne_openParen
  | cons first before =>
    rw [List.cons_append, List.cons_eq_cons] at heq
    obtain ⟨rfl, heq⟩ := heq
    -- What is in front of it opens the parenthesis without closing it.
    have hprefix : before <+: inner := by
      rcases List.append_eq_append_iff.1 heq with ⟨rest, rfl, hrest⟩ | ⟨rest, rfl, -⟩
      · cases rest with
        | nil => simp
        | cons first rest => simp at hrest
      · exact List.prefix_append _ _
    have hle := h.neverBelow before hprefix
    have hequal := hbefore.closes_eq_opens
    rw [opens_cons_opening hopen, closes_cons_opening hopen] at hequal
    omega

end Grammar

end ShuntingYard
