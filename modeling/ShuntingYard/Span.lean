/-
Spans: byte ranges of a text.

Positions count the bytes of the UTF-8 form, and the end is exclusive.  A span is
only a pair of numbers: it may be reversed, reach beyond the text or cut through
a character, and then it selects nothing.

* `Span` — the pair of positions;
* `byteSize` — the number of bytes of a list of characters;
* `splitBytes?` — a list of characters cut at a byte position;
* `Span.slice?` — the part of a text that a span selects;
* `splitBytes?_eq_some_iff` — a cut exists exactly where a character ends;
* `Span.IsWithin` — the span selects whole characters of a text;
* `Span.exists_slice?_eq_some_iff` — exactly these spans have a part.
-/

namespace ShuntingYard

/-- A byte range of a text: it starts at `start` and ends before `stop`. -/
structure Span where
  start : Nat
  stop : Nat
  deriving DecidableEq, Repr, Inhabited

/-! ### Sizes in bytes -/

/-- The number of bytes that the characters take in UTF-8. -/
def byteSize : List Char → Nat
  | [] => 0
  | c :: cs => c.utf8Size + byteSize cs

@[simp]
theorem byteSize_nil : byteSize [] = 0 := rfl

@[simp]
theorem byteSize_cons (c : Char) (cs : List Char) :
    byteSize (c :: cs) = c.utf8Size + byteSize cs := rfl

@[simp]
theorem byteSize_append (cs ds : List Char) :
    byteSize (cs ++ ds) = byteSize cs + byteSize ds := by
  induction cs with
  | nil => simp
  | cons c cs ih => simp [ih, Nat.add_assoc]

/-- Only the empty list takes no bytes. -/
theorem byteSize_eq_zero_iff {cs : List Char} : byteSize cs = 0 ↔ cs = [] := by
  cases cs with
  | nil => simp
  | cons c cs =>
    have := c.utf8Size_pos
    simp only [byteSize_cons, reduceCtorEq, iff_false]
    omega

/-- The size of a text is that of its characters. -/
theorem byteSize_toList (text : String) : byteSize text.toList = text.utf8ByteSize := by
  obtain ⟨cs, rfl⟩ : ∃ cs, text = String.ofList cs := ⟨text.toList, by simp⟩
  rw [String.toList_ofList]
  induction cs with
  | nil => simp
  | cons c cs ih =>
    rw [byteSize_cons, ih, String.ofList_cons, String.utf8ByteSize_append]
    simp

/-- Of two beginnings of a text, the one of more bytes goes on where the other ends. -/
theorem exists_eq_append_of_byteSize_le {before after before' after' : List Char}
    (h : before ++ after = before' ++ after') (hle : byteSize before ≤ byteSize before') :
    ∃ middle, before' = before ++ middle ∧ after = middle ++ after' := by
  rcases List.append_eq_append_iff.1 h with ⟨middle, hbefore, hafter⟩ | ⟨middle, hbefore, hafter⟩
  · exact ⟨middle, hbefore, hafter⟩
  · have hsize := congrArg byteSize hbefore
    rw [byteSize_append] at hsize
    obtain rfl : middle = [] := byteSize_eq_zero_iff.1 (by omega)
    exact ⟨[], by simpa using hbefore.symm, by simpa using hafter.symm⟩

/-! ### Cutting at a byte position -/

/-- The characters before and after the byte position, unless it lies inside a
character or beyond the end. -/
def splitBytes? : Nat → List Char → Option (List Char × List Char)
  | 0, cs => some ([], cs)
  | _ + 1, [] => none
  | n + 1, c :: cs =>
    if c.utf8Size ≤ n + 1 then
      (splitBytes? (n + 1 - c.utf8Size) cs).map fun parts => (c :: parts.1, parts.2)
    else
      none

/-- A text is cut into two parts exactly at the size of the first. -/
theorem splitBytes?_eq_some_iff {n : Nat} {cs before after : List Char} :
    splitBytes? n cs = some (before, after) ↔ cs = before ++ after ∧ byteSize before = n := by
  induction cs generalizing n before with
  | nil =>
    cases n with
    | zero =>
      simp only [splitBytes?, Option.some.injEq, Prod.mk.injEq, byteSize_eq_zero_iff]
      constructor
      · rintro ⟨rfl, rfl⟩
        exact ⟨rfl, rfl⟩
      · rintro ⟨h, rfl⟩
        exact ⟨rfl, h⟩
    | succ n =>
      simp only [splitBytes?, reduceCtorEq, false_iff, not_and]
      intro h
      obtain ⟨rfl, rfl⟩ := List.append_eq_nil_iff.1 h.symm
      simp
  | cons c cs ih =>
    have hpos := c.utf8Size_pos
    cases n with
    | zero =>
      simp only [splitBytes?, Option.some.injEq, Prod.mk.injEq, byteSize_eq_zero_iff]
      constructor
      · rintro ⟨rfl, rfl⟩
        exact ⟨rfl, rfl⟩
      · rintro ⟨h, rfl⟩
        exact ⟨rfl, h⟩
    | succ n =>
      rw [splitBytes?]
      split
      · rename_i hle
        simp only [Option.map_eq_some_iff, Prod.mk.injEq, Prod.exists]
        constructor
        · rintro ⟨b, a, h, rfl, rfl⟩
          obtain ⟨rfl, hb⟩ := ih.1 h
          exact ⟨rfl, by rw [byteSize_cons]; omega⟩
        · rintro ⟨h, hb⟩
          cases before with
          | nil => simp at hb
          | cons d before =>
            obtain ⟨rfl, rfl⟩ := List.cons_eq_cons.1 h
            rw [byteSize_cons] at hb
            exact ⟨before, after, ih.2 ⟨rfl, by omega⟩, rfl, rfl⟩
      · rename_i hlt
        simp only [reduceCtorEq, false_iff, not_and]
        intro h
        cases before with
        | nil => simp
        | cons d before =>
          obtain ⟨rfl, rfl⟩ := List.cons_eq_cons.1 h
          rw [byteSize_cons]
          omega

namespace Span

/-- The part of the text that the span selects, if it selects whole characters. -/
def slice? (span : Span) (text : String) : Option String :=
  if span.start ≤ span.stop then do
    let (_, rest) ← splitBytes? span.start text.toList
    let (part, _) ← splitBytes? (span.stop - span.start) rest
    return String.ofList part
  else
    none

/-- A span selects the middle of a text exactly when it starts at the size of
what comes before and is as long as the middle. -/
theorem slice?_eq_some_iff {span : Span} {text part : String} :
    span.slice? text = some part ↔
      ∃ before after, text.toList = before ++ part.toList ++ after ∧
        span = ⟨byteSize before, byteSize before + byteSize part.toList⟩ := by
  unfold slice?
  constructor
  · intro h
    split at h
    · rename_i hle
      simp only [Option.bind_eq_bind, Option.bind_eq_some_iff, Prod.exists, Option.pure_def,
        Option.some.injEq] at h
      obtain ⟨before, rest, hstart, middle, after, hstop, rfl⟩ := h
      obtain ⟨htext, hbefore⟩ := splitBytes?_eq_some_iff.1 hstart
      obtain ⟨rfl, hmiddle⟩ := splitBytes?_eq_some_iff.1 hstop
      refine ⟨before, after, by simp [htext], ?_⟩
      cases span
      simp only [String.toList_ofList, mk.injEq] at *
      omega
    · simp at h
  · rintro ⟨before, after, htext, rfl⟩
    rw [if_pos (Nat.le_add_right _ _)]
    have hstart : splitBytes? (byteSize before) text.toList =
        some (before, part.toList ++ after) :=
      splitBytes?_eq_some_iff.2 ⟨by rw [htext, List.append_assoc], rfl⟩
    have hstop : splitBytes? (byteSize part.toList) (part.toList ++ after) =
        some (part.toList, after) :=
      splitBytes?_eq_some_iff.2 ⟨rfl, rfl⟩
    simp [hstart, hstop]

/-- The span of a whole text selects all of it. -/
theorem slice?_whole (text : String) :
    (⟨0, text.utf8ByteSize⟩ : Span).slice? text = some text :=
  slice?_eq_some_iff.2 ⟨[], [], by simp, by simp [byteSize_toList]⟩

end Span

/-! ### Whole characters -/

/-- A character of the text starts at the position, or the text ends there. -/
def IsBoundary (text : String) (position : Nat) : Prop :=
  ∃ before after, text.toList = before ++ after ∧ byteSize before = position

namespace Span

/-- The span lies in the text and selects whole characters of it. -/
structure IsWithin (span : Span) (text : String) : Prop where
  start_le_stop : span.start ≤ span.stop
  stop_le : span.stop ≤ text.utf8ByteSize
  isBoundary_start : IsBoundary text span.start
  isBoundary_stop : IsBoundary text span.stop

/-- A span selects a part exactly if it selects whole characters. -/
theorem exists_slice?_eq_some_iff {span : Span} {text : String} :
    (∃ part, span.slice? text = some part) ↔ span.IsWithin text := by
  constructor
  · rintro ⟨part, h⟩
    obtain ⟨before, after, htext, rfl⟩ := slice?_eq_some_iff.1 h
    have hsize := congrArg byteSize htext
    rw [byteSize_toList, byteSize_append, byteSize_append] at hsize
    refine ⟨Nat.le_add_right _ _, ?_, ?_, ?_⟩
    · show byteSize before + byteSize part.toList ≤ text.utf8ByteSize
      omega
    · exact ⟨before, part.toList ++ after, by rw [htext, List.append_assoc], rfl⟩
    · exact ⟨before ++ part.toList, after, htext, byteSize_append _ _⟩
  · rintro ⟨hle, -, ⟨before, rest, hstart, hbefore⟩, ⟨front, after, hstop, hfront⟩⟩
    obtain ⟨middle, rfl, hrest⟩ :=
      exists_eq_append_of_byteSize_le (hstart.symm.trans hstop) (by omega)
    refine ⟨String.ofList middle, slice?_eq_some_iff.2 ⟨before, after, ?_, ?_⟩⟩
    · rw [String.toList_ofList]
      exact hstop
    · cases span
      rw [byteSize_append] at hfront
      simp only [String.toList_ofList, mk.injEq] at *
      omega

end Span

end ShuntingYard
