/-
The lexemes of a text are the only way to cut it into pieces.

A list of lexemes cuts a text if it lists parts of the text in order, each a parenthesis
or a word, such that only blanks are left out and no word is broken in two.  Every text is
cut in one way.  To see this the lexemes are taken one by one: the first has to stand
behind the blanks in front and to reach as far as it can, and the others cut what is left.

* `IsSegmentation` — lexemes that cut a text, told by their places in it;
* `Cut` — the same, one lexeme after the other;
* `Cut.eq_lexemes`, `cut_lexemes` — a cursor gives these lexemes and no others;
* `Cut.segments`, `Segments.cut` — the two descriptions agree;
* `Cursor.next?_iterate_advance` — what a cursor gives at each call;
* `lexemes_unique` — the lexemes of a text are its only segmentation, and behind them a
  cursor stays in front of the last blanks.
-/
import Mathlib.Data.List.Chain
import Mathlib.Logic.Function.Iterate
import ShuntingYard.Proofs.Balance
import ShuntingYard.Proofs.Joints

namespace ShuntingYard

/-- The lexeme fills the byte position. -/
def Lexeme.Covers (lexeme : Lexeme) (position : Nat) : Prop :=
  lexeme.span.start ≤ position ∧ position < lexeme.span.stop

/-- The lexemes cut the text into pieces. -/
structure IsSegmentation (source : String) (lexemes : List Lexeme) : Prop where
  /-- No span is empty, and each selects whole characters. -/
  within : ∀ lexeme ∈ lexemes,
    lexeme.span.start < lexeme.span.stop ∧ lexeme.span.IsWithin source
  /-- The text of a lexeme is the part that its span selects. -/
  slice : ∀ lexeme ∈ lexemes, lexeme.span.slice? source = some lexeme.text
  /-- Each span ends before the later ones start. -/
  ordered : lexemes.Pairwise fun lexeme later => lexeme.span.stop ≤ later.span.start
  /-- The text of a lexeme is a parenthesis or a word. -/
  pieces : ∀ lexeme ∈ lexemes, lexeme.text = "(" ∨ lexeme.text = ")" ∨ IsWord lexeme.text
  /-- A character that no lexeme covers is a blank. -/
  blanks : ∀ before c after, source.toList = before ++ c :: after →
    (∀ lexeme ∈ lexemes, ¬ lexeme.Covers (byteSize before)) → isBlank c = true
  /-- There is a gap between one word and the next. -/
  apart : lexemes.IsChain fun lexeme next =>
    IsWord lexeme.text → IsWord next.text → lexeme.span.stop ≠ next.span.start

/-! ### One lexeme after the other -/

/-- The characters from `offset` on are cut into the lexemes: blanks are skipped, and a
piece is taken off, until only blanks are left. -/
inductive Cut : Nat → List Char → List Lexeme → Prop where
  | blanks {offset : Nat} {blanks : List Char} (hblanks : ∀ c ∈ blanks, isBlank c = true) :
      Cut offset blanks []
  | piece {offset : Nat} {blanks rest : List Char} {text : String} {others : List Lexeme}
      (hblanks : ∀ c ∈ blanks, isBlank c = true) (hpiece : IsPiece text rest)
      (hothers : Cut (offset + byteSize blanks + byteSize text.toList) rest others) :
      Cut offset (blanks ++ text.toList ++ rest)
        (⟨text, ⟨offset + byteSize blanks, offset + byteSize blanks + byteSize text.toList⟩⟩ ::
          others)

/-- A cursor in front of a piece gives it at once. -/
theorem Cursor.next?_of_isPiece {text : String} {rest : List Char} (h : IsPiece text rest)
    (offset : Nat) :
    (⟨offset, text.toList ++ rest⟩ : Cursor).next? =
      some (⟨text, ⟨offset, offset + byteSize text.toList⟩⟩,
        ⟨offset + byteSize text.toList, rest⟩) := by
  obtain ⟨c, cs, htext, hc⟩ := h.exists_cons
  have hblanks : (text.toList ++ rest).takeWhile isBlank = [] := by
    rw [htext, List.cons_append, List.takeWhile_cons_of_neg (by simp [hc])]
  rw [next?, splitWord?_append_of_isPiece h, hblanks]
  simp

/-- Characters are cut into the lexemes that a cursor gives, and into no others. -/
theorem Cut.eq_lexemes {offset : Nat} {cs : List Char} {lexemes : List Lexeme}
    (h : Cut offset cs lexemes) : lexemes = (⟨offset, cs⟩ : Cursor).lexemes := by
  induction h with
  | blanks hblanks =>
    rw [Cursor.lexemes_of_next?_eq_none (Cursor.next?_eq_none_iff.2 hblanks)]
  | piece hblanks hpiece _ ih =>
    rw [List.append_assoc, Cursor.lexemes_blanks_append hblanks,
      Cursor.lexemes_of_next?_eq_some (Cursor.next?_of_isPiece hpiece _), ← ih]

/-- The lexemes that a cursor gives cut the characters in front of it. -/
theorem cut_lexemes (cursor : Cursor) : Cut cursor.offset cursor.rest cursor.lexemes := by
  induction h : cursor.rest.length using Nat.strongRecOn generalizing cursor with
  | ind n ih =>
    subst h
    cases hsplit : splitWord? cursor.rest with
    | none =>
      have hblanks := splitWord?_eq_none_iff.1 hsplit
      rw [Cursor.lexemes_of_next?_eq_none (Cursor.next?_eq_none_iff.2 hblanks)]
      exact .blanks hblanks
    | some parts =>
      obtain ⟨word, rest⟩ := parts
      have hpiece := isPiece_of_splitWord?_eq_some hsplit
      have hblanks : ∀ c ∈ cursor.rest.takeWhile isBlank, isBlank c = true :=
        List.all_eq_true.1 List.all_takeWhile
      have hrest := (splitWord?_eq_some_iff.1 hsplit).1
      have hnext := Cursor.next?_of_isPiece hpiece
        (cursor.offset + byteSize (cursor.rest.takeWhile isBlank))
      have hothers := ih rest.length (length_lt_of_splitWord?_eq_some hsplit)
        ⟨cursor.offset + byteSize (cursor.rest.takeWhile isBlank) +
          byteSize (String.ofList word).toList, rest⟩ rfl
      have hcut := Cut.piece hblanks hpiece hothers
      rw [← Cursor.lexemes_of_next?_eq_some hnext, ← Cursor.lexemes_blanks_append hblanks,
        String.toList_ofList, ← List.append_assoc, ← hrest] at hcut
      exact hcut

/-! ### All lexemes at once -/

/-- A segmentation of the characters from `offset` on. -/
structure Segments (offset : Nat) (cs : List Char) (lexemes : List Lexeme) : Prop where
  placed : ∀ lexeme ∈ lexemes, ∃ before after, cs = before ++ lexeme.text.toList ++ after ∧
    lexeme.span = ⟨offset + byteSize before,
      offset + byteSize before + byteSize lexeme.text.toList⟩
  ordered : lexemes.Pairwise fun lexeme later => lexeme.span.stop ≤ later.span.start
  pieces : ∀ lexeme ∈ lexemes, lexeme.text = "(" ∨ lexeme.text = ")" ∨ IsWord lexeme.text
  blanks : ∀ before c after, cs = before ++ c :: after → isBlank c = false →
    ∃ lexeme ∈ lexemes, lexeme.Covers (offset + byteSize before)
  apart : lexemes.IsChain fun lexeme next =>
    IsWord lexeme.text → IsWord next.text → lexeme.span.stop ≠ next.span.start

/-- A piece takes some bytes. -/
theorem byteSize_pos_of_piece {text : String} (h : text = "(" ∨ text = ")" ∨ IsWord text) :
    0 < byteSize text.toList := by
  rw [byteSize_toList]
  rcases h with rfl | rfl | ⟨hne, -⟩
  · decide
  · decide
  · exact Nat.pos_of_ne_zero fun hzero => hne (String.utf8ByteSize_eq_zero_iff.1 hzero)

theorem isSegmentation_iff_segments {source : String} {lexemes : List Lexeme} :
    IsSegmentation source lexemes ↔ Segments 0 source.toList lexemes := by
  have hslice : ∀ lexeme : Lexeme, lexeme.span.slice? source = some lexeme.text ↔
      ∃ before after, source.toList = before ++ lexeme.text.toList ++ after ∧
        lexeme.span = ⟨0 + byteSize before,
          0 + byteSize before + byteSize lexeme.text.toList⟩ := by
    intro lexeme
    simp only [Nat.zero_add, Span.slice?_eq_some_iff]
  constructor
  · intro h
    refine ⟨fun lexeme hlexeme => (hslice lexeme).1 (h.slice lexeme hlexeme), h.ordered,
      h.pieces, ?_, h.apart⟩
    intro before c after hsource hc
    by_contra hnone
    rw [h.blanks before c after hsource] at hc
    · cases hc
    · intro lexeme hlexeme hcovers
      exact hnone ⟨lexeme, hlexeme, by rwa [Nat.zero_add]⟩
  · intro h
    have hslices : ∀ lexeme ∈ lexemes, lexeme.span.slice? source = some lexeme.text :=
      fun lexeme hlexeme => (hslice lexeme).2 (h.placed lexeme hlexeme)
    refine ⟨?_, hslices, h.ordered, h.pieces, ?_, h.apart⟩
    · intro lexeme hlexeme
      refine ⟨?_, Span.exists_slice?_eq_some_iff.1 ⟨_, hslices lexeme hlexeme⟩⟩
      obtain ⟨before, after, -, hspan⟩ := h.placed lexeme hlexeme
      have hpos := byteSize_pos_of_piece (h.pieces lexeme hlexeme)
      rw [hspan]
      show 0 + byteSize before < 0 + byteSize before + byteSize lexeme.text.toList
      omega
    · intro before c after hsource hnone
      by_contra hc
      obtain ⟨lexeme, hlexeme, hcovers⟩ := h.blanks before c after hsource (by simpa using hc)
      rw [Nat.zero_add] at hcovers
      exact hnone lexeme hlexeme hcovers

/-- A segmentation stands behind the position from which it starts. -/
theorem Segments.le_start {offset : Nat} {cs : List Char} {lexemes : List Lexeme}
    (h : Segments offset cs lexemes) {lexeme : Lexeme} (hlexeme : lexeme ∈ lexemes) :
    offset ≤ lexeme.span.start ∧ lexeme.span.start < lexeme.span.stop := by
  obtain ⟨before, after, -, hspan⟩ := h.placed lexeme hlexeme
  have hpos := byteSize_pos_of_piece (h.pieces lexeme hlexeme)
  rw [hspan]
  show offset ≤ offset + byteSize before ∧
    offset + byteSize before < offset + byteSize before + byteSize lexeme.text.toList
  omega

/-- Pieces taken off one after the other are a segmentation. -/
theorem Cut.segments {offset : Nat} {cs : List Char} {lexemes : List Lexeme}
    (h : Cut offset cs lexemes) : Segments offset cs lexemes := by
  induction h with
  | blanks hblanks =>
    refine ⟨by simp, .nil, by simp, ?_, .nil⟩
    rintro before c after rfl hc
    rw [hblanks c (by simp)] at hc
    cases hc
  | @piece offset blanks rest text others hblanks hpiece hothers ih =>
    set start := offset + byteSize blanks with hstart
    set stop := start + byteSize text.toList with hstop
    refine ⟨?_, ?_, ?_, ?_, ?_⟩
    · rintro lexeme (_ | ⟨_, hlexeme⟩)
      · exact ⟨blanks, rest, rfl, rfl⟩
      · obtain ⟨before, after, rfl, hspan⟩ := ih.placed lexeme hlexeme
        refine ⟨blanks ++ text.toList ++ before, after, by simp, ?_⟩
        rw [hspan, byteSize_append, byteSize_append]
        simp only [Span.mk.injEq]
        omega
    · exact .cons (fun later hlater => (ih.le_start hlater).1) ih.ordered
    · rintro lexeme (_ | ⟨_, hlexeme⟩)
      · exact hpiece.paren_or_isWord
      · exact ih.pieces lexeme hlexeme
    · intro before c after hcs hc
      rcases exists_of_append_cons_eq_append hcs.symm with ⟨tail, hfront, -⟩ | ⟨front, rfl, hrest⟩
      · rcases exists_of_append_cons_eq_append hfront.symm with ⟨tail, rfl, -⟩ | ⟨front, rfl, htext⟩
        · rw [hblanks c (by simp)] at hc
          cases hc
        · have hsize := congrArg byteSize htext
          have hpos := c.utf8Size_pos
          rw [byteSize_append, byteSize_cons] at hsize
          refine ⟨⟨text, ⟨start, stop⟩⟩, List.mem_cons_self, ?_⟩
          rw [byteSize_append]
          show start ≤ _ ∧ _ < stop
          omega
      · obtain ⟨lexeme, hlexeme, hcovers⟩ := ih.blanks front c after hrest hc
        refine ⟨lexeme, List.mem_cons_of_mem _ hlexeme, ?_⟩
        rw [byteSize_append, byteSize_append]
        rwa [hstop, hstart, Nat.add_assoc, Nat.add_assoc,
          ← Nat.add_assoc (byteSize blanks)] at hcovers
    · refine List.isChain_cons.2 ⟨fun next hnext hword hnextWord htouch => ?_, ih.apart⟩
      -- A word behind this one would start with a word character, and continue it.
      obtain ⟨before, after, hrest, hspan⟩ := ih.placed next (List.mem_of_mem_head? hnext)
      rw [hspan] at htouch
      obtain rfl : before = [] := byteSize_eq_zero_iff.1 (Nat.left_eq_add.1 htouch)
      obtain ⟨c, cs, hcs, hc⟩ := hnextWord.exists_cons
      have hhead : rest.head? = some c := by rw [hrest, hcs]; rfl
      rw [hpiece.head_of_isWord hword hhead] at hc
      cases hc

/-- The first lexeme of a segmentation stands behind blanks, and the others are a
segmentation of what stands behind it. -/
theorem Segments.of_cons {offset : Nat} {cs : List Char} {lexeme : Lexeme}
    {others : List Lexeme} (h : Segments offset cs (lexeme :: others)) :
    ∃ blanks rest, (∀ c ∈ blanks, isBlank c = true) ∧ cs = blanks ++ lexeme.text.toList ++ rest ∧
      lexeme.span = ⟨offset + byteSize blanks,
        offset + byteSize blanks + byteSize lexeme.text.toList⟩ ∧
      Segments (offset + byteSize blanks + byteSize lexeme.text.toList) rest others := by
  obtain ⟨blanks, rest, rfl, hspan⟩ := h.placed lexeme List.mem_cons_self
  obtain ⟨hlater, hordered⟩ := List.pairwise_cons.1 h.ordered
  have hstart : lexeme.span.start = offset + byteSize blanks := by rw [hspan]
  have hstop : lexeme.span.stop = offset + byteSize blanks + byteSize lexeme.text.toList := by
    rw [hspan]
  refine ⟨blanks, rest, ?_, rfl, hspan, ?_, hordered, ?_, ?_, h.apart.tail⟩
  · intro c hc
    obtain ⟨before, after, rfl⟩ := List.append_of_mem hc
    by_contra hblank
    -- No lexeme is early enough to cover a character in front of the first one.
    obtain ⟨covering, hcovering, hle, -⟩ := h.blanks before c
      (after ++ lexeme.text.toList ++ rest) (by simp) (by simpa using hblank)
    have hpos := c.utf8Size_pos
    rw [byteSize_append, byteSize_cons] at hstart hstop
    rcases List.mem_cons.1 hcovering with rfl | hcovering
    · omega
    · have hle' := hlater covering hcovering
      omega
  · intro other hother
    obtain ⟨before, after, hcs, hplace⟩ := h.placed other (List.mem_cons_of_mem _ hother)
    have hle := hlater other hother
    rw [hstop, hplace] at hle
    have hsize : byteSize (blanks ++ lexeme.text.toList) ≤ byteSize before := by
      rw [byteSize_append]
      exact Nat.le_of_add_le_add_left (Nat.add_assoc offset _ _ ▸ hle)
    rw [List.append_assoc before] at hcs
    obtain ⟨middle, rfl, hrest⟩ := exists_eq_append_of_byteSize_le hcs hsize
    refine ⟨middle, after, by rw [hrest, List.append_assoc], ?_⟩
    rw [hplace, byteSize_append, byteSize_append]
    simp only [Span.mk.injEq]
    omega
  · exact fun other hother => h.pieces other (List.mem_cons_of_mem _ hother)
  · rintro before c after rfl hc
    obtain ⟨covering, hcovering, hle, hlt⟩ :=
      h.blanks (blanks ++ lexeme.text.toList ++ before) c after (by simp) hc
    rw [byteSize_append, byteSize_append] at hle hlt
    rcases List.mem_cons.1 hcovering with rfl | hcovering
    · omega
    · exact ⟨covering, hcovering, by omega, by omega⟩

/-- Where the next lexeme does not touch the position, no word goes on there. -/
theorem Cut.head_of_apart {offset : Nat} {cs : List Char} {lexemes : List Lexeme}
    (h : Cut offset cs lexemes)
    (hapart : ∀ lexeme ∈ lexemes.head?, IsWord lexeme.text → offset ≠ lexeme.span.start)
    {c : Char} (hc : cs.head? = some c) : isWordChar c = false := by
  by_contra hword
  have hchar : isWordChar c = true := by simpa using hword
  obtain ⟨hblank, hparen⟩ := isWordChar_eq_true_iff.1 hchar
  cases h with
  | blanks hblanks =>
    rw [hblanks c (List.mem_of_mem_head? hc)] at hblank
    cases hblank
  | @piece _ blanks rest text others hblanks hpiece hothers =>
    cases blanks with
    | cons b blanks =>
      obtain rfl : b = c := Option.some_inj.1 hc
      rw [hblanks b List.mem_cons_self] at hblank
      cases hblank
    | nil =>
      -- The next lexeme starts with the word character, so it is a word, and it touches.
      obtain ⟨d, tail, htext, -⟩ := hpiece.exists_cons
      rw [List.nil_append, htext] at hc
      obtain rfl : d = c := Option.some_inj.1 hc
      have hnext : IsWord text := by
        rcases hpiece with hparens | ⟨hnext, -⟩
        · obtain ⟨e, he, heparen⟩ := exists_isParen_iff.2 hparens
          obtain ⟨rfl, -⟩ := List.cons_eq_cons.1 (htext.symm.trans he)
          rw [hparen] at heparen
          cases heparen
        · exact hnext
      exact hapart _ rfl hnext (Nat.add_zero offset).symm

/-- A segmentation takes one piece off after the other. -/
theorem Segments.cut {offset : Nat} {cs : List Char} {lexemes : List Lexeme}
    (h : Segments offset cs lexemes) : Cut offset cs lexemes := by
  induction lexemes generalizing offset cs with
  | nil =>
    refine .blanks fun c hc => ?_
    obtain ⟨before, after, rfl⟩ := List.append_of_mem hc
    by_contra hblank
    obtain ⟨lexeme, hlexeme, -⟩ := h.blanks before c after rfl (by simpa using hblank)
    cases hlexeme
  | cons lexeme others ih =>
    obtain ⟨blanks, rest, hblanks, rfl, hspan, hothers⟩ := h.of_cons
    have hcut := ih hothers
    have hpiece : IsPiece lexeme.text rest := by
      rcases or_assoc.2 (h.pieces _ List.mem_cons_self) with hparen | hword
      · exact Or.inl hparen
      · refine Or.inr ⟨hword, fun c hc => hcut.head_of_apart ?_ hc⟩
        intro next hnext hnextWord
        have hne := (List.isChain_cons.1 h.apart).1 next hnext hword hnextWord
        rwa [hspan] at hne
    have hlexeme := Cut.piece hblanks hpiece hcut
    rw [← hspan] at hlexeme
    exact hlexeme

/-! ### Calls -/

namespace Cursor

/-- At each call a cursor gives the lexeme whose turn it is, and behind the last lexeme it
gives nothing. -/
theorem next?_iterate_advance (cursor : Cursor) (n : Nat) :
    (advance^[n] cursor).next?.map Prod.fst = cursor.lexemes[n]? := by
  induction n generalizing cursor with
  | zero =>
    rw [Function.iterate_zero_apply]
    cases h : cursor.next? with
    | none => rw [lexemes_of_next?_eq_none h]; rfl
    | some step => rw [lexemes_of_next?_eq_some h]; rfl
  | succ n ih =>
    rw [Function.iterate_succ_apply, ih]
    cases h : cursor.next? with
    | none => rw [advance_of_next?_eq_none h, lexemes_of_next?_eq_none h]; rfl
    | some step => rw [advance_of_next?_eq_some h, lexemes_of_next?_eq_some h]; rfl

/-- A cursor that gives nothing stays where it is. -/
theorem iterate_advance_of_next?_eq_none {cursor : Cursor} (h : cursor.next? = none) (n : Nat) :
    advance^[n] cursor = cursor :=
  Function.iterate_fixed (advance_of_next?_eq_none h) n

/-- The cursor stands in the text: in front of it is as much as its offset says, and behind
it is what it has not passed yet. -/
def IsIn (cursor : Cursor) (source : String) : Prop :=
  ∃ passed, source.toList = passed ++ cursor.rest ∧ byteSize passed = cursor.offset

theorem isIn_ofString (source : String) : (ofString source).IsIn source := ⟨[], rfl, rfl⟩

/-- A call leaves the cursor in the text. -/
theorem IsIn.advance {cursor : Cursor} {source : String} (h : cursor.IsIn source) :
    cursor.advance.IsIn source := by
  obtain ⟨passed, hsource, hpassed⟩ := h
  cases hsplit : splitWord? cursor.rest with
  | none =>
    have hnone : cursor.next? = none := by rw [next?, hsplit]; rfl
    rw [advance_of_next?_eq_none hnone]
    exact ⟨passed, hsource, hpassed⟩
  | some parts =>
    obtain ⟨word, rest⟩ := parts
    refine ⟨passed ++ cursor.rest.takeWhile isBlank ++ word, ?_, ?_⟩
    · have hrest : cursor.advance.rest = rest := by rw [Cursor.advance, next?, hsplit]; rfl
      rw [hrest, hsource, List.append_assoc, List.append_assoc, ← List.append_assoc _ word,
        ← (splitWord?_eq_some_iff.1 hsplit).1]
    · rw [Cursor.advance, next?, hsplit, byteSize_append, byteSize_append, hpassed]
      rfl

theorem IsIn.iterate_advance {cursor : Cursor} {source : String} (h : cursor.IsIn source)
    (n : Nat) : (Cursor.advance^[n] cursor).IsIn source := by
  induction n generalizing cursor with
  | zero => exact h
  | succ n ih => exact ih h.advance

/-- The cursor behind the first lexemes of a text, `count` in number. -/
def behind (source : String) (count : Nat) : Cursor := advance^[count] (ofString source)

end Cursor

/-! ### The lexemes of a text -/

/-- The lexemes of a text cut it into pieces. -/
theorem isSegmentation_lexemes (source : String) : IsSegmentation source (lexemes source) :=
  isSegmentation_iff_segments.2 (cut_lexemes (Cursor.ofString source)).segments

/-- The lexemes of a text are the only ones that cut it into pieces.  A cursor gives them
call by call, and then it gives nothing any more and stays in front of the last blanks. -/
theorem lexemes_unique (source : String) :
    (∀ segmentation, IsSegmentation source segmentation ↔ segmentation = lexemes source) ∧
      (∀ count, (Cursor.behind source count).IsIn source ∧
        (Cursor.behind source count).next?.map Prod.fst = (lexemes source)[count]?) ∧
      ∀ count, (Cursor.behind source count).next? = none →
        (∀ c ∈ (Cursor.behind source count).remainder.toList, isBlank c = true) ∧
          ∀ later, count ≤ later → (Cursor.behind source later).next? = none ∧
            (Cursor.behind source later).remainder = (Cursor.behind source count).remainder := by
  refine ⟨fun segmentation => ⟨fun h => ?_, ?_⟩, fun count => ⟨?_, ?_⟩, fun count hnone => ⟨?_, ?_⟩⟩
  · exact (isSegmentation_iff_segments.1 h).cut.eq_lexemes
  · rintro rfl
    exact isSegmentation_lexemes source
  · exact (Cursor.isIn_ofString source).iterate_advance count
  · exact Cursor.next?_iterate_advance _ count
  · rw [Cursor.remainder, String.toList_ofList]
    exact Cursor.next?_eq_none_iff.1 hnone
  · intro later hle
    obtain ⟨more, rfl⟩ := Nat.exists_eq_add_of_le' hle
    have hstays : Cursor.behind source (more + count) = Cursor.behind source count := by
      rw [Cursor.behind, Function.iterate_add_apply]
      exact Cursor.iterate_advance_of_next?_eq_none hnone more
    rw [hstays]
    exact ⟨hnone, rfl⟩

end ShuntingYard
