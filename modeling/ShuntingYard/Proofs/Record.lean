/-
The log as a record of the tree.

The yard notes every token that it meets and every application of an operator.  An operand is
a finished tree when it is met, and an operator becomes one when it is applied, behind the
trees of its two operands.  So at any time the log lists what the finished trees are made
of, each operator after its operands.  At the end this is the tree of the expression.

* `Traced.Yields` — what holds of the result of a computation together with all events up to
  it;
* `Event.value?`, `Tree.reductions` — what an event adds to the trees, and the applications
  that make a tree;
* `Recorded` — events that record the lexemes that have been read and the trees that are
  finished;
* `Recorded.reduce`, `Recorded.read_lexeme`, `Recorded.foldlM_read`, `Recorded.finish` — every
  step of the yard, and any number of them, keep the record;
* `Grammar.recorded_run` — what a run records between its start and its end;
* `Lexeme.message`, `Tree.reductionMessages` — the texts about a lexeme, and about the
  applications that make a tree;
* `IsRecord`, `Grammar.log_eq_of_parse` — the log of an expression that has a tree, with its
  texts.
-/
import ShuntingYard.Proofs.Conservation
import ShuntingYard.Tree.Order

namespace ShuntingYard

/-! ### Results and events -/

/-- If the computation has a result, `post` holds of the result and of all events, where
`before` has been noted already. -/
def Traced.Yields {α : Type} (x : Traced α) (before : List Event)
    (post : α → List Event → Prop) : Prop :=
  ∀ a, x.outcome = .ok a → post a (before ++ x.events)

namespace Traced

variable {α β : Type} {x : Traced α} {f : α → Traced β} {before : List Event}
  {post : α → List Event → Prop} {post' : β → List Event → Prop}

theorem yields_pure {a : α} (h : post a before) : (pure a : Traced α).Yields before post := by
  rintro _ ⟨⟩
  rwa [events_pure, List.append_nil]

theorem yields_fail {cause : Cause} {span : Span} :
    (fail cause span : Traced α).Yields before post := by
  rintro _ ⟨⟩

/-- The second of two computations goes on from the result and the events of the first. -/
theorem Yields.bind (hx : x.Yields before post)
    (hf : ∀ a events, post a events → (f a).Yields events post') :
    (x >>= f).Yields before post' := by
  intro b hb
  obtain ⟨a, ha, hfa⟩ := outcome_bind_eq_ok_iff.1 hb
  rw [bind_eq_of_outcome_eq_ok ha, ← List.append_assoc]
  exact hf a _ (hx a ha) b hfa

theorem yields_note_bind {event : Event} {f : Unit → Traced β}
    (hf : (f ()).Yields (before ++ [event]) post') : (note event >>= f).Yields before post' := by
  intro b hb
  have := hf b hb
  rwa [List.append_assoc] at this

/-- Events further in front play no part. -/
theorem Yields.frame (h : x.Yields before post) (front : List Event) :
    x.Yields (front ++ before) fun a events => ∃ middle, events = front ++ middle ∧ post a middle :=
  fun a ha => ⟨before ++ x.events, List.append_assoc _ _ _, h a ha⟩

end Traced

/-! ### The record -/

/-- The value of the leaf or the node that an event adds to the trees. -/
def Event.value? : Event → Option String
  | reading token _ => token.operand?
  | reducing _ operator _ => some operator
  | _ => none

/-- The applications of operators that make a tree, each behind those of its operands. -/
def Tree.reductions : Tree → List Event
  | leaf _ => []
  | node value left right =>
    left.reductions ++ right.reductions ++ [.reducing left.value value right.value]

/-- The events record what has been done: there is one for each lexeme that has been read, and
the others are the reductions that have made the trees, the latest of which is in front. -/
structure Recorded (g : Grammar) (read : List Lexeme) (trees : List Tree)
    (events : List Event) : Prop where
  readings : (events.filter fun event => event.level = .trace).map some =
    read.map fun lexeme => (g.classify lexeme.text).map fun token => .reading token lexeme.span
  reductions : (events.filter fun event => event.level = .debug) =
    trees.reverse.flatMap Tree.reductions
  values : events.filterMap Event.value? = trees.reverse.flatMap Tree.postOrder

namespace Recorded

variable {g : Grammar} {read : List Lexeme} {yard : Yard} {pending : List Pending}
  {trees : List Tree} {events : List Event} {lexeme : Lexeme} {token : Token}

theorem nil (g : Grammar) : Recorded g [] [] [] := ⟨rfl, rfl, rfl⟩

/-! ### Reductions -/

theorem reduce (h : Recorded g read trees events) (symbol : String) (span : Span) :
    (Yard.reduce symbol span trees).Yields events (Recorded g read) := by
  rcases trees with _ | ⟨right, _ | ⟨left, trees⟩⟩
  · exact Traced.yields_fail
  · exact Traced.yields_fail
  · refine Traced.yields_note_bind (Traced.yields_pure ⟨?_, ?_, ?_⟩)
    · rw [List.filter_append, List.map_append, h.readings]
      simp [Event.level]
    · rw [List.filter_append, h.reductions]
      simp [Event.level, Tree.reductions]
    · rw [List.filterMap_append, h.values]
      simp [Event.value?, Tree.postOrder]

theorem reduceBefore (h : Recorded g read trees events) (incoming : Binding)
    (pending : List Pending) :
    (Yard.reduceBefore incoming pending trees).Yields events fun next =>
      Recorded g read next.trees := by
  induction pending generalizing trees events with
  | nil => exact Traced.yields_pure h
  | cons first pending ih =>
    cases first with
    | openParen span => exact Traced.yields_pure h
    | operator symbol binding span =>
      rw [Yard.reduceBefore]
      split
      · exact (h.reduce symbol span).bind fun _ _ hnext => ih hnext
      · exact Traced.yields_pure h

theorem reduceGroup (h : Recorded g read trees events) (pending : List Pending) :
    (Yard.reduceGroup pending trees).Yields events fun found =>
      Recorded g read found.2.trees := by
  induction pending generalizing trees events with
  | nil => exact Traced.yields_pure h
  | cons first pending ih =>
    cases first with
    | openParen span => exact Traced.yields_pure h
    | operator symbol binding span => exact (h.reduce symbol span).bind fun _ _ hnext => ih hnext

/-! ### Tokens -/

/-- A token is noted with its place, and an operand is a finished tree. -/
theorem note (h : Recorded g read trees events) (hclassify : g.classify lexeme.text = some token) :
    Recorded g (read ++ [lexeme]) (token.operand?.toList.map .leaf ++ trees)
      (events ++ [.reading token lexeme.span]) := by
  refine ⟨?_, ?_, ?_⟩
  · rw [List.filter_append, List.map_append, h.readings, List.map_append]
    simp [Event.level, hclassify]
  · rw [List.filter_append, h.reductions]
    cases token <;> simp [Event.level, Token.operand?, Tree.reductions]
  · rw [List.filterMap_append, h.values]
    cases token <;> simp [Event.value?, Token.operand?, Tree.postOrder]

/-- Once a token has been noted, the yard takes it without a note of its own. -/
theorem step (yard : Yard) (span : Span)
    (h : Recorded g read (token.operand?.toList.map .leaf ++ yard.trees) events) :
    (yard.step token span).Yields events fun next => Recorded g read next.trees := by
  cases token with
  | operand text => exact Traced.yields_pure h
  | openParen => exact Traced.yields_pure h
  | operator symbol binding =>
    exact (h.reduceBefore binding yard.pending).bind fun _ _ hnext => Traced.yields_pure hnext
  | closeParen =>
    refine (h.reduceGroup yard.pending).bind fun found events' hfound => ?_
    obtain ⟨_ | opened, next⟩ := found
    · exact Traced.yields_fail
    · exact Traced.yields_pure hfound

theorem read_lexeme (yard : Yard) (h : Recorded g read yard.trees events) (lexeme : Lexeme) :
    (yard.read g lexeme).Yields events fun next =>
      Recorded g (read ++ [lexeme]) next.trees := by
  unfold Yard.read
  split
  · exact Traced.yields_fail
  · rename_i token hclassify
    exact Traced.yields_note_bind (step yard lexeme.span (h.note hclassify))

theorem foldlM_read (lexemes : List Lexeme) (yard : Yard)
    (h : Recorded g read yard.trees events) :
    (lexemes.foldlM (Yard.read g) yard).Yields events fun next =>
      Recorded g (read ++ lexemes) next.trees := by
  induction lexemes generalizing yard read events with
  | nil => exact Traced.yields_pure (by rwa [List.append_nil])
  | cons lexeme lexemes ih =>
    rw [List.foldlM_cons, List.append_cons]
    exact (read_lexeme yard h lexeme).bind fun next _ hnext => ih next hnext

/-- The tree that is left at the end is the only finished one. -/
theorem finish (yard : Yard) (h : Recorded g read yard.trees events) (whole : Span) :
    (yard.finish whole).Yields events fun tree => Recorded g read [tree] := by
  refine (h.reduceGroup yard.pending).bind fun found events' hfound => ?_
  obtain ⟨_ | opened, pending, trees⟩ := found
  · rcases trees with _ | ⟨tree, _ | _⟩
    · exact Traced.yields_fail
    · exact Traced.yields_pure hfound
    · exact Traced.yields_fail
  · exact Traced.yields_fail

end Recorded

/-- Between its start and its end, a run that has a tree records the lexemes and the tree. -/
theorem Grammar.recorded_run (g : Grammar) (expression : String) :
    (g.run expression).Yields [] fun tree events => ∃ middle,
      events = .parsing expression :: (middle ++ [.parsed expression tree.size]) ∧
        Recorded g (lexemes expression) [tree] middle := by
  have hread := (Recorded.nil g).foldlM_read (lexemes expression) Yard.empty
  refine Traced.yields_note_bind ((hread.frame [.parsing expression]).bind ?_)
  rintro yard _ ⟨events, rfl, hyard⟩
  refine ((hyard.finish yard ⟨0, expression.utf8ByteSize⟩).frame [.parsing expression]).bind ?_
  rintro tree _ ⟨middle, rfl, htree⟩
  exact Traced.yields_note_bind (Traced.yields_pure ⟨middle, List.append_assoc _ _ _, htree⟩)

/-! ### The texts of the log -/

/-- What the log shows of a token of the kind, with the text of its lexeme. -/
def Token.Kind.shows (text : String) : Token.Kind → String
  | operand => "Operand(" ++ quote text ++ ")"
  | operator => "Operator(" ++ quote text ++ ")"
  | openParen => "OpenParen"
  | closeParen => "CloseParen"

/-- The message about a lexeme that is a token of the kind. -/
def Lexeme.message (lexeme : Lexeme) (kind : Token.Kind) : String :=
  "token " ++ kind.shows lexeme.text ++ " at " ++
    ("Span \x7b start: " ++ toString lexeme.span.start ++ ", end: " ++
      toString lexeme.span.stop ++ " \x7d")

/-- The messages about the applications that make a tree, each behind those of its operands. -/
def Tree.reductionMessages : Tree → List String
  | leaf _ => []
  | node value left right =>
    left.reductionMessages ++ right.reductionMessages ++
      ["reducing " ++ left.value ++ " " ++ value ++ " " ++ right.value]

theorem Token.shows_kind (token : Token) : token.kind.shows token.text = token.describe := by
  cases token <;> rfl

/-- What the log shows of the event that notes a token. -/
theorem Lexeme.shown_reading {g : Grammar} {lexeme : Lexeme} {token : Token}
    (h : g.classify lexeme.text = some token) :
    (Event.reading token lexeme.span).shown = (.trace, lexeme.message token.kind) := by
  rw [Lexeme.message, ← Grammar.text_of_classify_eq_some h, token.shows_kind]
  rfl

theorem Tree.map_shown_reductions (tree : Tree) :
    tree.reductions.map Event.shown =
      tree.reductionMessages.map fun message => (Level.debug, message) := by
  induction tree with
  | leaf value => rfl
  | node value left right ihl ihr =>
    simp only [reductions, reductionMessages, List.map_append, ihl, ihr]
    rfl

/-- The texts about the tokens are those about their lexemes. -/
theorem Recorded.map_shown_readings {g : Grammar} {read : List Lexeme} {trees : List Tree}
    {events : List Event} (h : Recorded g read trees events) :
    ((events.filter fun event => event.level = .trace).map Event.shown).map some =
      read.map fun lexeme =>
        (g.kind? lexeme.text).map fun kind => (Level.trace, lexeme.message kind) := by
  have hshown := congrArg (List.map (Option.map Event.shown)) h.readings
  rw [List.map_map, List.map_map] at hshown
  rw [List.map_map]
  refine hshown.trans (List.map_congr_left fun lexeme _ => ?_)
  rw [Function.comp_apply, Grammar.kind?, Option.map_map, Option.map_map]
  exact Option.map_congr fun token htoken => lexeme.shown_reading (Option.mem_def.1 htoken)

/-- The events between the first and the last are a record of how the tree of the expression
has been made. -/
structure IsRecord (g : Grammar) (expression : String) (tree : Tree) (events : List Event) :
    Prop where
  /-- The log starts with the expression, and ends with it and the number of nodes. -/
  log : g.log expression = .parsing expression :: (events ++ [.parsed expression tree.size])
  /-- What the log shows of this. -/
  shown : (g.log expression).map Event.shown =
    (.debug, "parsing " ++ quote expression) ::
      (events.map Event.shown ++
        [(.debug, "parsed " ++ quote expression ++ " into " ++ toString tree.size ++ " nodes")])
  /-- There is a node for every lexeme that is no parenthesis. -/
  size : tree.size =
    ((lexemes expression).filter fun lexeme => lexeme.text ≠ "(" ∧ lexeme.text ≠ ")").length
  /-- The tokens are noted in the order of the lexemes, with their spans. -/
  readings : (events.filter fun event => event.level = .trace).map some =
    (lexemes expression).map fun lexeme =>
      (g.classify lexeme.text).map fun token => .reading token lexeme.span
  /-- What the log shows of the tokens. -/
  shownReadings : ((events.filter fun event => event.level = .trace).map Event.shown).map some =
    (lexemes expression).map fun lexeme =>
      (g.kind? lexeme.text).map fun kind => (.trace, lexeme.message kind)
  /-- The other events are the applications that make the tree. -/
  reductions : (events.filter fun event => event.level = .debug) = tree.reductions
  /-- What the log shows of the applications. -/
  shownReductions : (events.filter fun event => event.level = .debug).map Event.shown =
    tree.reductionMessages.map fun message => (.debug, message)
  /-- Operands and applications together come in the post-order of the tree. -/
  values : events.filterMap Event.value? = tree.postOrder

namespace Grammar

variable {g : Grammar} {expression : String} {tree : Tree}

/-- The log of an expression that has a tree tells how the tree has been made: which tokens
have been met, and which operators have joined which trees. -/
theorem log_eq_of_parse (h : g.parse expression = .ok tree) :
    ∃ events, IsRecord g expression tree events := by
  obtain ⟨events, hrun, hrecorded⟩ := recorded_run g expression tree (parse_eq_ok_iff_run.1 h)
  have hlog : g.log expression =
      .parsing expression :: (events ++ [.parsed expression tree.size]) := hrun
  have hreductions : (events.filter fun event => event.level = .debug) = tree.reductions := by
    simpa using hrecorded.reductions
  refine ⟨events, {
    log := hlog
    shown := ?_
    size := size_eq_of_parse h
    readings := hrecorded.readings
    shownReadings := hrecorded.map_shown_readings
    reductions := hreductions
    shownReductions := ?_
    values := by simpa using hrecorded.values }⟩
  · rw [hlog, List.map_cons, List.map_append]
    rfl
  · rw [hreductions, tree.map_shown_reductions]

/-- Also where an operator stands behind the operands of the next one. -/
theorem log_eq_of_parse_out_of_order :
    standard.parse "1 2 + ( 3 * )" =
        .ok (.node "+" (.leaf "1") (.node "*" (.leaf "2") (.leaf "3"))) ∧
      ∃ events : List Event,
        (standard.log "1 2 + ( 3 * )").map Event.shown =
            (.debug, "parsing \"1 2 + ( 3 * )\"") ::
              (events.map Event.shown ++
                [(.debug, "parsed \"1 2 + ( 3 * )\" into 5 nodes")]) ∧
          ((events.filter fun event => event.level = .trace).map Event.shown).map some =
              ["token Operand(\"1\") at Span \x7b start: 0, end: 1 \x7d",
                "token Operand(\"2\") at Span \x7b start: 2, end: 3 \x7d",
                "token Operator(\"+\") at Span \x7b start: 4, end: 5 \x7d",
                "token OpenParen at Span \x7b start: 6, end: 7 \x7d",
                "token Operand(\"3\") at Span \x7b start: 8, end: 9 \x7d",
                "token Operator(\"*\") at Span \x7b start: 10, end: 11 \x7d",
                "token CloseParen at Span \x7b start: 12, end: 13 \x7d"].map
                  (fun message => some (Level.trace, message)) ∧
            (events.filter fun event => event.level = .debug).map Event.shown =
                [(.debug, "reducing 2 * 3"), (.debug, "reducing 1 + *")] ∧
              events.filterMap Event.value? = ["1", "2", "3", "*", "+"] := by
  have h : standard.parse "1 2 + ( 3 * )" =
      .ok (.node "+" (.leaf "1") (.node "*" (.leaf "2") (.leaf "3"))) :=
    parse_eq_ok_iff_sort.2
      ⟨[.operand "1", .operand "2", .operator "+" ⟨0, .left⟩, .openParen, .operand "3",
        .operator "*" ⟨1, .left⟩, .closeParen], by decide +kernel, by decide⟩
  obtain ⟨events, hrecord⟩ := log_eq_of_parse h
  have hquote : quote "1 2 + ( 3 * )" = "\"1 2 + ( 3 * )\"" := by decide +kernel
  refine ⟨h, events, ?_, hrecord.shownReadings.trans (by decide +kernel),
    hrecord.shownReductions.trans (by decide +kernel), hrecord.values⟩
  rw [hrecord.shown, hquote]
  rfl

end Grammar

end ShuntingYard
