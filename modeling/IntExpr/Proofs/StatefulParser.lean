/-
This file proves that the parser with a state does what the parser does that has none, whatever
state it starts a text in. While it reads a text the depth it has counted and the room that the
other parser has left add up to the limit, so the two give up for their depth at the same place;
and after each expression the token that was taken last is the one in which the expression ends,
so they give nodes the same spans. The recursion never gets to its bound.
-/

import IntExpr.Proofs.Agreement
import IntExpr.Proofs.Keeping
import IntExpr.StatefulParser

namespace IntExpr

/-- Reading keeps the name of the text. -/
theorem Scanner.readingKeeps_filename (filename : String) :
    ReadingKeeps fun scanner => scanner.filename = filename where
  look := by
    intro scanner named
    unfold look
    cases scanner.held with
    | some token => exact named
    | none =>
      cases scanner.cursor.scan scanner.filename with
      | mk result cursor => cases result <;> exact named
  release _ named := named

namespace StatefulParse

/-! ### Steps beside the scanner -/

/-- The state belongs to a scanner, and the depth leaves so much room below the limit. -/
def beside : Parser.Relation ParserState Scanner where
  near room state scanner := scanner = state.scanner ∧ state.depth + room = nestingLimit
  endsAt place state _ := state.previous.map Token.location = some place
  ahead scanner := scanner.tape.tokens.length
  apart _ state scanner := scanner = state.scanner

theorem peek_of_ok (state : ParserState) {token : Token} {after : Scanner}
    (ran : Parse.peek state.scanner = .ok token after) :
    peek state = .ok token { state with scanner := after } := by
  rw [peek, ofParse, ran]

theorem peek_of_error (state : ParserState) {cause : ParseError} {after : Scanner}
    (ran : Parse.peek state.scanner = .error cause after) :
    peek state = .error cause { state with scanner := after } := by
  rw [peek, ofParse, ran]

variable {state : ParserState}

/-- A token that is taken is remembered. -/
theorem take_of_ok {token : Token} {after : Scanner}
    (shown : Parse.peek state.scanner = .ok token state.scanner)
    (ran : Parse.take state.scanner = .ok token after) :
    take state = .ok token { state with scanner := after, previous := some token } := by
  rw [Parse.take, bind_of_ok shown] at ran
  rw [take, bind_of_ok (peek_of_ok state shown)]
  cases advanced : Parse.ofScan Scanner.advance state.scanner with
  | ok _ behind =>
    have here : ofParse (Parse.ofScan Scanner.advance) state =
        .ok () { state with scanner := behind } := by
      rw [ofParse, advanced]
    rw [bind_of_ok advanced] at ran
    rw [bind_of_ok here]
    cases ran
    rfl
  | error cause behind =>
    rw [bind_of_error advanced] at ran
    cases ran

theorem enter_of_room (room : state.depth < nestingLimit) :
    enter state = .ok () { state with depth := state.depth + 1 } := by
  show (if nestingLimit < state.depth + 1 then _ else _ : StatefulParse Unit)
    { state with depth := state.depth + 1 } = _
  rw [if_neg (Nat.not_lt.2 room)]
  rfl

/-- At the limit entering is a fault at the next token. -/
theorem enter_of_full (full : nestingLimit ≤ state.depth) :
    enter state = (peek >>= fun token => Parser.fault (.tooDeep token))
      { state with depth := state.depth + 1 } := by
  show (if nestingLimit < state.depth + 1 then _ else _ : StatefulParse Unit)
    { state with depth := state.depth + 1 } = _
  rw [if_pos (Nat.lt_succ_of_le full)]

/-! ### The parser beside the scanner -/

theorem beside_simulation : Parser.Simulation beside parser Parse.parser Eq where
  peek := by
    rintro _ state _ ⟨rfl, balanced⟩
    show Paired _ _ (peek state) (Parse.peek state.scanner)
    rcases Parse.peek_cases state.scanner with ⟨token, after, peeked, again, _, same⟩ |
      ⟨cause, after, failed, _⟩
    · rw [peek_of_ok state peeked, peeked]
      refine .ok _ _ _ ⟨⟨rfl, balanced⟩, ?_, again, ?_, fun _ ends => ends⟩
      · exact peek_of_ok { state with scanner := after } again
      · exact congrArg (·.tokens.length) same
    · rw [peek_of_error state failed, failed]
      exact .error _ _ _ rfl
  take := by
    rintro _ token state _ ⟨rfl, balanced⟩ _ shown more
    obtain ⟨after, took, rest⟩ := Parse.take_of_peek shown
    show Paired _ _ (take state) (Parse.take state.scanner)
    rw [take_of_ok shown took, took]
    refine .ok _ _ _ ⟨rfl, ⟨rfl, balanced⟩, ?_, rfl⟩
    have shorter := Scanner.length_rest_lt (Parse.next_of_peek shown) more
    rwa [← rest] at shorter
  fault near _ := near.1
  span := by
    intro _ state scanner near left right leftSpan rightSpan leftSame rightSame ends
    obtain ⟨token, previous, place⟩ := Option.map_eq_some_iff.1 ends
    constructor
    · show spanFrom left state = _
      rw [← place]
      simp only [spanFrom, leftSame, previous]
    · exact congrArg (EStateM.Result.ok · _) (congrArg₂ Span.cover leftSame rightSame)
  unread := by
    rintro _ state _ ⟨rfl, _⟩
    exact ⟨state.scanner.length_tape_le, state.scanner.length_tape_le⟩
  deeper := by
    rintro room step plain together state _ ⟨rfl, balanced⟩
    show Paired _ _ (deeper step state) (plain state.scanner)
    rw [deeper, bind_of_ok (enter_of_room (by omega))]
    have paired := together { state with depth := state.depth + 1 } state.scanner
      ⟨rfl, by show state.depth + 1 + room = _; omega⟩
    generalize ran : step { state with depth := state.depth + 1 } = left at paired
    generalize plain state.scanner = right at paired ⊢
    cases paired with
    | ok expr after scanner ended =>
      obtain ⟨⟨same, depth⟩, ahead, ends⟩ := ended
      have left : after.depth - 1 + (room + 1) = nestingLimit := by omega
      rw [bind_of_ok ran]
      exact .ok _ _ _ ⟨⟨same, left⟩, ahead, ends⟩
    | error cause after scanner apart =>
      rw [bind_of_error ran]
      exact .error cause after scanner apart
  loosest := rfl
  branch := rfl
  loosest_iff same := by rw [same]; rfl
  operation same type := by
    subst same
    exact Parser.sameOperation_level _ type

/-- Where the depth leaves no room the parser gives up, whatever it would do beyond its calls. -/
theorem together_full (beyond : Level → StatefulParse Expr) (level : Level) :
    Parser.Together beside 0 (parser.expression beyond 1 level) (Parse.parser.tooDeep level) := by
  rintro state _ ⟨rfl, full⟩
  let entering : ParserState := { state with depth := state.depth + 1 }
  have entered : enter state = _ := enter_of_full (Nat.le_of_eq full.symm)
  show Paired _ _ ((enter >>= _) state) ((Parse.peek >>= _) state.scanner)
  rcases Parse.peek_cases state.scanner with ⟨token, after, peeked, _⟩ | ⟨cause, after, failed, _⟩
  · rw [bind_of_ok (peek_of_ok entering peeked)] at entered
    rw [bind_of_error entered, bind_of_ok peeked]
    exact .error _ _ _ rfl
  · rw [bind_of_error (peek_of_error entering failed)] at entered
    rw [bind_of_error entered, bind_of_error failed]
    exact .error _ _ _ rfl

/-! ### Whole texts -/

/-- From whatever state the parser starts a text, and whatever is beyond its calls, it comes to
what the parser without a state comes to. -/
theorem paired_whole (beyond : Level → StatefulParse Expr) (source : String)
    (state : ParserState) :
    Paired (fun _ => beside.near nestingLimit) beside.apart (whole beyond source state)
      (parse source state.scanner) := by
  have bottom (level other : Level) (same : level = other) :
      Parser.Together beside 0 (parser.expression beyond 1 level) (Parse.parser.tooDeep other) :=
    same ▸ together_full beyond level
  have begun : beside.near nestingLimit ⟨state.scanner.restart source, none, 0⟩
      (state.scanner.restart source) := ⟨rfl, Nat.zero_add _⟩
  have paired := beside_simulation.paired_whole bottom begun
  rwa [Nat.add_comm] at paired

/-- The two parsers return the same tree or fail with the same cause, at the same place in a text
of the same name. -/
theorem whole_cases (beyond : Level → StatefulParse Expr) (source : String)
    (state : ParserState) :
    ∃ after : ParserState, after.scanner.filename = state.scanner.filename ∧
      ((∃ expr, whole beyond source state = .ok expr after ∧
          parse source state.scanner = .ok expr after.scanner) ∨
        ∃ cause, whole beyond source state = .error cause after ∧
          parse source state.scanner = .error cause after.scanner) := by
  have begun : (state.scanner.restart source).filename = state.scanner.filename := rfl
  have named := endState_parse (Scanner.readingKeeps_filename state.scanner.filename) begun
  have paired := paired_whole beyond source state
  generalize whole beyond source state = left at paired ⊢
  generalize parse source state.scanner = right at paired named ⊢
  cases paired with
  | ok expr after scanner near =>
    obtain ⟨rfl, _⟩ := near
    exact ⟨after, named, .inl ⟨expr, rfl, rfl⟩⟩
  | error cause after scanner apart =>
    obtain rfl := apart
    exact ⟨after, named, .inr ⟨cause, rfl, rfl⟩⟩

end StatefulParse

end IntExpr
