/-
This file proves that parsing a text succeeds exactly if its tokens derive a tree that nests no
deeper than the limit, and returns that tree; and that a text whose tokens derive a deeper tree
is refused for its depth. The last needs that no fault of another kind comes first: such a fault
would be one at any limit, and at a limit that is high enough the text is read.
-/

import IntExpr.Proofs.Agreement
import IntExpr.Proofs.Completeness
import IntExpr.Proofs.Soundness

namespace IntExpr

open TapeParse

/-! ### Whole tapes -/

/-- A row of tokens is a whole expression that nests no deeper than the limit, and the end of the
input comes next. -/
structure Accepted (tokens : List Token) (expr : Expr) (after : Tape) : Prop where
  reading : ReadAs .conditional tokens expr
  shallow : expr.nesting ≤ nestingLimit
  ended : ∃ last, after.next = .ok last ∧ last.type = .endOfInput

/-- A row of tokens behind which a whole tape is given up: reading is stuck there, or an
expression ends there and the input does not. -/
inductive Rejected (before : List Token) : GrammarError → Prop
  | stuck (cause : GrammarError) (stuck : Stuck nestingLimit .conditional before cause) :
    Rejected before cause
  | trailing (expr : Expr) (found : Token) (reading : ReadAs .conditional before expr)
      (shallow : expr.nesting ≤ nestingLimit)
      (stops : Level.conditional.StopsBefore expr found.type)
      (more : found.type ≠ .endOfInput) :
    Rejected before (.trailing found)

theorem outcome_whole {tape : Tape} (closed : tape.Closed) :
    Outcome Accepted Rejected tape (whole tape) := by
  have outcome := sound nestingLimit .conditional tape closed
  cases ran : expression nestingLimit .conditional tape with
  | ok expr after =>
    rw [ran] at outcome
    obtain ⟨taken, _, _, split, reading, shallow, token, next, stops⟩ := outcome
    rw [whole_of_ok ran next]
    by_cases isEnd : token.type = .endOfInput
    · rw [if_pos isEnd]
      exact .done taken expr after split ⟨reading, shallow, token, next, isEnd⟩
    · rw [if_neg isEnd]
      exact .fault taken _ after split next (.trailing expr token reading shallow stops isEnd)
  | error failure after =>
    rw [whole_of_error ran]
    rw [ran] at outcome
    cases outcome with
    | fault taken cause after split next stuck =>
      exact .fault taken cause after split next (.stuck cause stuck)
    | unscanned cause ending => exact .unscanned cause ending

section

variable {tokens before : List Token} {last : Token} {expr : Expr} {after : Tape}
  (reading : ReadAs .conditional tokens expr) (isEnd : last.type = .endOfInput)

include reading isEnd

/-- The parser reads a whole expression with the end of the input behind it. -/
theorem ReadAs.expression_whole {depth : Nat} (shallow : expr.nesting ≤ depth) :
    expression depth .conditional ⟨tokens, .ok last⟩ = .ok expr ⟨[], .ok last⟩ := by
  have next : (⟨[], .ok last⟩ : Tape).next = .ok last := rfl
  have returned := reading.expression_eq shallow next
    (by rw [isEnd]; exact Level.stopsBefore_endOfInput _ _)
  rwa [Tape.prepend, List.append_nil] at returned

/-- What the grammar reads as an expression is accepted, if it nests no deeper than the limit. -/
theorem ReadAs.whole_eq (shallow : expr.nesting ≤ nestingLimit) :
    whole ⟨tokens, .ok last⟩ = .ok expr ⟨[], .ok last⟩ := by
  rw [whole_of_ok (reading.expression_whole isEnd shallow) rfl, if_pos isEnd]

/-- Nowhere in a whole expression is reading stuck, if there is room for all of it. -/
theorem ReadAs.not_stuck {depth : Nat} (shallow : expr.nesting ≤ depth) {cause : GrammarError}
    (split : (⟨tokens, .ok last⟩ : Tape) = after.prepend before)
    (next : after.next = .ok cause.found) : ¬ Stuck depth .conditional before cause := by
  intro stuck
  have returned := reading.expression_whole isEnd shallow
  rw [split, stuck.expression_eq next] at returned
  cases returned

/-- An expression that a whole expression starts with, and that could end where it does, is the
whole of it. -/
theorem ReadAs.eq_of_start {first : Expr} (firstReading : ReadAs .conditional before first)
    (split : (⟨tokens, .ok last⟩ : Tape) = after.prepend before) {token : Token}
    (next : after.next = .ok token) (stops : Level.conditional.StopsBefore first token.type) :
    first = expr ∧ after = ⟨[], .ok last⟩ := by
  have returned := reading.expression_whole isEnd (Nat.le_max_right first.nesting expr.nesting)
  rw [split, firstReading.expression_eq (Nat.le_max_left _ _) next stops] at returned
  injection returned with sameExpr sameAfter
  exact ⟨sameExpr, sameAfter⟩

end

/-- No row of tokens is read as two expressions. -/
theorem ReadAs.unambiguous {firstLevel secondLevel : Level} {tokens : List Token}
    {first second : Expr} (firstReading : ReadAs firstLevel tokens first)
    (secondReading : ReadAs secondLevel tokens second) : first = second := by
  have isEnd : (Token.ofType .endOfInput).type = .endOfInput := rfl
  have split : (⟨tokens, .ok (.ofType .endOfInput)⟩ : Tape) =
      (⟨[], .ok (.ofType .endOfInput)⟩ : Tape).prepend tokens := by
    rw [Tape.prepend, List.append_nil]
  exact ((secondReading.loosen (Nat.zero_le _)).eq_of_start isEnd
    (firstReading.loosen (Nat.zero_le _)) split rfl (Level.stopsBefore_endOfInput _ _)).1

/-- Tokens that derive a tree that is too deep are refused for their depth. -/
theorem ReadAs.whole_too_deep {tokens : List Token} {last : Token} {expr : Expr}
    (reading : ReadAs .conditional tokens expr) (deep : nestingLimit < expr.nesting)
    (endsOnce : (⟨tokens, .ok last⟩ : Tape).EndsOnce) :
    ∃ cause after, whole ⟨tokens, .ok last⟩ = .error (.grammar cause) after ∧
      cause.fault = .nestedTooDeeply := by
  have isEnd : last.type = .endOfInput := endsOnce.2 last rfl
  have outcome := outcome_whole endsOnce.2
  generalize whole ⟨tokens, .ok last⟩ = result at outcome ⊢
  cases outcome with
  | unscanned cause ending => cases ending
  | done taken other after split accepted =>
    obtain ⟨otherReading, shallow, final, next, finalType⟩ := accepted
    have same := (reading.eq_of_start isEnd otherReading split next
      (by rw [finalType]; exact Level.stopsBefore_endOfInput _ _)).1
    rw [same] at shallow
    exact absurd shallow (Nat.not_le_of_lt deep)
  | fault before cause after split next rejected =>
    refine ⟨cause, after, rfl, ?_⟩
    cases rejected with
    | stuck _ stuck =>
      -- Another fault would be there at any depth, also at one with room for the whole tree.
      refine Decidable.byContradiction fun notTooDeep => ?_
      exact reading.not_stuck isEnd (Nat.le_refl _) split next
        (stuck.deepen notTooDeep (Nat.le_of_lt deep))
    | trailing other found otherReading shallow stops more =>
      have same := (reading.eq_of_start isEnd otherReading split next stops).2
      rw [same] at next
      cases next
      exact absurd isEnd more

/-! ### Texts -/

theorem endsOnce_textTape (filename source : String) : (textTape filename source).EndsOnce :=
  Cursor.endsOnce_tape _ _

/-- A text holds an expression exactly if its tokens are read as that expression, which nests no
deeper than the limit. -/
theorem parseText_eq_ok_iff (filename source : String) (expr : Expr) :
    parseText filename source = .ok expr ↔
      ∃ tokens last, textTape filename source = ⟨tokens, .ok last⟩ ∧
        ReadAs .conditional tokens expr ∧ expr.nesting ≤ nestingLimit := by
  have endsOnce := endsOnce_textTape filename source
  rw [parseText_eq]
  constructor
  · intro parsed
    have outcome := outcome_whole endsOnce.2
    generalize whole (textTape filename source) = result at outcome parsed
    cases outcome with
    | done tokens other after split accepted =>
      cases parsed
      obtain ⟨reading, shallow, last, next, isEnd⟩ := accepted
      rw [split] at endsOnce ⊢
      rw [endsOnce.eq_of_next_end next isEnd]
      exact ⟨tokens, last, by rw [Tape.prepend, List.append_nil], reading, shallow⟩
    | fault => cases parsed
    | unscanned => cases parsed
  · rintro ⟨tokens, last, scanned, reading, shallow⟩
    rw [scanned] at endsOnce ⊢
    rw [reading.whole_eq (endsOnce.2 last rfl) shallow]

/-- A text is parsed as a tree exactly if its tokens derive the tree and the tree nests no deeper
than the limit; and a text whose tokens derive a deeper tree is refused for its depth. -/
theorem parseText_iff_derives (filename source : String) (tree : Expr) :
    ((∃ expr, parseText filename source = .ok expr ∧ expr.Alike tree) ↔
      ∃ tokens last, tokenize filename source = .ok (tokens ++ [last]) ∧
        last.type = .endOfInput ∧ Derives .conditional tokens tree.withoutSpans ∧
        tree.nesting ≤ nestingLimit) ∧
    ∀ tokens last, tokenize filename source = .ok (tokens ++ [last]) →
      Derives .conditional tokens tree.withoutSpans → nestingLimit < tree.nesting →
      ∃ cause, parseText filename source = .error (.grammar cause) ∧
        cause.fault.code = "P014" := by
  have nesting_eq {expr : Expr} (alike : expr.Alike tree) : expr.nesting = tree.nesting := by
    rw [← expr.nesting_withoutSpans, alike, tree.nesting_withoutSpans]
  have endsOnce := endsOnce_textTape filename source
  refine ⟨⟨?_, ?_⟩, ?_⟩
  · rintro ⟨expr, parsed, alike⟩
    obtain ⟨tokens, last, scanned, reading, shallow⟩ := (parseText_eq_ok_iff _ _ _).1 parsed
    rw [scanned] at endsOnce
    refine ⟨tokens, last, (tokenize_eq_ok_iff _ _ _).2 ⟨tokens, last, scanned, rfl⟩,
      endsOnce.2 last rfl, ?_, ?_⟩
    · rw [← alike]
      exact reading.derives
    · rwa [← nesting_eq alike]
  · rintro ⟨tokens, last, tokenized, isEnd, derivation, shallow⟩
    obtain ⟨expr, reading, alike⟩ := derivation.exists_readAs
    refine ⟨expr, (parseText_eq_ok_iff _ _ _).2 ⟨tokens, last, ?_, reading, ?_⟩, alike⟩
    · exact textTape_of_tokenize tokenized
    · rwa [nesting_eq alike]
  · intro tokens last tokenized derivation deep
    obtain ⟨expr, reading, alike⟩ := derivation.exists_readAs
    rw [textTape_of_tokenize tokenized] at endsOnce
    obtain ⟨cause, after, refused, tooDeep⟩ :=
      reading.whole_too_deep (by rwa [nesting_eq alike]) endsOnce
    refine ⟨cause, ?_, by rw [tooDeep]; rfl⟩
    rw [parseText_eq, textTape_of_tokenize tokenized, refused]

end IntExpr
