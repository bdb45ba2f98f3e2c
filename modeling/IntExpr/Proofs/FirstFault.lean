/-
This file proves that a text is refused at the first token that no expression can have there. What
stands before that token is the start of some expression, with the token it is the start of none,
and each type that is reported as expected could have come instead. A text that is refused for its
depth is refused where every way to go on nests too deep.
-/

import IntExpr.Proofs.Acceptance

namespace IntExpr

/-! ### Where tokens are stuck -/

/-- Something could always come next. -/
theorem Stuck.exists_wanted {depth : Nat} {level : Level} {before : List Token}
    {cause : GrammarError} (stuck : Stuck depth level before cause) :
    ∃ type, type ∈ cause.wanted := by
  induction stuck with
  | inside opens stuck inductionHypothesis => exact inductionHypothesis
  | here halts => cases halts <;> exact ⟨_, List.mem_cons_self⟩

/-- Reading is stuck at a token that does not fit or for want of room. -/
theorem Stuck.cause_eq {depth : Nat} {level : Level} {before : List Token}
    {cause : GrammarError} (stuck : Stuck depth level before cause) :
    (∃ expected, cause = .unexpected expected cause.found) ∨ cause = .tooDeep cause.found := by
  induction stuck with
  | inside opens stuck inductionHypothesis => exact inductionHypothesis
  | here halts =>
    cases halts with
    | tooDeep => exact .inr rfl
    | _ => exact .inl ⟨_, rfl⟩

/-- The end of the input is never what is expected where reading is stuck. -/
theorem Stuck.wanted_of_expected {depth : Nat} {level : Level} {before : List Token}
    {cause : GrammarError} (stuck : Stuck depth level before cause) {type : TokenType}
    (expected : type ∈ cause.expected) : type ∈ cause.wanted ∧ type ≠ .endOfInput := by
  induction stuck with
  | inside opens stuck inductionHypothesis => exact inductionHypothesis expected
  | here halts =>
    cases halts with
    | tooDeep => cases expected
    | _ =>
      refine ⟨expected, ?_⟩
      rintro rfl
      simp [GrammarError.expected, operandStart] at expected

theorem Stuck.viable {depth : Nat} {before : List Token} {cause : GrammarError}
    (stuck : Stuck depth .conditional before cause) (token : Token)
    (wanted : token.type ∈ cause.wanted) : Viable (before ++ [token]) := by
  obtain ⟨more, expr, reading⟩ := stuck.goOn token wanted
  refine ⟨more, (sentence_iff _).2 ⟨expr, ?_⟩⟩
  rwa [List.append_assoc]

/-- No sentence ends where reading is stuck for another reason than depth. -/
theorem Stuck.not_sentence {depth : Nat} {before : List Token} {cause : GrammarError}
    (stuck : Stuck depth .conditional before cause) (notTooDeep : cause.fault ≠ .nestedTooDeeply) :
    ¬ Sentence before := by
  intro sentence
  obtain ⟨expr, reading⟩ := (sentence_iff _).1 sentence
  have isEnd : (Token.ofType .endOfInput).type = .endOfInput := rfl
  -- If nothing came behind it the sentence would be read, and reading would also be stuck.
  have atEnd := (stuck.deepen notTooDeep (Nat.le_max_left depth expr.nesting)).refound
    (.ofType .endOfInput) (.inr isEnd)
  have split : (⟨before, .ok (.ofType .endOfInput)⟩ : Tape) =
      (⟨[], .ok (.ofType .endOfInput)⟩ : Tape).prepend before := by
    rw [Tape.prepend, List.append_nil]
  exact reading.not_stuck isEnd (Nat.le_max_right _ _) split
    (by rw [GrammarError.found_refound]; rfl) atEnd

/-- Where there is no room for another expression, whatever goes on needs more room. -/
theorem Stuck.deep_of_derives {depth : Nat} {before more : List Token} {cause : GrammarError}
    (stuck : Stuck depth .conditional before cause) (tooDeep : cause.fault = .nestedTooDeeply)
    (goesOn : more ≠ []) {expr : Expr} (derivation : Derives .conditional (before ++ more) expr) :
    depth < expr.nesting := by
  obtain ⟨token, more, rfl⟩ := List.exists_cons_of_ne_nil goesOn
  obtain ⟨spanned, reading, rfl⟩ := derivation.exists_readAs
  rw [Expr.nesting_withoutSpans]
  have isEnd : (Token.ofType .endOfInput).type = .endOfInput := rfl
  have split : (⟨before ++ token :: more, .ok (.ofType .endOfInput)⟩ : Tape) =
      (⟨token :: more, .ok (.ofType .endOfInput)⟩ : Tape).prepend before := rfl
  exact Nat.lt_of_not_le fun shallow => reading.not_stuck isEnd shallow split
    (by rw [GrammarError.found_refound]; rfl) (stuck.refound token (.inl tooDeep))

/-! ### Where a whole text is refused -/

/-- Whether a row of tokens could go on with a token of some type, or be complete if the type is
the end of the input. -/
def Accepts (before : List Token) (type : TokenType) : Prop :=
  if type = .endOfInput then Sentence before
  else ∀ token : Token, token.type = type → Viable (before ++ [token])

/-- A tape on which a whole expression is laid out, taken apart where the expression and the end
of the input start with some tokens. -/
theorem Tape.exists_split {before tokens : List Token} {found last : Token}
    (starts : before ++ [found] <+: tokens ++ [last]) :
    ∃ after : Tape, (⟨tokens, .ok last⟩ : Tape) = after.prepend before ∧
      after.next = .ok found := by
  obtain ⟨behind, same⟩ := starts
  obtain rfl | ⟨front, final, rfl⟩ := List.eq_nil_or_concat behind
  · obtain ⟨rfl, ends⟩ := List.append_inj' ((List.append_nil _).symm.trans same) rfl
    obtain rfl := List.singleton_inj.1 ends
    exact ⟨⟨[], .ok found⟩, by rw [Tape.prepend, List.append_nil], rfl⟩
  · rw [List.concat_eq_append, ← List.append_assoc] at same
    obtain ⟨rfl, ends⟩ := List.append_inj' same rfl
    obtain rfl := List.singleton_inj.1 ends
    exact ⟨⟨found :: front, .ok final⟩, by rw [Tape.prepend, List.append_assoc]; rfl, rfl⟩

namespace Rejected

variable {before : List Token} {cause : GrammarError} (rejected : Rejected before cause)

include rejected

/-- What stands before the fault is the start of an expression. -/
theorem viable : Viable before := by
  cases rejected with
  | stuck _ stuck =>
    obtain ⟨type, wanted⟩ := stuck.exists_wanted
    obtain ⟨more, sentence⟩ := stuck.viable (.ofType type) wanted
    exact ⟨.ofType type :: more, by rwa [List.append_assoc] at sentence⟩
  | trailing expr found reading =>
    exact ⟨[], by rw [List.append_nil]; exact (sentence_iff _).2 ⟨expr, reading⟩⟩

/-- Whatever is reported as expected could have come instead of the fault. -/
theorem accepts {type : TokenType} (expected : type ∈ cause.expected) : Accepts before type := by
  unfold Accepts
  cases rejected with
  | stuck _ stuck =>
    obtain ⟨wanted, more⟩ := stuck.wanted_of_expected expected
    rw [if_neg more]
    rintro token rfl
    exact stuck.viable token wanted
  | trailing expr found reading =>
    rw [if_pos (List.mem_singleton.1 expected)]
    exact (sentence_iff _).2 ⟨expr, reading⟩

/-- No expression with the end of the input behind it has the fault where it is, unless the fault
is one of depth. -/
theorem not_starts (notTooDeep : cause.fault ≠ .nestedTooDeeply) {sentence : List Token}
    {last : Token} (complete : Sentence sentence) (isEnd : last.type = .endOfInput) :
    ¬ before ++ [cause.found] <+: sentence ++ [last] := by
  intro starts
  obtain ⟨after, split, next⟩ := Tape.exists_split starts
  obtain ⟨expr, reading⟩ := (sentence_iff _).1 complete
  cases rejected with
  | stuck _ stuck =>
    exact reading.not_stuck isEnd (Nat.le_max_right nestingLimit _) split next
      (stuck.deepen notTooDeep (Nat.le_max_left _ _))
  | trailing first found firstReading _ stops more =>
    have same := (reading.eq_of_start isEnd firstReading split next stops).2
    rw [same] at next
    cases next
    exact more isEnd

/-- A fault that is not one of depth is either a token that does not fit, behind what is no
sentence, or one that comes behind a sentence. -/
theorem shape (notTooDeep : cause.fault ≠ .nestedTooDeeply) :
    (∃ expected, cause = .unexpected expected cause.found ∧ ¬ Sentence before) ∨
      cause = .trailing cause.found ∧ Sentence before ∧ cause.found.type ≠ .endOfInput := by
  cases rejected with
  | stuck _ stuck =>
    obtain ⟨expected, same⟩ | same := stuck.cause_eq
    · exact .inl ⟨expected, same, stuck.not_sentence notTooDeep⟩
    · rw [same] at notTooDeep
      exact absurd rfl notTooDeep
  | trailing expr found reading _ _ more =>
    exact .inr ⟨rfl, (sentence_iff _).2 ⟨expr, reading⟩, more⟩

theorem code_iff (notTooDeep : cause.fault ≠ .nestedTooDeeply) :
    (cause.fault.code = "P010" ↔ cause.found.type = .endOfInput) ∧
      (cause.fault.code = "P013" ↔ Sentence before) := by
  obtain ⟨expected, same, incomplete⟩ | ⟨same, complete, more⟩ := rejected.shape notTooDeep
  · have fault_eq : cause.fault =
        if cause.found.type = .endOfInput then .unexpectedEnd else .unexpectedToken := by
      rw [same]
      rfl
    rw [fault_eq]
    by_cases isEnd : cause.found.type = .endOfInput
    · simp [isEnd, incomplete, Fault.code]
    · simp [isEnd, incomplete, Fault.code]
  · have fault_eq : cause.fault = .trailingInput := by
      rw [same]
      rfl
    rw [fault_eq]
    simp [more, complete, Fault.code]

end Rejected

/-! ### The first fault of a text -/

theorem Fault.code_eq_nestedTooDeeply_iff (fault : Fault) :
    fault.code = "P014" ↔ fault = .nestedTooDeeply := by
  cases fault <;> simp [code]

/-- A text in which the grammar finds a fault is refused at the first token that no expression can
have there. What is expected instead could come there; the code is that of an unexpected end if
and only if the token is the end of the input, and that of trailing input if and only if a whole
sentence stands before it. If the fault is one of depth then whatever goes on nests too deep. And
the scanner shows the token of the fault next. -/
theorem parse_fails_at_first_fault {source : String} {scanner after : Scanner}
    {cause : GrammarError} (failed : parse source scanner = .error (.grammar cause) after) :
    ∃ before behind,
      (textTape scanner.filename source).scanned = before ++ cause.found :: behind ∧
      Viable before ∧
      (cause.fault.code ∈ ["P001", "P010", "P013"] →
        (∀ sentence last, Sentence sentence → last.type = .endOfInput →
          ¬ before ++ [cause.found] <+: sentence ++ [last]) ∧
        (∀ type ∈ cause.expected, Accepts before type) ∧
        (cause.fault.code = "P010" ↔ cause.found.type = .endOfInput) ∧
        (cause.fault.code = "P013" ↔ Sentence before)) ∧
      (cause.fault.code = "P014" → ∀ more expr, more ≠ [] →
        Derives .conditional (before ++ more) expr → nestingLimit < expr.nesting) ∧
      ∃ again, Scanner.look after = .ok cause.found again := by
  have outcome := outcome_whole (endsOnce_textTape scanner.filename source).2
  rw [whole_of_parse_error failed] at outcome
  generalize tape : after.tape = left at outcome
  cases outcome with
  | fault before _ _ split next rejected =>
    obtain ⟨behind, scanned⟩ := Tape.exists_scanned_of_next next
    refine ⟨before, behind, ?_, rejected.viable, fun listed => ?_, fun tooDeep => ?_, ?_⟩
    · rw [split, Tape.scanned_prepend, scanned]
    · have notTooDeep : cause.fault ≠ .nestedTooDeeply := by
        intro same
        rw [same] at listed
        revert listed
        decide
      exact ⟨fun _ _ complete isEnd => rejected.not_starts notTooDeep complete isEnd,
        fun _ expected => rejected.accepts expected, rejected.code_iff notTooDeep⟩
    · intro more expr goesOn derivation
      rw [Fault.code_eq_nestedTooDeeply_iff] at tooDeep
      cases rejected with
      | stuck _ stuck => exact stuck.deep_of_derives tooDeep goesOn derivation
      | trailing => cases tooDeep
    · obtain ⟨token, again, looked, comesNext, _⟩ | ⟨_, _, _, fails⟩ := after.look_cases
      · rw [tape, next] at comesNext
        cases comesNext
        exact ⟨again, looked⟩
      · rw [← tape, fails] at next
        cases next

/-- In this text the right operand of an addition is missing. What stands before the parenthesis
could go on with a numeral, and no expression goes on with the parenthesis. -/
theorem missing_operand_is_first_fault :
    ∃ before behind,
      (textTape "" "(1 +)").scanned =
        before ++ ⟨.rightParen, ")", ⟨"", 1, 5, 4⟩⟩ :: behind ∧
      Accepts before .integer ∧ ¬ Sentence before ∧
      ∀ sentence last, Sentence sentence → last.type = .endOfInput →
        ¬ before ++ [⟨.rightParen, ")", ⟨"", 1, 5, 4⟩⟩] <+: sentence ++ [last] := by
  have failed : ∃ after, parse "(1 +)" (Scanner.start "" "") =
      .error (.grammar (.unexpected operandStart ⟨.rightParen, ")", ⟨"", 1, 5, 4⟩⟩)) after :=
    ⟨_, rfl⟩
  obtain ⟨after, failed⟩ := failed
  obtain ⟨before, behind, scanned, _, listed, _⟩ := parse_fails_at_first_fault failed
  obtain ⟨impossible, accepts, _, complete⟩ := listed (by decide)
  have incomplete : ¬ Sentence before := fun sentence => absurd (complete.2 sentence) (by decide)
  exact ⟨before, behind, scanned, accepts .integer (by decide), incomplete, impossible⟩

end IntExpr
