/-
This file proves that the parser, which scans a token when it first looks at it, does what the
parser on a tape does, where all the tokens lie ready. The two come to the same: they return the
same and leave the same tape, they give up for the same cause at the same place, or they meet the
same fault in scanning. How far the scanner has run ahead makes no difference.
-/

import IntExpr.Proofs.Simulation
import IntExpr.Proofs.TapeParser

namespace IntExpr

/-! ### Reading from a scanner -/

namespace Parse

variable {scanner : Scanner} {token : Token}

/-- Looking shows what comes next on the tape, again and again; it fails with the fault that comes
next. -/
theorem peek_cases (scanner : Scanner) :
    (∃ token after, peek scanner = .ok token after ∧ peek after = .ok token after ∧
        scanner.tape.next = .ok token ∧ after.tape = scanner.tape) ∨
      ∃ cause after, peek scanner = .error (.scan cause) after ∧
        scanner.tape.next = .error cause := by
  unfold peek ofScan
  obtain ⟨token, after, looked, next, same, _⟩ | ⟨cause, after, looked, fails⟩ :=
    scanner.look_cases
  · refine .inl ⟨token, after, ?_, ?_, next, same⟩
    · rw [looked]
    · rw [Scanner.look_of_look looked]
  · refine .inr ⟨cause, after, ?_, ?_⟩
    · rw [looked]
    · rw [fails]
      rfl

theorem next_of_peek (shown : peek scanner = .ok token scanner) :
    scanner.tape.next = .ok token := by
  rcases peek_cases scanner with ⟨_, _, peeked, _, next, _⟩ | ⟨_, _, failed, _⟩
  · rw [shown] at peeked
    cases peeked
    exact next
  · rw [shown] at failed
    cases failed

/-- Taking the token that was looked at takes it off the tape. -/
theorem take_of_peek (shown : peek scanner = .ok token scanner) :
    ∃ after, take scanner = .ok token after ∧ after.tape = scanner.tape.rest := by
  obtain ⟨after, advanced, rest⟩ := Scanner.advance_of_next (next_of_peek shown)
  have ran : ofScan Scanner.advance scanner = .ok () after := by rw [ofScan, advanced]
  refine ⟨after, ?_, rest⟩
  rw [take, bind_of_ok shown, bind_of_ok ran]
  rfl

end Parse

theorem Scanner.length_rest_lt {scanner : Scanner} {token : Token}
    (next : scanner.tape.next = .ok token) (more : token.type ≠ .endOfInput) :
    scanner.tape.rest.tokens.length < scanner.tape.tokens.length := by
  have taken := Tape.eq_prepend_of_next scanner.endsOnce_tape.2 next more
  have length := congrArg (·.tokens.length) taken
  simp only [Tape.prepend, List.length_append, List.length_singleton] at length
  omega

/-! ### Scanner and tape -/

/-- A scanner has a tape ahead of it, and after a fault of scanning nothing is known of what is
ahead. -/
def scannerTape : Parser.Relation Scanner Tape where
  near _ scanner tape := tape = scanner.tape
  endsAt _ _ _ := True
  ahead tape := tape.tokens.length
  apart cause scanner tape := ∀ fault, cause = .grammar fault → tape = scanner.tape

theorem scannerTape_simulation :
    Parser.Simulation scannerTape Parse.parser TapeParse.parser Eq where
  peek := by
    rintro _ scanner _ rfl
    show Paired _ _ (Parse.peek scanner) _
    rcases Parse.peek_cases scanner with ⟨token, after, peeked, again, next, same⟩ |
      ⟨cause, after, failed, fails⟩
    · rw [peeked, TapeParse.peek_of_next next, ← same]
      rw [← same] at next
      exact .ok token after after.tape
        ⟨rfl, again, TapeParse.peek_of_next next, rfl, fun _ _ => trivial⟩
    · rw [failed, TapeParse.peek_of_fault fails]
      exact .error _ after _ fun _ same => by cases same
  take := by
    rintro _ token scanner _ rfl shown _ more
    obtain ⟨after, took, rest⟩ := Parse.take_of_peek shown
    have next := Parse.next_of_peek shown
    show Paired _ _ (Parse.take scanner) _
    rw [took, TapeParse.take_of_next next]
    exact .ok token after _ ⟨rfl, rest.symm, Scanner.length_rest_lt next more, trivial⟩
  fault near _ _ _ := near
  span := by
    intro _ _ _ _ left right _ _ leftSame rightSame _
    have covered := congrArg₂ Span.cover leftSame rightSame
    exact ⟨congrArg (EStateM.Result.ok · _) covered, congrArg (EStateM.Result.ok · _) covered⟩
  unread := by
    rintro _ scanner _ rfl
    exact ⟨scanner.length_tape_le, Nat.le_refl _⟩
  deeper together scanner tape near :=
    (together scanner tape near).mono fun _ _ _ ended => ⟨ended.near, ended.ahead, ended.endsAt⟩
  loosest := rfl
  branch := rfl
  loosest_iff same := by rw [same]; rfl
  operation same type := by
    subst same
    exact Parser.sameOperation_level _ type

/-! ### Whole texts -/

/-- Parsing a text comes to what parsing its tape comes to. -/
theorem paired_parse (source : String) (scanner : Scanner) :
    Paired (fun _ => scannerTape.near nestingLimit) scannerTape.apart (parse source scanner)
      (TapeParse.whole (textTape scanner.filename source)) := by
  have begun : scannerTape.near nestingLimit (scanner.restart source)
      (textTape scanner.filename source) := rfl
  exact scannerTape_simulation.paired_whole_tooDeep begun

/-- The expression that a text holds is the one on its tape. -/
theorem parseText_eq (filename source : String) :
    parseText filename source =
      match TapeParse.whole (textTape filename source) with
      | .ok expr _ => .ok expr
      | .error cause _ => .error cause := by
  have paired := paired_parse source (Scanner.start filename "")
  unfold parseText
  change Paired _ _ _ (TapeParse.whole (textTape filename source)) at paired
  generalize parse source (Scanner.start filename "") = left at paired
  generalize TapeParse.whole (textTape filename source) = right at paired
  cases paired <;> rfl

/-- A text in which the grammar finds a fault has the same fault on its tape, and the scanner is
left in front of what is left on the tape. -/
theorem whole_of_parse_error {source : String} {scanner after : Scanner} {cause : GrammarError}
    (failed : parse source scanner = .error (.grammar cause) after) :
    TapeParse.whole (textTape scanner.filename source) = .error (.grammar cause) after.tape := by
  have paired := paired_parse source scanner
  rw [failed] at paired
  generalize TapeParse.whole (textTape scanner.filename source) = right at paired
  cases paired with
  | error _ _ tape apart => rw [apart cause rfl]

end IntExpr
