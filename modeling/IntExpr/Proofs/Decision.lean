/-
This file says at which token a text is decided. The parser, which scans as it goes, does what it
does on a tape of all that can be scanned; and it decides there at one item, behind tokens that it
has taken: whatever stands in that place it asks for, and nothing behind it makes a difference. If
the item is a fault of scanning then that is the outcome, and a fault of the grammar is one that is
found there. So of two faults in a text the one that comes first wins, the text behind the token
that a fault is found at can be replaced by another, and texts of the same words have the same
outcome.
-/

import IntExpr.Proofs.Spelling

namespace IntExpr

open TapeParse

/-! ### Items of a tape -/

namespace Tape

/-- The tokens of a tape and what comes behind them, in a row. -/
def items (tape : Tape) : List (Except ScanError Token) :=
  tape.tokens.map .ok ++ [tape.ending]

variable {tape after : Tape} {taken : List Token} {stop : Except ScanError Token}
  {behind : List (Except ScanError Token)}

theorem exists_items (tape : Tape) : ∃ behind, tape.items = tape.next :: behind := by
  cases tape with
  | mk tokens ending => cases tokens <;> exact ⟨_, rfl⟩

theorem items_prepend (taken : List Token) (after : Tape) :
    (after.prepend taken).items = taken.map .ok ++ after.items := by
  rw [items, items, prepend, List.map_append, List.append_assoc]

/-- A tape can be taken apart in front of any of its items. -/
theorem exists_prepend (shape : tape.items = taken.map .ok ++ stop :: behind) :
    ∃ after : Tape, tape = after.prepend taken ∧ after.next = stop := by
  induction taken generalizing tape with
  | nil =>
    obtain ⟨others, items⟩ := tape.exists_items
    rw [items] at shape
    exact ⟨tape, rfl, (List.cons_eq_cons.1 shape).1⟩
  | cons token taken inductionHypothesis =>
    cases tape with
    | mk tokens ending =>
      cases tokens with
      | nil =>
        have length := congrArg List.length shape
        simp [items] at length
      | cons first tokens =>
        obtain ⟨same, others⟩ := List.cons_eq_cons.1 shape
        cases same
        obtain ⟨after, split, next⟩ := @inductionHypothesis ⟨tokens, ending⟩ others
        cases split
        exact ⟨after, rfl, next⟩

end Tape

/-! ### Where a tape is decided -/

/-- What the parser makes of a tape. -/
def Tape.parsed (tape : Tape) : Except ParseError Expr :=
  match whole tape with
  | .ok expr _ => .ok expr
  | .error cause _ => .error cause

/-- Behind some tokens the parser asks for what comes next, so that a fault of scanning there is
its outcome. -/
def Asks (taken : List Token) : Prop :=
  ∀ cause, (⟨taken, .error cause⟩ : Tape).parsed = .error (.scan cause)

/-- The tape that a run leaves. -/
def leftTape {Result : Type} : EStateM.Result ParseError Tape Result → Tape
  | .ok _ tape | .error _ tape => tape

/-- What is rejected behind some tokens is rejected whatever else is on the tape. -/
theorem Rejected.whole_eq {before : List Token} {cause : GrammarError}
    (rejected : Rejected before cause) {after : Tape} (next : after.next = .ok cause.found) :
    whole (after.prepend before) = .error (.grammar cause) after := by
  cases rejected with
  | stuck _ stuck => exact whole_of_error (stuck.expression_eq next)
  | trailing expr found reading shallow stops more =>
    change after.next = .ok found at next
    rw [whole_of_ok (reading.expression_eq shallow next stops) next, if_neg more]

theorem Accepted.whole_eq {tokens : List Token} {expr : Expr} {after : Tape}
    (accepted : Accepted tokens expr after) : whole (after.prepend tokens) = .ok expr after := by
  obtain ⟨reading, shallow, last, next, isEnd⟩ := accepted
  have stops : Level.conditional.StopsBefore expr last.type := by
    rw [isEnd]
    exact Level.stopsBefore_endOfInput _ _
  rw [whole_of_ok (reading.expression_eq shallow next stops) next, if_pos isEnd]

/-- The parser asks for what comes next on the tape that it leaves. -/
theorem asks_of_left {taken : List Token} {after : Tape}
    (left : leftTape (whole (after.prepend taken)) = after) : Asks taken := by
  intro cause
  -- A run that ends in front of that leaves more on the tape.
  have sooner {first : List Token} {other : Tape} {token : Token}
      (split : (⟨taken, .error cause⟩ : Tape) = other.prepend first) (next : other.next = .ok token)
      (ends : ∀ rest : Tape, rest.next = .ok token →
        leftTape (whole (rest.prepend first)) = rest) : False := by
    obtain ⟨tokens, ending⟩ := other
    injection split with sameTokens sameEnding
    subst sameTokens sameEnding
    cases tokens with
    | nil => cases next
    | cons first tokens =>
      cases next
      have longer := ends (after.prepend (token :: tokens)) rfl
      rw [← Tape.prepend_append, left] at longer
      have length := congrArg (·.tokens.length) longer
      simp [Tape.prepend] at length
      omega
  have closed : (⟨taken, .error cause⟩ : Tape).Closed := fun _ same => by cases same
  have outcome := outcome_whole closed
  rw [Tape.parsed]
  generalize whole ⟨taken, .error cause⟩ = result at outcome
  cases outcome with
  | done tokens expr other split accepted =>
    obtain ⟨reading, shallow, last, next, isEnd⟩ := accepted
    refine (sooner split next fun rest restNext => ?_).elim
    rw [Accepted.whole_eq ⟨reading, shallow, last, restNext, isEnd⟩]
    rfl
  | fault before found other split next rejected =>
    refine (sooner split next fun rest restNext => ?_).elim
    rw [rejected.whole_eq restNext]
    rfl
  | unscanned found ending =>
    cases ending
    rfl

/-- The parser decides on a tape at an item behind some tokens. -/
structure DecidesAt (tape : Tape) (taken : List Token) (stop : Except ScanError Token) : Prop where
  /-- The item is there, behind the tokens. -/
  reached : ∃ behind, tape.items = taken.map .ok ++ stop :: behind
  /-- The parser asks for what is in its place. -/
  asks : Asks taken
  /-- Nothing behind the item makes a difference. -/
  enough : ∀ other : Tape, (∃ behind, other.items = taken.map .ok ++ stop :: behind) →
    other.parsed = tape.parsed
  /-- A fault of scanning is the outcome exactly if it is the item. -/
  scan : ∀ cause, tape.parsed = .error (.scan cause) ↔ stop = .error cause
  /-- A fault of the grammar is one that is found at the item. -/
  grammar : ∀ cause, tape.parsed = .error (.grammar cause) → stop = .ok cause.found

/-- The parser decides at what comes next on the tape that it leaves, if that much of the tape is
enough for what it makes of it. -/
theorem DecidesAt.ofLeft {taken : List Token} {after : Tape}
    (left : leftTape (whole (after.prepend taken)) = after)
    (enough : ∀ rest : Tape, rest.next = after.next →
      (rest.prepend taken).parsed = (after.prepend taken).parsed)
    (scan : ∀ cause, (after.prepend taken).parsed = .error (.scan cause) ↔
      after.next = .error cause)
    (grammar : ∀ cause, (after.prepend taken).parsed = .error (.grammar cause) →
      after.next = .ok cause.found) :
    DecidesAt (after.prepend taken) taken after.next where
  reached := by
    obtain ⟨behind, items⟩ := after.exists_items
    exact ⟨behind, by rw [Tape.items_prepend, items]⟩
  asks := asks_of_left left
  enough := by
    rintro other ⟨behind, items⟩
    obtain ⟨rest, rfl, next⟩ := Tape.exists_prepend items
    exact enough rest next
  scan := scan
  grammar := grammar

/-- There is an item at which the parser decides. -/
theorem exists_decidesAt {tape : Tape} (closed : tape.Closed) :
    ∃ taken stop, DecidesAt tape taken stop := by
  have outcome := outcome_whole closed
  generalize ran : whole tape = result at outcome
  cases outcome with
  | done tokens expr after split accepted =>
    subst split
    obtain ⟨reading, shallow, last, next, isEnd⟩ := accepted
    have parsed : ∀ rest : Tape, rest.next = .ok last →
        (rest.prepend tokens).parsed = .ok expr := by
      intro rest restNext
      rw [Tape.parsed, Accepted.whole_eq ⟨reading, shallow, last, restNext, isEnd⟩]
    refine ⟨tokens, after.next, .ofLeft (by rw [ran]; rfl) (fun rest same => ?_) ?_ ?_⟩
    · rw [parsed after next, parsed rest (same.trans next)]
    · simp [parsed after next, next]
    · simp [parsed after next]
  | fault before cause after split next rejected =>
    subst split
    have parsed : ∀ rest : Tape, rest.next = .ok cause.found →
        (rest.prepend before).parsed = .error (.grammar cause) := by
      intro rest restNext
      rw [Tape.parsed, rejected.whole_eq restNext]
    refine ⟨before, after.next, .ofLeft (by rw [ran]; rfl) (fun rest same => ?_) ?_ ?_⟩
    · rw [parsed after next, parsed rest (same.trans next)]
    · simp [parsed after next, next]
    · simp [parsed after next, next]
  | unscanned cause ending =>
    obtain ⟨tokens, _⟩ := tape
    subst ending
    have split : (⟨tokens, .error cause⟩ : Tape) = (⟨[], .error cause⟩ : Tape).prepend tokens := by
      rw [Tape.prepend, List.append_nil]
    have parsed : (⟨tokens, .error cause⟩ : Tape).parsed = .error (.scan cause) := by
      rw [Tape.parsed, ran]
    rw [split] at ran parsed ⊢
    refine ⟨tokens, _, .ofLeft (by rw [ran]; rfl) (fun rest same => ?_) ?_ ?_⟩
    · obtain ⟨token, next⟩ | ⟨found, rfl⟩ := rest.next_cases
      · rw [next] at same
        cases same
      · cases same
        rfl
    · simp [parsed, Tape.next]
    · simp [parsed]

/-- A fault of scanning is the outcome exactly if it comes behind the tokens and the parser asks for
it. -/
theorem Tape.parsed_eq_scan_iff {tape : Tape} (closed : tape.Closed) (cause : ScanError) :
    tape.parsed = .error (.scan cause) ↔ tape.ending = .error cause ∧ Asks tape.tokens := by
  constructor
  · intro parsed
    obtain ⟨taken, stop, ⟨behind, items⟩, asks, _, scan, _⟩ := exists_decidesAt closed
    rw [(scan cause).1 parsed] at items
    obtain ⟨after, rfl, next⟩ := exists_prepend items
    obtain ⟨token, comesNext⟩ | ⟨found, rfl⟩ := after.next_cases
    · rw [comesNext] at next
      cases next
    · cases next
      exact ⟨rfl, by rwa [prepend, List.append_nil]⟩
  · rintro ⟨ending, asks⟩
    obtain ⟨tokens, _⟩ := tape
    subst ending
    exact asks cause

/-! ### Where a text is decided -/

theorem parseText_eq_parsed (filename source : String) :
    parseText filename source = (textTape filename source).parsed := parseText_eq filename source

/-- A fault of the grammar is found behind tokens that are rejected there. -/
theorem exists_rejected {filename source : String} {cause : GrammarError}
    (failed : parseText filename source = .error (.grammar cause)) :
    ∃ before, ∃ after : Tape, textTape filename source = after.prepend before ∧
      after.next = .ok cause.found ∧ Rejected before cause := by
  rw [parseText_eq] at failed
  have outcome := outcome_whole (endsOnce_textTape filename source).2
  generalize whole (textTape filename source) = result at outcome failed
  cases outcome with
  | done => cases failed
  | unscanned => cases failed
  | fault before found after split next rejected =>
    cases failed
    exact ⟨before, after, split, next, rejected⟩

theorem Rejected.parseText_eq {filename source : String} {before : List Token}
    {cause : GrammarError} {after : Tape} (rejected : Rejected before cause)
    (tape : textTape filename source = after.prepend before)
    (next : after.next = .ok cause.found) :
    parseText filename source = .error (.grammar cause) := by
  rw [parseText_eq_parsed, Tape.parsed, tape, rejected.whole_eq next]

/-- The text behind the token that a fault is found at makes no difference. -/
theorem parseText_of_cut {filename source other : String} {cause : GrammarError}
    (failed : parseText filename source = .error (.grammar cause))
    (more : cause.found.type ≠ .endOfInput)
    (same : other.toList.take (cause.found.location.offset + cause.found.lexeme.length) =
      source.toList.take (cause.found.location.offset + cause.found.lexeme.length))
    (again : ∃ found ∈ (textTape filename other).tokens, found.lexeme = cause.found.lexeme ∧
      found.location.offset = cause.found.location.offset) :
    parseText filename other = .error (.grammar cause) := by
  obtain ⟨before, after, split, next, rejected⟩ := exists_rejected failed
  have closed : after.Closed := (endsOnce_textTape filename source).2.after split
  rw [after.eq_prepend_of_next closed next more, ← Tape.prepend_append] at split
  have tape : textTape filename source =
      ⟨before ++ cause.found :: after.rest.tokens, after.rest.ending⟩ := by
    rw [split, Tape.prepend, List.append_assoc, List.singleton_append]
  obtain ⟨others, ending, otherTape⟩ := textTape_of_cut tape same again
  have otherSplit : textTape filename other =
      (⟨cause.found :: others, ending⟩ : Tape).prepend before := otherTape
  exact rejected.parseText_eq otherSplit rfl

theorem GrammarError.fault_refound {cause : GrammarError} {token : Token}
    (sameType : token.type = cause.found.type) : (cause.refound token).fault = cause.fault := by
  cases cause with
  | unexpected expected found =>
    rw [refound, fault, fault, show token.type = found.type from sameType]
  | _ => rfl

@[simp] theorem GrammarError.expected_refound (token : Token) (cause : GrammarError) :
    (cause.refound token).expected = cause.expected := by
  cases cause <;> rfl

/-- Two outcomes of parsing agree: they are trees that are alike, or faults of the grammar with the
same code, the same expectation and the same index in two rows of tokens. -/
inductive SameOutcome (tokens otherTokens : List Token) :
    Except ParseError Expr → Except ParseError Expr → Prop
  | tree (expr other : Expr) (alike : other.Alike expr) :
    SameOutcome tokens otherTokens (.ok expr) (.ok other)
  | fault (cause other : GrammarError) (index : Nat) (code : other.fault.code = cause.fault.code)
      (expected : other.expected = cause.expected) (found : tokens[index]? = some cause.found)
      (otherFound : otherTokens[index]? = some other.found) :
    SameOutcome tokens otherTokens (.error (.grammar cause)) (.error (.grammar other))

/-- The tape of a text that can be tokenized shows its tokens. -/
theorem items_of_tokenize {filename source : String} {tokens : List Token}
    (tokenized : tokenize filename source = .ok tokens) :
    (textTape filename source).items = tokens.map .ok := by
  obtain ⟨read, last, tape, rfl⟩ := (tokenize_eq_ok_iff _ _ _).1 tokenized
  rw [tape, Tape.items, List.map_append]
  rfl

/-- Texts of the same words have the same outcome. -/
theorem sameOutcome_of_sameWords {filename otherName source other : String}
    {tokens otherTokens : List Token} (tokenized : tokenize filename source = .ok tokens)
    (otherTokenized : tokenize otherName other = .ok otherTokens)
    (same : SameWords otherTokens tokens) :
    SameOutcome tokens otherTokens (parseText filename source) (parseText otherName other) := by
  have items := items_of_tokenize otherTokenized
  obtain ⟨read, last, tape, rfl⟩ := (tokenize_eq_ok_iff _ _ _).1 tokenized
  obtain ⟨otherRead, otherLast, otherTape, rfl⟩ := (tokenize_eq_ok_iff _ _ _).1 otherTokenized
  cases parsed : parseText filename source with
  | ok expr =>
    obtain ⟨_, _, sameTape, reading, shallow⟩ := (parseText_eq_ok_iff _ _ _).1 parsed
    cases tape.symm.trans sameTape
    obtain ⟨front, back, split, sameFront, sameBack⟩ := same.exists_append
    obtain ⟨_, rfl, _⟩ := sameBack.exists_singleton
    obtain ⟨rfl, _⟩ := List.append_inj' split rfl
    obtain ⟨tree, otherReading, alike⟩ := reading.ofWords sameFront
    rw [(parseText_eq_ok_iff otherName other tree).2
      ⟨otherRead, otherLast, otherTape, otherReading, by rwa [alike.nesting_eq]⟩]
    exact .tree expr tree alike
  | error failure =>
    cases failure with
    | scan cause =>
      rw [parseText_eq_parsed, tape,
        Tape.parsed_eq_scan_iff (by rw [← tape]; exact (endsOnce_textTape _ _).2)] at parsed
      cases parsed.1
    | grammar cause =>
      obtain ⟨before, after, split, next, rejected⟩ := exists_rejected parsed
      obtain ⟨behind, scanned⟩ := Tape.exists_scanned_of_next next
      have shape : read ++ [last] = before ++ cause.found :: behind := by
        rw [← scanned, ← Tape.scanned_prepend, ← split, tape]
        rfl
      rw [shape] at same
      obtain ⟨otherBefore, rest, otherShape, sameBefore, sameRest⟩ := same.exists_append
      obtain ⟨found, otherBehind, rfl, sameFound, _⟩ := sameRest.exists_cons
      have sameType := Token.type_eq_of_word sameFound
      rw [otherShape, List.map_append, List.map_cons] at items
      obtain ⟨otherAfter, otherSplit, otherNext⟩ := Tape.exists_prepend items
      have otherRejected := rejected.ofWords sameBefore sameType
      rw [otherRejected.parseText_eq otherSplit (by rw [otherNext, GrammarError.found_refound])]
      have length : otherBefore.length = before.length := by
        simpa using congrArg List.length sameBefore
      refine .fault cause _ before.length (by rw [GrammarError.fault_refound sameType])
        (GrammarError.expected_refound found cause) (by simp [shape]) ?_
      rw [otherShape, ← length, GrammarError.found_refound]
      simp

/-- Parsing a text refines parsing the tape of all that can be scanned of it. The outcome is that
of the tape, and a fault of scanning exactly if the parser asks for it; nothing behind the item
that the parser decides at makes a difference. So the text behind the token that a fault is found
at can be replaced by another, and texts of the same words have the same outcome. -/
theorem parseText_refines_tape (filename source : String) :
    parseText filename source = (textTape filename source).parsed ∧
    (∀ cause, parseText filename source = .error (.scan cause) ↔
      (textTape filename source).ending = .error cause ∧ Asks (textTape filename source).tokens) ∧
    (∃ taken stop, DecidesAt (textTape filename source) taken stop) ∧
    (∀ cause other, parseText filename source = .error (.grammar cause) →
      cause.found.type ≠ .endOfInput →
      other.toList.take (cause.found.location.offset + cause.found.lexeme.length) =
        source.toList.take (cause.found.location.offset + cause.found.lexeme.length) →
      (∃ found ∈ (textTape filename other).tokens, found.lexeme = cause.found.lexeme ∧
        found.location.offset = cause.found.location.offset) →
      parseText filename other = .error (.grammar cause)) ∧
    ∀ otherName other tokens otherTokens, tokenize filename source = .ok tokens →
      tokenize otherName other = .ok otherTokens → SameWords otherTokens tokens →
      SameOutcome tokens otherTokens (parseText filename source) (parseText otherName other) := by
  have closed := (endsOnce_textTape filename source).2
  refine ⟨parseText_eq_parsed filename source, fun cause => ?_, exists_decidesAt closed,
    fun _ _ => parseText_of_cut, fun _ _ _ _ => sameOutcome_of_sameWords⟩
  rw [parseText_eq_parsed]
  exact Tape.parsed_eq_scan_iff closed cause

/-- In this text an operand is missing in front of a parenthesis, and the character behind that is
not looked at. So there is the same fault where a numeral stands behind it. -/
theorem missing_operand_decides :
    parseText "" "(1 +) 2" =
      .error (.grammar (.unexpected operandStart ⟨.rightParen, ")", ⟨"", 1, 5, 4⟩⟩)) := by
  have failed : parseText "" "(1 +) %" =
      .error (.grammar (.unexpected operandStart ⟨.rightParen, ")", ⟨"", 1, 5, 4⟩⟩)) := rfl
  have tokenized : tokenize "" "(1 +) 2" = .ok
      ([⟨.leftParen, "(", ⟨"", 1, 1, 0⟩⟩, ⟨.integer, "1", ⟨"", 1, 2, 1⟩⟩,
        ⟨.operator .plus, "+", ⟨"", 1, 4, 3⟩⟩, ⟨.rightParen, ")", ⟨"", 1, 5, 4⟩⟩,
        ⟨.integer, "2", ⟨"", 1, 7, 6⟩⟩] ++ [⟨.endOfInput, "", ⟨"", 1, 8, 7⟩⟩]) := by
    decide +kernel
  obtain ⟨_, _, _, replaced, _⟩ := parseText_refines_tape "" "(1 +) %"
  refine replaced (.unexpected operandStart ⟨.rightParen, ")", ⟨"", 1, 5, 4⟩⟩) "(1 +) 2" failed
    (by decide) (by decide) ⟨⟨.rightParen, ")", ⟨"", 1, 5, 4⟩⟩, ?_, rfl, rfl⟩
  rw [textTape_of_tokenize tokenized]
  decide

end IntExpr
