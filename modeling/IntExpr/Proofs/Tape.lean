/-
This file looks at a text that is being read as the tape of its tokens: those that are still to
come, and what comes behind the last of them, the end of the input or the first fault that
scanning meets. Looking at the next token leaves the tape as it is, advancing takes one token
off it, and draining lays all of it out. The tape says nothing of how far the scanner has run
ahead, which is why it is the tape that parsing is reasoned about on.
-/

import IntExpr.Scanner

namespace IntExpr

/-! ### Tapes -/

/-- Tokens that are to come and what comes behind them: the end of the input, or a fault in
scanning. -/
structure Tape where
  tokens : List Token
  ending : Except ScanError Token

namespace Tape

/-- What comes next. -/
def next (tape : Tape) : Except ScanError Token :=
  match tape.tokens with
  | [] => tape.ending
  | token :: _ => .ok token

/-- The tape without its next token; what comes behind the tokens stays. -/
def rest (tape : Tape) : Tape := { tape with tokens := tape.tokens.tail }

/-- A tape with a token in front. Nothing comes behind the end of the input. -/
def push (token : Token) (tape : Tape) : Tape :=
  if token.type = .endOfInput then ⟨[], .ok token⟩ else ⟨token :: tape.tokens, tape.ending⟩

/-- A tape with more tokens in front. -/
def prepend (tokens : List Token) (tape : Tape) : Tape :=
  { tape with tokens := tokens ++ tape.tokens }

/-- All that can be scanned: the tokens, and the end of the input if there is no fault. -/
def scanned (tape : Tape) : List Token :=
  match tape.ending with
  | .ok last => tape.tokens ++ [last]
  | .error _ => tape.tokens

/-- Whether nothing but the end of the input comes behind the tokens, if not a fault. -/
def Closed (tape : Tape) : Prop :=
  ∀ last, tape.ending = .ok last → last.type = .endOfInput

/-- Whether the end of the input is behind the tokens and nowhere among them. -/
def EndsOnce (tape : Tape) : Prop :=
  (∀ token ∈ tape.tokens, token.type ≠ .endOfInput) ∧ tape.Closed

@[simp] theorem next_nil (ending : Except ScanError Token) :
    (⟨[], ending⟩ : Tape).next = ending := rfl

@[simp] theorem prepend_nil (tape : Tape) : tape.prepend [] = tape := rfl

@[simp] theorem prepend_append (first second : List Token) (tape : Tape) :
    tape.prepend (first ++ second) = (tape.prepend second).prepend first := by
  simp only [prepend, List.append_assoc]

@[simp] theorem next_prepend_cons (token : Token) (tokens : List Token) (tape : Tape) :
    (tape.prepend (token :: tokens)).next = .ok token := rfl

@[simp] theorem rest_prepend_cons (token : Token) (tokens : List Token) (tape : Tape) :
    (tape.prepend (token :: tokens)).rest = tape.prepend tokens := rfl

@[simp] theorem scanned_prepend (before : List Token) (tape : Tape) :
    (tape.prepend before).scanned = before ++ tape.scanned := by
  cases tape with
  | mk tokens ending => cases ending <;> simp [scanned, prepend]

theorem exists_scanned_of_next {tape : Tape} {token : Token} (next : tape.next = .ok token) :
    ∃ behind, tape.scanned = token :: behind := by
  cases tape with
  | mk tokens ending =>
    cases tokens with
    | nil =>
      rw [show ending = .ok token from next]
      exact ⟨[], rfl⟩
    | cons first others =>
      cases next
      cases ending <;> exact ⟨_, rfl⟩

/-- Something comes next unless the tape is down to the fault behind it. -/
theorem next_cases (tape : Tape) :
    (∃ token, tape.next = .ok token) ∨ ∃ cause, tape = ⟨[], .error cause⟩ := by
  cases tape with
  | mk tokens ending =>
    cases tokens with
    | cons token tokens => exact .inl ⟨token, rfl⟩
    | nil => cases ending with
      | ok last => exact .inl ⟨last, rfl⟩
      | error cause => exact .inr ⟨cause, rfl⟩

theorem Closed.after {tape after : Tape} {taken : List Token} (closed : tape.Closed)
    (split : tape = after.prepend taken) : after.Closed := by
  rw [split] at closed
  exact closed

theorem Closed.rest {tape : Tape} (closed : tape.Closed) : tape.rest.Closed := closed

/-- What comes next, if it is not the end of the input, is the first of the tokens. -/
theorem eq_prepend_of_next {tape : Tape} {token : Token} (closed : tape.Closed)
    (next : tape.next = .ok token) (more : token.type ≠ .endOfInput) :
    tape = tape.rest.prepend [token] := by
  cases tape with
  | mk tokens ending =>
    cases tokens with
    | nil => exact absurd (closed token next) more
    | cons first others =>
      cases next
      rfl

theorem push_of_more {token : Token} (tape : Tape) (more : token.type ≠ .endOfInput) :
    push token tape = ⟨token :: tape.tokens, tape.ending⟩ := if_neg more

theorem push_of_end {token : Token} (tape : Tape) (isEnd : token.type = .endOfInput) :
    push token tape = ⟨[], .ok token⟩ := if_pos isEnd

@[simp] theorem next_push (token : Token) (tape : Tape) : (push token tape).next = .ok token := by
  unfold push
  split <;> rfl

theorem endsOnce_push {token : Token} {tape : Tape} (others : tape.EndsOnce) :
    (push token tape).EndsOnce := by
  by_cases isEnd : token.type = .endOfInput
  · rw [push_of_end tape isEnd]
    refine ⟨by simp, fun last same => ?_⟩
    cases same
    exact isEnd
  · rw [push_of_more tape isEnd]
    exact ⟨List.forall_mem_cons.2 ⟨isEnd, others.1⟩, others.2⟩

/-- Where the end of the input comes next, no tokens are left. -/
theorem EndsOnce.eq_of_next_end {before : List Token} {tape : Tape} {last : Token}
    (endsOnce : (tape.prepend before).EndsOnce) (next : tape.next = .ok last)
    (isEnd : last.type = .endOfInput) : tape = ⟨[], .ok last⟩ := by
  cases tape with
  | mk tokens ending =>
    cases tokens with
    | nil => rw [← show ending = .ok last from next]
    | cons token tokens =>
      cases next
      exact absurd isEnd (endsOnce.1 last (List.mem_append_right _ List.mem_cons_self))

end Tape

/-! ### The tape from a cursor on -/

namespace Cursor

/-- The tape of the text from a cursor on. -/
def tape (filename : String) (cursor : Cursor) : Tape :=
  match _ : cursor.scan filename with
  | (.error cause, _) => ⟨[], .error cause⟩
  | (.ok token, behind) =>
    if _ : token.type = .endOfInput then ⟨[], .ok token⟩
    else ⟨token :: (behind.tape filename).tokens, (behind.tape filename).ending⟩
termination_by cursor.rest.length
decreasing_by all_goals exact scan_shorter ‹_› ‹_›

theorem tape_of_scan_error {filename : String} {cursor behind : Cursor} {cause : ScanError}
    (scanned : cursor.scan filename = (.error cause, behind)) :
    cursor.tape filename = ⟨[], .error cause⟩ := by
  rw [tape]
  split
  · rename_i here
    rw [scanned] at here
    cases here
    rfl
  · rename_i here
    rw [scanned] at here
    cases here

theorem tape_of_scan_ok {filename : String} {cursor behind : Cursor} {token : Token}
    (scanned : cursor.scan filename = (.ok token, behind)) :
    cursor.tape filename = Tape.push token (behind.tape filename) := by
  rw [tape]
  split
  · rename_i here
    rw [scanned] at here
    cases here
  · rename_i here
    rw [scanned] at here
    cases here
    rfl

theorem endsOnce_tape (filename : String) (cursor : Cursor) :
    (cursor.tape filename).EndsOnce := by
  induction cursor using tape.induct filename with
  | case1 cursor cause behind scanned =>
    rw [tape_of_scan_error scanned]
    exact ⟨by simp, fun _ same => by cases same⟩
  | case2 cursor token behind scanned isEnd =>
    rw [tape_of_scan_ok scanned, Tape.push_of_end _ isEnd]
    refine ⟨by simp, fun last same => ?_⟩
    cases same
    exact isEnd
  | case3 cursor token behind scanned more inductionHypothesis =>
    rw [tape_of_scan_ok scanned]
    exact Tape.endsOnce_push inductionHypothesis

/-- There are no more tokens on the tape than characters from the cursor on. -/
theorem length_tape_le (filename : String) (cursor : Cursor) :
    (cursor.tape filename).tokens.length ≤ cursor.rest.length := by
  induction cursor using tape.induct filename with
  | case1 cursor cause behind scanned =>
    rw [tape_of_scan_error scanned]
    exact Nat.zero_le _
  | case2 cursor token behind scanned isEnd =>
    rw [tape_of_scan_ok scanned, Tape.push_of_end _ isEnd]
    exact Nat.zero_le _
  | case3 cursor token behind scanned more inductionHypothesis =>
    rw [tape_of_scan_ok scanned, Tape.push_of_more _ more]
    exact Nat.lt_of_le_of_lt inductionHypothesis (scan_shorter scanned more)

end Cursor

/-! ### The tape that a scanner reads -/

namespace Scanner

/-- The tape of what a scanner has not yet handed out: the held token comes first. -/
def tape (scanner : Scanner) : Tape :=
  match scanner.held with
  | none => scanner.cursor.tape scanner.filename
  | some token => Tape.push token (scanner.cursor.tape scanner.filename)

theorem endsOnce_tape (scanner : Scanner) : scanner.tape.EndsOnce := by
  unfold tape
  split
  · exact Cursor.endsOnce_tape _ _
  · exact Tape.endsOnce_push (Cursor.endsOnce_tape _ _)

/-- What is unread bounds the tokens that are left. -/
theorem length_tape_le (scanner : Scanner) : scanner.tape.tokens.length ≤ scanner.unread := by
  have behind := scanner.cursor.length_tape_le scanner.filename
  unfold tape unread
  cases scanner.held with
  | none => exact behind
  | some token =>
    show (Tape.push token _).tokens.length ≤ _ + 1
    unfold Tape.push
    split
    · exact Nat.zero_le _
    · exact Nat.succ_le_succ behind

/-- Looking shows what comes next and leaves the tape as it is; it fails with the fault that comes
next. -/
theorem look_cases (scanner : Scanner) :
    (∃ token after, look scanner = .ok token after ∧ scanner.tape.next = .ok token ∧
        after.tape = scanner.tape ∧ after.held = some token) ∨
      ∃ cause after, look scanner = .error cause after ∧ scanner.tape = ⟨[], .error cause⟩ := by
  cases held : scanner.held with
  | some token =>
    refine .inl ⟨token, scanner, by simp only [look, held], ?_, rfl, held⟩
    simp only [tape, held, Tape.next_push]
  | none =>
    cases scanned : scanner.cursor.scan scanner.filename with
    | mk result behind =>
      cases result with
      | error cause =>
        refine .inr ⟨cause, { scanner with cursor := behind }, by simp only [look, held, scanned],
          ?_⟩
        simp only [tape, held, Cursor.tape_of_scan_error scanned]
      | ok token =>
        refine .inl ⟨token, { scanner with cursor := behind, held := some token },
          by simp only [look, held, scanned], ?_, ?_, rfl⟩
        · simp only [tape, held, Cursor.tape_of_scan_ok scanned, Tape.next_push]
        · simp only [tape, held, Cursor.tape_of_scan_ok scanned]

/-- Behind a held token a scanner reads what it would read if it let go of the token. -/
theorem tape_of_held {scanner : Scanner} {token : Token} (held : scanner.held = some token) :
    scanner.tape = Tape.push token ({ scanner with held := none } : Scanner).tape := by
  simp only [tape, held]

/-- A scanner that holds the end of the input reads nothing behind it. -/
theorem tape_of_held_end {scanner : Scanner} {token : Token} (held : scanner.held = some token)
    (isEnd : token.type = .endOfInput) : scanner.tape = ⟨[], .ok token⟩ := by
  rw [tape_of_held held, Tape.push_of_end _ isEnd]

/-- A token that a scanner lets go of comes off the tape. -/
theorem tape_release {scanner : Scanner} {token : Token} (held : scanner.held = some token)
    (more : token.type ≠ .endOfInput) :
    ({ scanner with held := none } : Scanner).tape = scanner.tape.rest := by
  rw [tape_of_held held, Tape.push_of_more _ more]
  rfl

/-- Advancing takes what comes next off the tape, unless it is the end of the input. -/
theorem advance_of_next {scanner : Scanner} {token : Token}
    (comesNext : scanner.tape.next = .ok token) :
    ∃ after, advance scanner = .ok () after ∧ after.tape = scanner.tape.rest := by
  rcases look_cases scanner with ⟨shown, looked, look, same, tape, held⟩ | ⟨_, _, _, tape⟩
  · rw [comesNext] at same
    cases same
    unfold advance
    rw [look]
    by_cases isEnd : token.type = .endOfInput
    · refine ⟨looked, if_pos isEnd, ?_⟩
      rw [← tape, tape_of_held_end held isEnd]
      rfl
    · refine ⟨{ looked with held := none }, if_neg isEnd, ?_⟩
      rw [tape_release held isEnd, tape]
  · rw [tape, Tape.next_nil] at comesNext
    cases comesNext

theorem drain_of_look_error {scanner after : Scanner} {cause : ScanError}
    (looked : look scanner = .error cause after) : drain scanner = .error cause after := by
  rw [drain]
  split
  · rename_i here
    rw [looked] at here
    cases here
    rfl
  · rename_i here
    rw [looked] at here
    cases here

theorem drain_of_look_end {scanner behind : Scanner} {token : Token}
    (looked : look scanner = .ok token behind) (isEnd : token.type = .endOfInput) :
    drain scanner = .ok [token] behind := by
  rw [drain]
  split
  · rename_i here
    rw [looked] at here
    cases here
  · rename_i here
    rw [looked] at here
    cases here
    exact dif_pos isEnd

theorem drain_of_look_more {scanner behind : Scanner} {token : Token}
    (looked : look scanner = .ok token behind) (more : token.type ≠ .endOfInput) :
    drain scanner =
      match drain { behind with held := none } with
      | .ok tokens after => .ok (token :: tokens) after
      | .error cause after => .error cause after := by
  rw [drain]
  split
  · rename_i here
    rw [looked] at here
    cases here
  · rename_i here
    rw [looked] at here
    cases here
    exact dif_neg more

/-- Draining lays the tape out, or fails with the fault that comes behind the tokens. -/
theorem drain_cases (scanner : Scanner) :
    (∃ last after, scanner.tape.ending = .ok last ∧
        drain scanner = .ok (scanner.tape.tokens ++ [last]) after) ∨
      ∃ cause after, scanner.tape.ending = .error cause ∧
        drain scanner = .error cause after := by
  obtain ⟨tokens, laidOut⟩ : ∃ tokens, scanner.tape.tokens = tokens := ⟨_, rfl⟩
  induction tokens generalizing scanner with
  | nil =>
    rcases look_cases scanner with ⟨last, after, look, next, _, _⟩ | ⟨cause, after, look, tape⟩
    · have ending : scanner.tape.ending = .ok last := by
        rw [Tape.next, laidOut] at next
        exact next
      have isEnd := scanner.endsOnce_tape.2 last ending
      exact .inl ⟨last, after, ending, by rw [drain_of_look_end look isEnd, laidOut]; rfl⟩
    · exact .inr ⟨cause, after, by rw [tape], drain_of_look_error look⟩
  | cons token tokens inductionHypothesis =>
    rcases look_cases scanner with ⟨shown, behind, look, next, tape, held⟩ | ⟨_, _, _, tape⟩
    · rw [Tape.next, laidOut] at next
      cases next
      have more : token.type ≠ .endOfInput :=
        scanner.endsOnce_tape.1 token (by rw [laidOut]; exact List.mem_cons_self)
      have released := tape_release held more
      rw [tape] at released
      have others := inductionHypothesis { behind with held := none }
        (by rw [released, Tape.rest, laidOut, List.tail_cons])
      rw [released, Tape.rest, laidOut] at others
      rw [drain_of_look_more look more, laidOut]
      rcases others with ⟨last, after, ending, drained⟩ | ⟨cause, after, ending, drained⟩
      · exact .inl ⟨last, after, ending, by rw [drained]; rfl⟩
      · exact .inr ⟨cause, after, ending, by rw [drained]⟩
    · rw [tape] at laidOut
      cases laidOut

end Scanner

/-! ### The tape of a text -/

/-- The tape of a named text. -/
def textTape (filename source : String) : Tape :=
  (Cursor.start source.toList).tape filename

theorem tape_start (filename source : String) :
    (Scanner.start filename source).tape = textTape filename source := rfl

/-- The tokens of a text are those on its tape with the end of the input behind them. -/
theorem tokenize_eq (filename source : String) :
    tokenize filename source =
      (textTape filename source).ending.map ((textTape filename source).tokens ++ [·]) := by
  rw [tokenize, ← tape_start]
  rcases (Scanner.start filename source).drain_cases with ⟨last, after, ending, drained⟩ |
    ⟨cause, after, ending, drained⟩
  · rw [drained, ending]
    rfl
  · rw [drained, ending]
    rfl

/-- Tokenizing succeeds exactly if the tape ends in the end of the input. -/
theorem tokenize_eq_ok_iff (filename source : String) (tokens : List Token) :
    tokenize filename source = .ok tokens ↔
      ∃ read last, textTape filename source = ⟨read, .ok last⟩ ∧ tokens = read ++ [last] := by
  rw [tokenize_eq]
  cases textTape filename source with
  | mk read ending =>
    cases ending with
    | error cause => simp [Except.map]
    | ok last =>
      simp only [Except.map, Except.ok.injEq, Tape.mk.injEq]
      constructor
      · rintro rfl
        exact ⟨read, last, ⟨rfl, rfl⟩, rfl⟩
      · rintro ⟨_, _, ⟨rfl, rfl⟩, rfl⟩
        rfl

/-- The last of the tokens of a text is the end of its tape. -/
theorem textTape_of_tokenize {filename source : String} {tokens : List Token} {last : Token}
    (tokenized : tokenize filename source = .ok (tokens ++ [last])) :
    textTape filename source = ⟨tokens, .ok last⟩ := by
  obtain ⟨read, final, tape, same⟩ := (tokenize_eq_ok_iff _ _ _).1 tokenized
  obtain ⟨rfl, final⟩ := List.append_inj' same rfl
  cases final
  exact tape

/-- Tokenizing fails exactly with the fault that the tape ends in. -/
theorem tokenize_eq_error_iff (filename source : String) (cause : ScanError) :
    tokenize filename source = .error cause ↔
      ∃ read, textTape filename source = ⟨read, .error cause⟩ := by
  rw [tokenize_eq]
  cases textTape filename source with
  | mk read ending => cases ending <;> simp [Except.map]

end IntExpr
