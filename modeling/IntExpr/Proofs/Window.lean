/-
This file proves that the window of one token presents one fixed stream, in whatever order it is
looked at, advanced and drained. What a call answers depends only on how far the calls before it
have got: to the token of some index, or, behind the tokens, to the end of the input, where it
stays. A fault in scanning ends the stream. A call that meets it leaves the cursor on the character
that starts nothing, so the next call meets it again, or behind the numeral that is too long, and
from there on it is a stream of its own.
-/

import IntExpr.Proofs.Steps
import IntExpr.Proofs.Tiling

namespace IntExpr

/-! ### Calls -/

/-- What can be asked of a window. -/
inductive Call where
  | look
  | advance
  | drain
deriving DecidableEq, Inhabited

/-- A call with the tokens that it answers. -/
def Call.perform : Call → Scan (List Token)
  | look => do return [← Scanner.look]
  | advance => do
    Scanner.advance
    return []
  | drain => Scanner.drain

/-- If looking fails then every call does, in the same way. -/
theorem Call.perform_of_look_error {scanner after : Scanner} {cause : ScanError}
    (failed : scanner.look = .error cause after) (call : Call) :
    call.perform scanner = .error cause after := by
  cases call with
  | look => rw [Call.perform, bind_of_error failed]
  | advance =>
    have advanceFailed : scanner.advance = .error cause after := by rw [Scanner.advance, failed]
    rw [Call.perform, bind_of_error advanceFailed]
  | drain => exact Scanner.drain_of_look_error failed

/-- Some calls, one after the other, up to the first that fails. -/
def Call.performAll : List Call → Scan Unit
  | [] => return ()
  | call :: calls => do
    let _ ← call.perform
    performAll calls

namespace Tape

/-- What is at an index of a tape: a token, or, behind the tokens, what comes there. -/
def item (tape : Tape) (index : Nat) : Except ScanError Token :=
  match tape.tokens[index]? with
  | some token => .ok token
  | none => tape.ending

/-- The index that calls lead to from an index, if none fails: one further by each that advances,
and behind all tokens by one that drains. -/
def reached (tape : Tape) (index : Nat) (calls : List Call) : Nat :=
  if .drain ∈ calls then tape.tokens.length else index + calls.count .advance

/-- A tape without the tokens in front of an index. -/
def drop (tape : Tape) (index : Nat) : Tape := { tape with tokens := tape.tokens.drop index }

@[simp] theorem next_drop (tape : Tape) (index : Nat) :
    (tape.drop index).next = tape.item index := by
  rw [item, ← List.head?_drop, next, drop]
  cases tape.tokens.drop index <;> rfl

@[simp] theorem rest_drop (tape : Tape) (index : Nat) :
    (tape.drop index).rest = tape.drop (index + 1) := by
  rw [rest, drop, drop, List.tail_drop]

/-- Behind the tokens all indices are alike. -/
theorem drop_of_length_le (tape : Tape) {index : Nat} (behind : tape.tokens.length ≤ index) :
    tape.drop index = ⟨[], tape.ending⟩ := by
  rw [drop, List.drop_of_length_le behind]

/-- One call and then others lead to the index that they lead to together, or to one that is behind
the tokens like that. -/
theorem reached_cons (tape : Tape) (index : Nat) (call : Call) (calls : List Call) :
    tape.reached (tape.reached index [call]) calls = tape.reached index (call :: calls) ∨
      tape.tokens.length ≤ tape.reached (tape.reached index [call]) calls ∧
        tape.tokens.length ≤ tape.reached index (call :: calls) := by
  by_cases drains : .drain ∈ calls
  · simp [reached, drains]
  · cases call with
    | look => exact .inl (by simp [reached, drains])
    | advance =>
      left
      simp only [reached, drains, List.mem_cons, reduceCtorEq, List.not_mem_nil, or_self, if_false,
        List.count_cons_self, List.count_nil]
      omega
    | drain => exact .inr ⟨by simp [reached, drains], by simp [reached]⟩

/-- An index is behind the tokens where a fault comes, and where the end of the input does. -/
theorem drop_of_item_error {tape : Tape} {index : Nat} {cause : ScanError}
    (fault : tape.item index = .error cause) :
    tape.drop index = ⟨[], .error cause⟩ ∧ tape.ending = .error cause := by
  cases found : tape.tokens[index]? with
  | some token =>
    rw [item, found] at fault
    cases fault
  | none =>
    rw [item, found] at fault
    exact ⟨by rw [tape.drop_of_length_le (List.getElem?_eq_none_iff.1 found), ← fault], fault⟩

end Tape

/-! ### Places in a text -/

/-- The scanner between two parts of a text. -/
def Scanner.behind (filename : String) (before rest : List Char) : Scanner :=
  ⟨filename, before ++ rest, .behind before rest, none⟩

/-- Where a fault in scanning a text leaves the cursor: on a character that starts nothing, or
behind a numeral that is too long. -/
inductive StopsAt (filename : String) (text : List Char) : ScanError → Cursor → Prop
  | invalidCharacter (before : List Char) (character : Char) (rest : List Char)
      (split : text = before ++ character :: rest) (lost : StartsNothing character rest) :
    StopsAt filename text (.invalidCharacter character (.behind filename before))
      (.behind before (character :: rest))
  | numeralTooLong (before : List Char) (value : TokenValue) (digits following : List Char)
      (split : text = before ++ (digits ++ following))
      (numeral : Lexeme .integer value digits following) (long : digitLimit < digits.length) :
    StopsAt filename text (.numeralTooLong digits.length) (.behind (before ++ digits) following)

namespace Cursor

/-- A scan that meets a character that starts nothing stays on it. -/
theorem scanToken_of_startsNothing (filename : String) (before : List Char) {character : Char}
    {rest : List Char} (lost : StartsNothing character rest) :
    (behind before (character :: rest)).scanToken filename =
      (.error (.invalidCharacter character (.behind filename before)),
        behind before (character :: rest)) := by
  simp only [scanToken, behind, leadingLexeme_of_startsNothing lost]
  rfl

/-- A scan gets further in its text, up to the end if it comes upon that, or stops at a fault. -/
theorem scan_behind (filename : String) (before rest : List Char) :
    (∃ token front back, (behind before rest).scan filename = (.ok token, behind front back) ∧
        before ++ rest = front ++ back ∧ (token.type = .endOfInput → back = [])) ∨
      ∃ cause stop, (behind before rest).scan filename = (.error cause, stop) ∧
        StopsAt filename (before ++ rest) cause stop := by
  obtain ⟨gap, tail, rfl, layout, noGap⟩ := exists_gap rest
  rw [scan_behind_gap filename before layout noGap]
  rcases lexeme_cases noGap with rfl | ⟨type, value, lexeme, following, rfl, found⟩ |
    ⟨character, others, rfl, lost⟩
  · exact .inl ⟨_, before ++ gap, [], rfl, by simp, fun _ => rfl⟩
  · rw [scanToken_of_lexeme filename _ found]
    by_cases long : type = .integer ∧ digitLimit < lexeme.length
    · rw [if_pos long]
      obtain ⟨rfl, long⟩ := long
      exact .inr ⟨_, _, rfl,
        .numeralTooLong (before ++ gap) value lexeme following (by simp) found long⟩
    · rw [if_neg long]
      exact .inl ⟨_, before ++ gap ++ lexeme, following, rfl, by simp,
        fun isEnd => absurd isEnd found.type_ne_endOfInput⟩
  · exact .inr ⟨_, _, scanToken_of_startsNothing filename _ lost,
      .invalidCharacter (before ++ gap) character others (by simp) lost⟩

end Cursor

namespace Scanner

variable {filename : String} {text : List Char} {scanner after : Scanner} {token : Token}
  {cause : ScanError}

/-- A scanner is somewhere in a text, and at the end of it if it holds the end of the input. -/
structure Within (filename : String) (text : List Char) (scanner : Scanner) : Prop where
  named : scanner.filename = filename
  source : scanner.source = text
  place : ∃ before rest, text = before ++ rest ∧ scanner.cursor = .behind before rest
  ended : ∀ last, scanner.held = some last → last.type = .endOfInput →
    scanner.cursor = .behind text []

theorem within_behind (filename : String) (before rest : List Char) :
    (behind filename before rest).Within filename (before ++ rest) :=
  ⟨rfl, rfl, ⟨before, rest, rfl, rfl⟩, fun _ held => by cases held⟩

/-- Letting go of the held token leaves a scanner where it is. -/
theorem Within.release (within : scanner.Within filename text) :
    ({ scanner with held := none } : Scanner).Within filename text :=
  ⟨within.named, within.source, within.place, fun _ held => by cases held⟩

theorem Within.eq_of_held_end (within : scanner.Within filename text)
    (held : scanner.held = some token) (isEnd : token.type = .endOfInput) :
    scanner = ⟨filename, text, .behind text [], some token⟩ := by
  cases scanner with
  | mk name source cursor window =>
    obtain ⟨rfl, rfl, _, ended⟩ := within
    cases held
    rw [show cursor = _ from ended token rfl isEnd]

/-- Looking leaves a scanner in its text; it fails only where scanning stops. -/
theorem Within.look (within : scanner.Within filename text) :
    (∃ token after, look scanner = .ok token after ∧ after.Within filename text) ∨
      ∃ cause stop, look scanner = .error cause ⟨filename, text, stop, none⟩ ∧
        StopsAt filename text cause stop := by
  obtain ⟨named, source, ⟨before, rest, split, place⟩, ended⟩ := within
  cases held : scanner.held with
  | some token =>
    exact .inl ⟨token, scanner, by simp only [Scanner.look, held],
      named, source, ⟨before, rest, split, place⟩, ended⟩
  | none =>
    rcases Cursor.scan_behind filename before rest with
      ⟨token, front, back, scanned, same, isLast⟩ | ⟨cause, stop, scanned, stops⟩
    · refine .inl ⟨token, { scanner with cursor := .behind front back, held := some token },
        by simp only [Scanner.look, held, named, place, scanned], named, source,
        ⟨front, back, split.trans same, rfl⟩, fun last isHeld isEnd => ?_⟩
      cases isHeld
      obtain rfl := isLast isEnd
      rw [split, same, List.append_nil]
    · refine .inr ⟨cause, stop, ?_, split ▸ stops⟩
      simp only [Scanner.look, held, named, place, scanned, source]

/-! ### Streams -/

/-- A scanner presents a tape from an index on. -/
structure Presents (filename : String) (text : List Char) (tape : Tape) (index : Nat)
    (scanner : Scanner) : Prop where
  within : scanner.Within filename text
  tape_eq : scanner.tape = tape.drop index

namespace Presents

variable {tape : Tape} {index : Nat}

theorem behind (filename : String) (before rest : List Char) :
    (Scanner.behind filename before rest).Presents filename (before ++ rest)
      ((Cursor.behind before rest).tape filename) 0 :=
  ⟨within_behind filename before rest, rfl⟩

/-- Behind the tokens a scanner presents the tape from every index on. -/
theorem ofBehind (presents : scanner.Presents filename text tape index)
    (here : tape.tokens.length ≤ index) {other : Nat} (there : tape.tokens.length ≤ other) :
    scanner.Presents filename text tape other :=
  ⟨presents.within, by
    rw [presents.tape_eq, tape.drop_of_length_le here, tape.drop_of_length_le there]⟩

/-- Looking shows what is at the index: a token, which is held, or a fault, where scanning
stops. -/
theorem look_cases (presents : scanner.Presents filename text tape index) :
    (∃ token after, look scanner = .ok token after ∧ tape.item index = .ok token ∧
        after.held = some token ∧ after.Presents filename text tape index) ∨
      ∃ cause stop, look scanner = .error cause ⟨filename, text, stop, none⟩ ∧
        tape.item index = .error cause ∧ StopsAt filename text cause stop := by
  have next := tape.next_drop index
  rw [← presents.tape_eq] at next
  rcases scanner.look_cases with ⟨token, after, looked, shown, same, held⟩ |
    ⟨cause, after, failed, empty⟩
  · refine .inl ⟨token, after, looked, next.symm.trans shown, held, ?_,
      same.trans presents.tape_eq⟩
    rcases presents.within.look with ⟨_, _, here, within⟩ | ⟨_, _, here, _⟩
    · rw [looked] at here
      cases here
      exact within
    · rw [looked] at here
      cases here
  · rcases presents.within.look with ⟨_, _, here, _⟩ | ⟨_, stop, here, stops⟩
    · rw [failed] at here
      cases here
    · rw [failed] at here
      cases here
      rw [empty] at next
      exact .inr ⟨cause, stop, failed, next.symm, stops⟩

/-- Looking shows the token of the index, and looking again shows it without further effect. -/
theorem look_token (presents : scanner.Presents filename text tape index)
    (shown : tape.item index = .ok token) :
    ∃ after, look scanner = .ok token after ∧ look after = .ok token after ∧
      after.held = some token ∧ after.Presents filename text tape index := by
  rcases presents.look_cases with ⟨found, after, looked, same, held, here⟩ | ⟨_, _, _, fault, _⟩
  · rw [shown] at same
    cases same
    exact ⟨after, looked, look_of_look looked, held, here⟩
  · rw [shown] at fault
    cases fault

/-- Advancing leads to the next index. -/
theorem advance_token (presents : scanner.Presents filename text tape index)
    (shown : tape.item index = .ok token) :
    ∃ after, advance scanner = .ok () after ∧
      after.Presents filename text tape (index + 1) := by
  obtain ⟨looked, look, _, held, here⟩ := presents.look_token shown
  unfold advance
  rw [look]
  by_cases isEnd : token.type = .endOfInput
  · refine ⟨looked, if_pos isEnd, here.within, ?_⟩
    rw [tape_of_held_end held isEnd, ← tape.rest_drop, ← here.tape_eq, tape_of_held_end held isEnd]
    rfl
  · exact ⟨{ looked with held := none }, if_neg isEnd, here.within.release,
      by rw [tape_release held isEnd, here.tape_eq, tape.rest_drop]⟩

/-- At the end of the input advancing does no more than looking does, and nothing when repeated. -/
theorem advance_end (presents : scanner.Presents filename text tape index)
    (shown : tape.item index = .ok token) (isEnd : token.type = .endOfInput) :
    ∃ after, look scanner = .ok token after ∧ advance scanner = .ok () after ∧
      advance after = .ok () after := by
  obtain ⟨after, looked, again, _, _⟩ := presents.look_token shown
  refine ⟨after, looked, ?_, ?_⟩
  · rw [advance, looked]
    exact if_pos isEnd
  · rw [advance, again]
    exact if_pos isEnd

/-- Where a fault comes, every call fails with it, and stops at the same place. -/
theorem fails (presents : scanner.Presents filename text tape index)
    (fault : tape.item index = .error cause) :
    ∃ stop, StopsAt filename text cause stop ∧
      ∀ call : Call, call.perform scanner = .error cause ⟨filename, text, stop, none⟩ := by
  rcases presents.look_cases with ⟨_, _, _, shown, _⟩ | ⟨found, stop, looked, same, stops⟩
  · rw [fault] at shown
    cases shown
  · rw [fault] at same
    cases same
    exact ⟨stop, stops, Call.perform_of_look_error looked⟩

/-- Draining lays out the tokens from the index on and leads behind them, where it holds the end of
the input; a fault behind the tokens makes it fail, and it stops there. -/
theorem drain_cases (presents : scanner.Presents filename text tape index) :
    (∃ last, tape.ending = .ok last ∧
        drain scanner = .ok (tape.tokens.drop index ++ [last])
          ⟨filename, text, .behind text [], some last⟩) ∨
      ∃ cause stop, tape.ending = .error cause ∧ StopsAt filename text cause stop ∧
        drain scanner = .error cause ⟨filename, text, stop, none⟩ := by
  obtain ⟨tokens, laidOut⟩ : ∃ tokens, tape.tokens.drop index = tokens := ⟨_, rfl⟩
  have next := tape.next_drop index
  have endsOnce := scanner.endsOnce_tape
  rw [presents.tape_eq, Tape.drop, laidOut] at endsOnce
  rw [Tape.drop, laidOut] at next
  induction tokens generalizing index scanner with
  | nil =>
    rcases presents.look_cases with ⟨last, after, looked, shown, held, here⟩ |
      ⟨cause, stop, looked, fault, stops⟩
    · have ending : tape.ending = .ok last := next.trans shown
      have isEnd := endsOnce.2 last ending
      rw [drain_of_look_end looked isEnd, here.within.eq_of_held_end held isEnd, laidOut]
      exact .inl ⟨last, ending, rfl⟩
    · exact .inr ⟨cause, stop, next.trans fault, stops, drain_of_look_error looked⟩
  | cons token tokens inductionHypothesis =>
    obtain ⟨looked, look, _, held, here⟩ := presents.look_token next.symm
    have more := endsOnce.1 token List.mem_cons_self
    have released :
        ({ looked with held := none } : Scanner).Presents filename text tape (index + 1) :=
      ⟨here.within.release, by rw [tape_release held more, here.tape_eq, tape.rest_drop]⟩
    have others : tape.tokens.drop (index + 1) = tokens := by
      rw [← List.tail_drop, laidOut, List.tail_cons]
    have nextOthers := tape.next_drop (index + 1)
    rw [Tape.drop, others] at nextOthers
    rw [drain_of_look_more look more, laidOut]
    rcases inductionHypothesis released others nextOthers
      ⟨fun other member => endsOnce.1 other (List.mem_cons_of_mem _ member), endsOnce.2⟩ with
      ⟨last, ending, drained⟩ | ⟨cause, stop, ending, stops, drained⟩
    · rw [drained, others]
      exact .inl ⟨last, ending, rfl⟩
    · rw [drained]
      exact .inr ⟨cause, stop, ending, stops, rfl⟩

/-- A scanner that holds the end of the input presents the tape from behind its tokens on. -/
theorem ofEnd (presents : scanner.Presents filename text tape index)
    (ending : tape.ending = .ok token) :
    (⟨filename, text, .behind text [], some token⟩ : Scanner).Presents filename text tape
      tape.tokens.length := by
  have endsOnce := scanner.endsOnce_tape
  rw [presents.tape_eq] at endsOnce
  have isEnd := endsOnce.2 token ending
  refine ⟨⟨rfl, rfl, ⟨text, [], by simp, rfl⟩, fun _ _ _ => rfl⟩, ?_⟩
  rw [tape_of_held_end rfl isEnd, tape.drop_of_length_le (Nat.le_refl _), ending]

/-- A call that succeeds leads to the index that it should. -/
theorem perform (presents : scanner.Presents filename text tape index) {call : Call}
    {answer : List Token} (performed : call.perform scanner = .ok answer after) :
    after.Presents filename text tape (tape.reached index [call]) := by
  rcases presents.look_cases with ⟨token, looked, look, shown, held, here⟩ | ⟨_, _, failed, _⟩
  · cases call with
    | look =>
      rw [Call.perform, bind_of_ok look] at performed
      cases performed
      exact here
    | advance =>
      obtain ⟨next, advanced, there⟩ := presents.advance_token shown
      rw [Call.perform, bind_of_ok advanced] at performed
      cases performed
      exact there
    | drain =>
      rcases presents.drain_cases with ⟨last, ending, drained⟩ | ⟨_, _, _, _, failed⟩
      · rw [Call.perform, drained] at performed
        cases performed
        exact presents.ofEnd ending
      · rw [Call.perform, failed] at performed
        cases performed
  · rw [Call.perform_of_look_error failed call] at performed
    cases performed

/-- Calls that succeed lead to the index that they should. -/
theorem performAll {calls : List Call} (presents : scanner.Presents filename text tape index)
    (performed : Call.performAll calls scanner = .ok () after) :
    after.Presents filename text tape (tape.reached index calls) := by
  induction calls generalizing index scanner with
  | nil =>
    cases performed
    exact presents
  | cons call calls inductionHypothesis =>
    rw [Call.performAll] at performed
    cases result : call.perform scanner with
    | error cause stop =>
      rw [bind_of_error result] at performed
      cases performed
    | ok answer between =>
      rw [bind_of_ok result] at performed
      have there := inductionHypothesis (presents.perform result) performed
      rcases tape.reached_cons index call calls with same | ⟨behind, alsoBehind⟩
      · rwa [same] at there
      · exact there.ofBehind behind alsoBehind

/-- A call that fails has met the fault behind the tokens, and stops there. -/
theorem perform_error (presents : scanner.Presents filename text tape index) {call : Call}
    (failed : call.perform scanner = .error cause after) :
    tape.ending = .error cause ∧
      ∃ stop, after = ⟨filename, text, stop, none⟩ ∧ StopsAt filename text cause stop := by
  rcases presents.look_cases with ⟨token, looked, look, shown, held, here⟩ |
    ⟨found, stop, look, fault, stops⟩
  · cases call with
    | look =>
      rw [Call.perform, bind_of_ok look] at failed
      cases failed
    | advance =>
      obtain ⟨next, advanced, _⟩ := presents.advance_token shown
      rw [Call.perform, bind_of_ok advanced] at failed
      cases failed
    | drain =>
      rw [Call.perform] at failed
      rcases presents.drain_cases with ⟨last, _, drained⟩ | ⟨_, stop, ending, stops, drained⟩
      · rw [drained] at failed
        cases failed
      · rw [drained] at failed
        cases failed
        exact ⟨ending, stop, rfl, stops⟩
  · rw [Call.perform_of_look_error look call] at failed
    cases failed
    exact ⟨(Tape.drop_of_item_error fault).2, stop, rfl, stops⟩

/-- Calls fail at the fault behind the tokens, and stop there. -/
theorem performAll_error {calls : List Call} (presents : scanner.Presents filename text tape index)
    (failed : Call.performAll calls scanner = .error cause after) :
    tape.ending = .error cause ∧
      ∃ stop, after = ⟨filename, text, stop, none⟩ ∧ StopsAt filename text cause stop := by
  induction calls generalizing index scanner with
  | nil => cases failed
  | cons call calls inductionHypothesis =>
    rw [Call.performAll] at failed
    cases result : call.perform scanner with
    | error found stop =>
      rw [bind_of_error result] at failed
      cases failed
      exact presents.perform_error result
    | ok answer between =>
      rw [bind_of_ok result] at failed
      exact inductionHypothesis (presents.perform result) failed

end Presents

/-- What the calls on a scanner come to if it presents a tape from an index on. -/
structure Shows (filename : String) (text : List Char) (tape : Tape) (index : Nat)
    (scanner : Scanner) : Prop where
  /-- Looking shows the token of the index, and has no effect when it is repeated. -/
  looks : ∀ token, tape.item index = .ok token →
    ∃ after, look scanner = .ok token after ∧ look after = .ok token after
  /-- One can advance behind each token. -/
  advances : ∀ token, tape.item index = .ok token → ∃ after, advance scanner = .ok () after
  /-- At the end of the input advancing does what looking does, and nothing when repeated. -/
  stays : ∀ token, tape.item index = .ok token → token.type = .endOfInput →
    ∃ after, look scanner = .ok token after ∧ advance scanner = .ok () after ∧
      advance after = .ok () after
  /-- Draining answers with the tokens from the index on, and leads to the end of the input. -/
  drains : ∀ last, tape.ending = .ok last →
    drain scanner = .ok (tape.tokens.drop index ++ [last])
      ⟨filename, text, .behind text [], some last⟩
  /-- A fault behind the tokens makes draining fail, and it stops there. -/
  drainFails : ∀ cause, tape.ending = .error cause → ∃ stop, StopsAt filename text cause stop ∧
    drain scanner = .error cause ⟨filename, text, stop, none⟩
  /-- Where the fault comes, each call fails with it, and stops there. -/
  fails : ∀ cause, tape.item index = .error cause → ∃ stop, StopsAt filename text cause stop ∧
    ∀ call : Call, call.perform scanner = .error cause ⟨filename, text, stop, none⟩

theorem Presents.shows {tape : Tape} {index : Nat}
    (presents : scanner.Presents filename text tape index) :
    scanner.Shows filename text tape index where
  looks token shown := by
    obtain ⟨after, looked, again, _⟩ := presents.look_token shown
    exact ⟨after, looked, again⟩
  advances token shown := by
    obtain ⟨after, advanced, _⟩ := presents.advance_token shown
    exact ⟨after, advanced⟩
  stays token shown isEnd := presents.advance_end shown isEnd
  drains last ending := by
    rcases presents.drain_cases with ⟨found, same, drained⟩ | ⟨_, _, fault, _⟩
    · rw [ending] at same
      cases same
      exact drained
    · rw [ending] at fault
      cases fault
  drainFails cause ending := by
    rcases presents.drain_cases with ⟨_, same, _⟩ | ⟨found, stop, fault, stops, drained⟩
    · rw [ending] at same
      cases same
    · rw [ending] at fault
      cases fault
      exact ⟨stop, stops, drained⟩
  fails cause fault := presents.fails fault

end Scanner

/-- Behind a fault at a character a call meets the same fault again, and changes nothing. -/
theorem StopsAt.repeats {filename : String} {text : List Char} {character : Char}
    {place : Location} {stop : Cursor}
    (stops : StopsAt filename text (.invalidCharacter character place) stop) (call : Call) :
    call.perform ⟨filename, text, stop, none⟩ =
      .error (.invalidCharacter character place) ⟨filename, text, stop, none⟩ := by
  cases stops with
  | invalidCharacter before _ rest split lost =>
    refine Call.perform_of_look_error ?_ call
    have scanned := Cursor.scan_behind_gap filename before (.nil (character :: rest)) lost.noGap
    rw [List.nil_append, List.append_nil, Cursor.scanToken_of_startsNothing _ _ lost] at scanned
    simp only [Scanner.look, scanned]

/-- Whatever calls are made on a scanner that is somewhere in a text, what it presents is one
stream, that of the tokens that can be scanned from there on. As long as no call fails, what the
next one answers depends only on how many have advanced, or whether one has drained the stream.
A call fails only at the fault that ends the stream. If this is a character that starts nothing,
then the cursor is on it, and each later call fails in the same way without further effect. If it
is a numeral that is too long, then the scanner is like one that has just been put behind it. A
text that is begun is presented from its start. -/
theorem window_presents_one_stream (filename : String) (before rest : List Char)
    (calls : List Call) :
    (∀ after, Call.performAll calls (Scanner.behind filename before rest) = .ok () after →
      after.Shows filename (before ++ rest) ((Cursor.behind before rest).tape filename)
        (((Cursor.behind before rest).tape filename).reached 0 calls)) ∧
    (∀ cause after,
      Call.performAll calls (Scanner.behind filename before rest) = .error cause after →
      ((Cursor.behind before rest).tape filename).ending = .error cause ∧
        (∀ character place, cause = .invalidCharacter character place →
          ∃ front back, before ++ rest = front ++ character :: back ∧
            StartsNothing character back ∧ place = .behind filename front ∧
            after = .behind filename front (character :: back) ∧
            ∀ call : Call, call.perform after = .error cause after) ∧
        ∀ length, cause = .numeralTooLong length →
          ∃ front value digits back, before ++ rest = front ++ (digits ++ back) ∧
            Lexeme .integer value digits back ∧ digits.length = length ∧ digitLimit < length ∧
            after = .behind filename (front ++ digits) back) ∧
    ∀ (scanner : Scanner) (source : String),
      scanner.restart source = .behind scanner.filename [] source.toList ∧
        (Cursor.behind [] source.toList).tape filename = textTape filename source := by
  have presents := Scanner.Presents.behind filename before rest
  refine ⟨fun after performed => (presents.performAll performed).shows, ?_, fun _ _ => ⟨rfl, rfl⟩⟩
  intro cause after failed
  obtain ⟨ending, stop, rfl, stops⟩ := presents.performAll_error failed
  refine ⟨ending, fun character place same => ?_, fun length same => ?_⟩
  · subst same
    have repeats := stops.repeats
    cases stops with
    | invalidCharacter front _ back split lost =>
      refine ⟨front, back, split, lost, rfl, by rw [Scanner.behind, split], repeats⟩
  · subst same
    generalize same : ScanError.numeralTooLong length = cause at stops
    cases stops with
    | invalidCharacter => cases same
    | numeralTooLong front value digits back split numeral long =>
      cases same
      exact ⟨front, value, digits, back, split, numeral, rfl, long,
        by rw [Scanner.behind, split, List.append_assoc]⟩

end IntExpr
