/-
This file proves that a scanner is at all times where it says it is. The line, the column and the
offset of its cursor are those of the text behind it, and a token in the window is the last of that
text and says where it starts. A scan moves the cursor over a gap and then over a lexeme, or leaves
it where it fails; each of these is a place between two parts of the text. Looking ahead is the only
thing that moves the cursor within a text, whoever does it; a text that is begun puts the cursor at
its start.
-/

import IntExpr.Proofs.Keeping
import IntExpr.Proofs.Reuse
import IntExpr.Proofs.Tiling

namespace IntExpr

/-! ### Places between two parts of a text -/

/-- A token is the last of the text in front of a place: its lexeme reaches up to the place and it
says where that starts. The end of the input is empty and comes behind all of the text. -/
def Token.Closes (filename : String) (before after : List Char) (token : Token) : Prop :=
  ∃ front, before = front ++ token.lexeme.toList ∧ token.location = .behind filename front ∧
    (token.type = .endOfInput → token.lexeme = "" ∧ after = [])

/-- A scan leads to a place further on in the text, and to the end of the token if there is one. -/
theorem Cursor.scan_closes (filename : String) (before rest : List Char) :
    ∃ behind ahead, before ++ rest = behind ++ ahead ∧
      ((Cursor.behind before rest).scan filename).2 = .behind behind ahead ∧
      ∀ token, ((Cursor.behind before rest).scan filename).1 = .ok token →
        token.Closes filename behind ahead := by
  obtain ⟨gap, tail, rfl, layout, noGap⟩ := exists_gap rest
  rw [scan_behind_gap filename before layout noGap]
  rcases lexeme_cases noGap with rfl | ⟨type, value, lexeme, following, rfl, found⟩ |
    ⟨character, others, rfl, lost⟩
  · refine ⟨before ++ gap, [], by simp, rfl, ?_⟩
    intro token shown
    cases shown
    exact ⟨before ++ gap, by simp, rfl, fun _ => ⟨rfl, rfl⟩⟩
  · -- A numeral that is too long to be read is passed like any lexeme, but gives no token.
    rw [scanToken_of_lexeme filename _ found]
    refine ⟨before ++ gap ++ lexeme, following, by simp, by split <;> rfl, ?_⟩
    intro token shown
    by_cases long : type = .integer ∧ digitLimit < lexeme.length
    · rw [if_pos long] at shown
      cases shown
    · rw [if_neg long] at shown
      cases shown
      exact ⟨before ++ gap, by simp, rfl, fun isEnd => absurd isEnd found.type_ne_endOfInput⟩
  · refine ⟨before ++ gap, character :: others, by simp, ?_, fun token shown => ?_⟩
    · simp only [scanToken, behind, leadingLexeme_of_startsNothing lost]
    · simp only [scanToken, behind, leadingLexeme_of_startsNothing lost] at shown
      cases shown

namespace Scanner

/-- A scanner of a named text is between two parts of it, and a token that it holds is the last of
the part behind it. -/
structure Stands (filename : String) (text : List Char) (scanner : Scanner) : Prop where
  named : scanner.filename = filename
  source : scanner.source = text
  place : ∃ before after, text = before ++ after ∧ scanner.cursor = .behind before after ∧
    ∀ token, scanner.held = some token → token.Closes filename before after

theorem stands_start (filename source : String) :
    (start filename source).Stands filename source.toList :=
  ⟨rfl, rfl, [], source.toList, rfl, rfl, fun _ held => by cases held⟩

/-- Reading leaves a scanner somewhere in its text. -/
theorem readingKeeps_stands (filename : String) (text : List Char) :
    ReadingKeeps (Stands filename text) where
  look := by
    rintro scanner ⟨named, source, before, after, split, cursor, closes⟩
    unfold Scanner.look
    cases held : scanner.held with
    | some token => exact ⟨named, source, before, after, split, cursor, closes⟩
    | none =>
      obtain ⟨behind, ahead, same, reached, closes⟩ := Cursor.scan_closes filename before after
      rw [named, cursor]
      cases scanned : (Cursor.behind before after).scan filename with
      | mk result stop =>
        rw [scanned] at reached closes
        cases result with
        | ok token =>
          refine ⟨rfl, source, behind, ahead, split.trans same, reached, fun last isHeld => ?_⟩
          cases isHeld
          exact closes token rfl
        | error cause =>
          refine ⟨rfl, source, behind, ahead, split.trans same, reached, fun last isHeld => ?_⟩
          cases isHeld
  release := by
    rintro scanner ⟨named, source, before, after, split, cursor, _⟩
    exact ⟨named, source, before, after, split, cursor, fun _ held => by cases held⟩

end Scanner

/-! ### Alignment -/

/-- An offset lies in a text and a line and a column are those of the text in front of it: the line
is one more than the number of its line feeds, the column one more than the number of characters
behind the last of them. -/
structure PlaceIn (text : List Char) (offset line column : Nat) : Prop where
  offset_le : offset ≤ text.length
  line_eq : line = 1 + (text.take offset).count '\n'
  column_eq : column = 1 + ((text.take offset).reverse.takeWhile (· ≠ '\n')).length

/-- A token is that of the part of a text between the place it names and an offset. -/
structure Token.EndsAt (filename : String) (text : List Char) (offset : Nat) (token : Token) :
    Prop where
  named : token.location.filename = filename
  place : PlaceIn text token.location.offset token.location.line token.location.column
  lexeme : (text.take offset).drop token.location.offset = token.lexeme.toList
  offset_eq : token.location.offset + token.lexeme.length = offset
  ended : token.type = .endOfInput → offset = text.length ∧ token.lexeme = ""

/-- A scanner is where it says it is in a named text, and so is the token in its window. -/
structure Scanner.Aligned (filename : String) (text : List Char) (scanner : Scanner) : Prop where
  named : scanner.filename = filename
  source : scanner.source = text
  place : PlaceIn text scanner.cursor.offset scanner.cursor.line scanner.cursor.column
  rest : scanner.cursor.rest = text.drop scanner.cursor.offset
  held : ∀ token, scanner.held = some token → token.EndsAt filename text scanner.cursor.offset

/-- A place behind some part of a text is the place that its offset says. -/
theorem placeIn_behind (filename : String) (before after : List Char) :
    PlaceIn (before ++ after) (Location.behind filename before).offset
      (Location.behind filename before).line (Location.behind filename before).column := by
  have passed : (before ++ after).take (Location.behind filename before).offset = before :=
    List.take_left
  refine ⟨?_, ?_, ?_⟩
  · show before.length ≤ _
    rw [List.length_append]
    exact Nat.le_add_right _ _
  · rw [passed]
    rfl
  · rw [passed, Nat.add_comm]
    rfl

theorem Token.Closes.endsAt {filename : String} {before after : List Char} {token : Token}
    (closes : token.Closes filename before after) :
    token.EndsAt filename (before ++ after) before.length := by
  obtain ⟨front, rfl, location, ended⟩ := closes
  have start : token.location.offset = front.length := by rw [location]; rfl
  refine ⟨by rw [location]; rfl, ?_, ?_, ?_, fun isEnd => ?_⟩
  · rw [location, List.append_assoc]
    exact placeIn_behind filename front _
  · rw [start, List.take_left, List.drop_left]
  · rw [start, List.length_append, String.length_toList]
  · obtain ⟨empty, rfl⟩ := ended isEnd
    exact ⟨by rw [List.append_nil], empty⟩

theorem Scanner.Stands.aligned {filename : String} {text : List Char} {scanner : Scanner}
    (stands : scanner.Stands filename text) : scanner.Aligned filename text := by
  obtain ⟨named, source, before, after, rfl, cursor, closes⟩ := stands
  refine ⟨named, source, ?_, ?_, fun token held => ?_⟩
  · rw [cursor]
    exact placeIn_behind filename before after
  · rw [cursor]
    exact List.drop_left.symm
  · rw [cursor]
    exact (closes token held).endsAt

/-! ### Sessions -/

/-- The text that a scanner reads behind a step, if it has read a text before the step. -/
def Step.textBehind (text : String) : Step → String
  | evaluate source | parse _ source | restart source => source
  | _ => text

namespace Session

theorem scanner_evaluate (session : Session) (source : String) :
    (session.step (.evaluate source)).2.scanner =
      endState (IntExpr.parse source session.scanner) := by
  rw [step]
  cases IntExpr.parse source session.scanner <;> rfl

theorem scanner_parse (session : Session) (key source : String) :
    (session.step (.parse key source)).2.scanner =
      endState (IntExpr.parse source session.scanner) := by
  rw [step]
  cases IntExpr.parse source session.scanner <;> rfl

/-- Each step leaves the scanner somewhere in its text, or in the text that the step has begun. -/
theorem stands_step {filename text : String} {session : Session}
    (stands : session.scanner.Stands filename text.toList) (step : Step) :
    (session.step step).2.scanner.Stands filename (step.textBehind text).toList := by
  have kept (text : String) := Scanner.readingKeeps_stands filename text.toList
  have begun (source : String) :
      (session.scanner.restart source).Stands filename source.toList := by
    rw [Scanner.restart, stands.named]
    exact Scanner.stands_start filename source
  cases step with
  | evaluate source =>
    rw [scanner_evaluate]
    exact endState_parse (kept source) (begun source)
  | parse key source =>
    rw [scanner_parse]
    exact endState_parse (kept source) (begun source)
  | restart source => exact begun source
  | look => exact keeps_reading _ (kept text).look stands
  | advance => exact keeps_reading _ (kept text).advance stands
  | drain => exact keeps_reading _ (kept text).drain stands
  | declare name value location =>
    rw [Session.step]
    cases session.bindings.declare name value location <;> exact stands
  | get name place =>
    rw [Session.step]
    cases session.bindings.get name place <;> exact stands
  | _ => exact stands

/-- Any steps leave the scanner somewhere in the text that was begun last. -/
theorem stands_after {filename text : String} {session : Session}
    (stands : session.scanner.Stands filename text.toList) (steps : List Step) :
    (session.after steps).scanner.Stands filename (steps.foldl Step.textBehind text).toList := by
  induction steps generalizing session text with
  | nil => exact stands
  | cons step steps inductionHypothesis => exact inductionHypothesis (stands_step stands step)

/-- After any steps, whatever has failed in them, the scanner is where it says it is in the text
that was begun last: line, column and offset of its cursor go together, and a token that it holds
is the part of the text between the place that the token names and the cursor, and is at the end of
the text if it is the end of the input. This is so, too, in a calculator, whose parser keeps a
state of its own between the texts. -/
theorem scanner_stays_aligned (filename source : String) (bindings : Bindings)
    (trees : List (String × Expr)) (steps : List Step) :
    let session : Session := ⟨.start filename source, bindings, trees⟩
    let text := (steps.foldl Step.textBehind source).toList
    (session.after steps).scanner.Aligned filename text ∧
      ∀ beyond previous depth,
        ((Calculator.mk session previous depth).after beyond steps).session.scanner.Aligned
          filename text := by
  intro session text
  have aligned : (session.after steps).scanner.Aligned filename text :=
    (stands_after (Scanner.stands_start filename source) steps).aligned
  refine ⟨aligned, fun beyond previous depth => ?_⟩
  rw [(Calculator.after_eq beyond ⟨session, previous, depth⟩ steps).1]
  exact aligned

end Session

end IntExpr
