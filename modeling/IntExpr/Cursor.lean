/-
This file scans one token at a time. A cursor is a place in a text together with the text from
there on. Scanning skips the gap in front of the next token, white space and comments, and then
takes the longest token that starts there; the cursor ends up behind the token. Two things can
be wrong with what starts there, and each leaves the cursor at a place of its own: on a character
that starts nothing, and behind a numeral that is too long.
-/

import IntExpr.Text.CharacterClass
import IntExpr.Token

namespace IntExpr

/-! ### What stands at the head of a text -/

mutual

/-- The length of the gap at the head of a text: white space and comments, which run from a
double slash to the end of the line. -/
def gapLength : List Char → Nat
  | [] => 0
  | ['/'] => 0
  | '/' :: '/' :: rest => commentLength rest + 2
  | character :: rest => if Text.isBlank character then gapLength rest + 1 else 0

/-- The length of the rest of a comment with the gap that follows it. -/
def commentLength : List Char → Nat
  | [] => 0
  | character :: rest =>
    if character = '\n' then gapLength rest + 1 else commentLength rest + 1

end

/-- A character that an identifier can start with. -/
def isWordStart (character : Char) : Bool :=
  character.isAlpha || character = '_'

/-- A character that can stand inside an identifier. -/
def isWordPart (character : Char) : Bool :=
  isWordStart character || character.isDigit

/-- A word is a keyword or an identifier. -/
def wordType (word : String) : TokenType :=
  if word = "declare" then .declare else if word = "print" then .print else .identifier

/-- The tokens of two characters. A doubled colon means the same as a single one. -/
def pairType : Char → Char → Option TokenType
  | '<', '<' => some (.operator .shiftLeft)
  | '>', '>' => some (.operator .shiftRight)
  | '=', '=' => some (.operator .equal)
  | '&', '&' => some (.operator .and)
  | '|', '|' => some (.operator .or)
  | ':', ':' => some .colon
  | _, _ => none

/-- The tokens of one character. -/
def markType : Char → Option TokenType
  | '+' => some (.operator .plus)
  | '-' => some (.operator .minus)
  | '*' => some (.operator .times)
  | '/' => some (.operator .divide)
  | '&' => some (.operator .bitAnd)
  | '|' => some (.operator .bitOr)
  | '<' => some (.operator .less)
  | '>' => some (.operator .greater)
  | '?' => some .question
  | ':' => some .colon
  | '(' => some .leftParen
  | ')' => some .rightParen
  | _ => none

/-- The operator or punctuation mark at the head of a text; of two, the longer one. -/
def leadingMark : List Char → Option (TokenType × List Char)
  | [] => none
  | [character] => (markType character).map (·, [character])
  | first :: second :: _ =>
    match pairType first second with
    | some type => some (type, [first, second])
    | none => (markType first).map (·, [first])

/-- The type and the lexeme of the token at the head of a text, if one starts there. -/
def leadingLexeme (text : List Char) : Option (TokenType × List Char) :=
  match text with
  | [] => none
  | character :: _ =>
    if character.isDigit then some (.integer, text.takeWhile Char.isDigit)
    else if isWordStart character then
      let word := text.takeWhile isWordPart
      some (wordType (String.ofList word), word)
    else leadingMark text

/-! ### Cursors -/

/-- A place in a text and the text from there on. -/
structure Cursor where
  rest : List Char
  line : Nat
  column : Nat
  offset : Nat
deriving DecidableEq, Inhabited

/-- What a scan can stumble over. -/
inductive ScanError where
  /-- No token starts with the character. -/
  | invalidCharacter (character : Char) (location : Location)
  /-- A numeral of so many digits is longer than can be read. -/
  | numeralTooLong (digits : Nat)
deriving DecidableEq, Inhabited

namespace Cursor

/-- The start of a text. -/
def start (text : List Char) : Cursor := ⟨text, 1, 1, 0⟩

/-- The place of a cursor in a named text. -/
def location (cursor : Cursor) (filename : String) : Location :=
  ⟨filename, cursor.line, cursor.column, cursor.offset⟩

/-- One character further. Only a line feed starts a new line. -/
def step (cursor : Cursor) : Cursor :=
  match cursor.rest with
  | [] => cursor
  | character :: rest =>
    if character = '\n' then ⟨rest, cursor.line + 1, 1, cursor.offset + 1⟩
    else ⟨rest, cursor.line, cursor.column + 1, cursor.offset + 1⟩

/-- Some characters further. -/
def skip (cursor : Cursor) : Nat → Cursor
  | 0 => cursor
  | count + 1 => cursor.step.skip count

/-- The cursor behind the gap. -/
def pastGap (cursor : Cursor) : Cursor := cursor.skip (gapLength cursor.rest)

/-- The token that starts right at the cursor, and the cursor behind it. -/
def scanToken (filename : String) (cursor : Cursor) : Except ScanError Token × Cursor :=
  match cursor.rest with
  | [] => (.ok ⟨.endOfInput, "", cursor.location filename⟩, cursor)
  | character :: _ =>
    match leadingLexeme cursor.rest with
    | none => (.error (.invalidCharacter character (cursor.location filename)), cursor)
    | some (type, lexeme) =>
      if type = .integer ∧ digitLimit < lexeme.length then
        (.error (.numeralTooLong lexeme.length), cursor.skip lexeme.length)
      else
        (.ok ⟨type, String.ofList lexeme, cursor.location filename⟩, cursor.skip lexeme.length)

/-- The next token, behind the gap, and the cursor behind it. -/
def scan (filename : String) (cursor : Cursor) : Except ScanError Token × Cursor :=
  cursor.pastGap.scanToken filename

/-! ### A scan gets on -/

@[simp] theorem rest_step (cursor : Cursor) : cursor.step.rest = cursor.rest.tail := by
  unfold step
  split
  · rename_i empty
    rw [empty, List.tail_nil]
  · rename_i character rest here
    rw [here, List.tail_cons]
    split <;> rfl

@[simp] theorem rest_skip (cursor : Cursor) (count : Nat) :
    (cursor.skip count).rest = cursor.rest.drop count := by
  induction count generalizing cursor with
  | zero => rfl
  | succ count inductionHypothesis => simp [skip, inductionHypothesis]

end Cursor

/-- A mark is not empty. -/
theorem leadingMark_ne_nil {text lexeme : List Char} {type : TokenType}
    (found : leadingMark text = some (type, lexeme)) : lexeme ≠ [] := by
  match text, found with
  | [], found => cases found
  | [_], found =>
    obtain ⟨_, _, same⟩ := Option.map_eq_some_iff.1 found
    cases same
    exact List.cons_ne_nil _ _
  | first :: second :: _, found =>
    cases pair : pairType first second with
    | some type =>
      simp only [leadingMark, pair] at found
      cases found
      exact List.cons_ne_nil _ _
    | none =>
      simp only [leadingMark, pair] at found
      obtain ⟨_, _, same⟩ := Option.map_eq_some_iff.1 found
      cases same
      exact List.cons_ne_nil _ _

/-- A lexeme is not empty. -/
theorem leadingLexeme_ne_nil {text lexeme : List Char} {type : TokenType}
    (found : leadingLexeme text = some (type, lexeme)) : lexeme ≠ [] := by
  unfold leadingLexeme at found
  split at found
  · cases found
  · split at found
    · rename_i digit
      cases found
      rw [List.takeWhile_cons_of_pos digit]
      exact List.cons_ne_nil _ _
    · split at found
      · rename_i word
        cases found
        rw [List.takeWhile_cons_of_pos (by rw [isWordPart, word, Bool.true_or])]
        exact List.cons_ne_nil _ _
      · exact leadingMark_ne_nil found

namespace Cursor

/-- A token that is not the end of the input leaves less text behind it. -/
theorem scan_shorter {filename : String} {cursor : Cursor} {token : Token} {behind : Cursor}
    (scanned : cursor.scan filename = (.ok token, behind)) (more : token.type ≠ .endOfInput) :
    behind.rest.length < cursor.rest.length := by
  have gap : cursor.pastGap.rest.length ≤ cursor.rest.length := by
    simp [pastGap]
  unfold scan scanToken at scanned
  split at scanned
  · cases scanned
    contradiction
  · rename_i character rest here
    split at scanned
    · cases scanned
    · rename_i type lexeme found
      split at scanned
      · cases scanned
      · cases scanned
        have long := List.length_pos_iff.2 (leadingLexeme_ne_nil found)
        have shape := congrArg List.length here
        simp only [rest_skip, List.length_drop, List.length_cons] at shape ⊢
        omega

end Cursor

end IntExpr
