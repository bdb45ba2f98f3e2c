/-
This file says what is reported of each failure: a code, a message, help, and suggestions. A
report of a refused shift contains the shift count, and when that is too long to be written
there is no report but only the refusal to write it. Failures that are no fault of an expression,
numerals that are too long, values of a foreign kind and a lack of room for evaluations, have a
plain message and no report.
-/

import IntExpr.Diagnostic
import IntExpr.Evaluation
import IntExpr.Parser
import IntExpr.Text.Escaped

namespace IntExpr

/-! ### Codes -/

/-- The faults that are reported, each under a code of its own. -/
inductive Fault where
  | invalidCharacter
  | unexpectedToken
  | unexpectedEnd
  | trailingInput
  | nestedTooDeeply
  | divisionByZero
  | negativeShift
  | shiftTooLarge
  | unboundIdentifier
deriving DecidableEq, Inhabited

namespace Fault

/-- The code of a fault. -/
def code : Fault → String
  | invalidCharacter => "L001"
  | unexpectedToken => "P001"
  | unexpectedEnd => "P010"
  | trailingInput => "P013"
  | nestedTooDeeply => "P014"
  | divisionByZero => "E001"
  | negativeShift => "E002"
  | shiftTooLarge => "E003"
  | unboundIdentifier => "E010"

/-- The fault in a few words. -/
def title : Fault → String
  | invalidCharacter => "Invalid character"
  | unexpectedToken => "Unexpected token"
  | unexpectedEnd => "Unexpected end of input"
  | trailingInput => "Trailing input after expression"
  | nestedTooDeeply => "Expression nested too deeply"
  | divisionByZero => "Division by zero"
  | negativeShift => "Negative shift count"
  | shiftTooLarge => "Shift count too large"
  | unboundIdentifier => "Unbound identifier"

/-- A report of a fault. -/
def report (fault : Fault) (location : Option Location) (message help : String)
    (suggestions : Option (List String)) : Diagnostic :=
  ⟨message, location, "error", some fault.code, some help, suggestions⟩

end Fault

namespace Diagnostic

/-! ### Reports of characters -/

/-- The operators that may have been meant by a character that starts no token: those of two
characters that it starts, and those that stand for the same operation elsewhere. -/
def operatorsFor : Char → List String
  | '<' => ["<<"]
  | '>' => [">>"]
  | '=' => ["=="]
  | '&' => ["&&"]
  | '|' => ["||"]
  | ':' => ["::"]
  | '%' => ["/"]
  | '^' => ["|", "&"]
  | '~' => ["-"]
  | _ => []

/-- A code point in capital hexadecimal digits, at least four of them. -/
def codePoint (code : Nat) : String :=
  let width := if code < 0x10000 then 4 else if code < 0x100000 then 5 else 6
  "U+" ++ Text.toCapital (String.ofList (Text.hexDigits width code))

/-- What is said to help with an invalid character. -/
def characterHelp (character : Char) : String :=
  match operatorsFor character with
  | [] =>
    if Text.isPrintable character then
      "The character '" ++ character.toString ++ "' is not valid in an expression."
    else
      "Non-printable character (Unicode: " ++ codePoint character.toNat ++ ") is not allowed."
  | operators => "Did you mean one of these operators: " ++ String.intercalate ", " operators ++ "?"

/-- A character that starts no token. -/
def invalidCharacter (character : Char) (location : Option Location) : Diagnostic :=
  Fault.invalidCharacter.report location ("Invalid character: '" ++ character.toString ++ "'")
    (characterHelp character)
    (some ((operatorsFor character).map fun operator => "Use '" ++ operator ++ "'"))

/-! ### Reports of tokens -/

/-- The names of expected types as an enumeration. -/
def enumerate : List String → String
  | [] => ""
  | [name] => name
  | [name, last] => name ++ " or " ++ last
  | name :: others => name ++ ", " ++ enumerate others

/-- What to do when a token of a type is missing. -/
def remedies : TokenType → List String
  | .rightParen => ["Add a closing parenthesis ')'"]
  | .colon => ["Add ':' between the two branches of the conditional"]
  | .endOfInput =>
    ["Remove the trailing input",
      "Parenthesize a nested conditional: a ? b : (c ? d : e)"]
  | _ => []

/-- A token of the wrong type, or no more tokens, where one of some types was expected. -/
def unexpected (expected : List TokenType) (found : TokenType) (location : Option Location) :
    Diagnostic :=
  let wanted := enumerate (expected.map TokenType.name)
  let suggestions := some (expected.flatMap remedies)
  if found = .endOfInput then
    Fault.unexpectedEnd.report location ("Unexpected end of input, expected " ++ wanted)
      ("The expression ended while the parser expected " ++ wanted ++ ".") suggestions
  else
    Fault.unexpectedToken.report location ("Expected " ++ wanted ++ ", found " ++ found.name)
      ("The parser expected to see " ++ wanted ++ " at this position, but found " ++
        found.spelling ++ " instead.") suggestions

/-- A token that follows a complete expression. -/
def trailing (found : TokenType) (lexeme : String) (location : Option Location) : Diagnostic :=
  Fault.trailingInput.report location ("Expected EOF, found " ++ found.name)
    ("A complete expression was parsed, but " ++ Text.quoted lexeme ++ " follows it. " ++
      "A conditional may only appear at the top of an expression or inside parentheses.")
    (some (remedies .endOfInput))

/-- A token at which one level more than a limit would be needed. -/
def tooDeep (limit : Int) (location : Option Location) : Diagnostic :=
  Fault.nestedTooDeeply.report location Fault.nestedTooDeeply.title
    ("Parentheses and operands may nest at most " ++ Decimal.text limit ++ " levels deep.")
    (some ["Split the expression, or bind part of it to an identifier"])

/-! ### Reports of evaluation -/

/-- A division by zero. -/
def divisionByZero (place : Option Location) : Diagnostic :=
  Fault.divisionByZero.report (some (place.getD .unknown)) "Division by zero"
    "The right operand of '/' evaluated to 0."
    (some ["Guard the division with a conditional: d == 0 ? 0 : n / d"])

/-- A shift by a negative count. -/
def negativeShift (count : Int) (place : Option Location) :
    Except DigitLimitError Diagnostic :=
  (Decimal.write count).map fun written =>
    Fault.negativeShift.report (some (place.getD .unknown)) ("Negative shift count: " ++ written)
      "The right operand of '<<' or '>>' must not be negative." none

/-- A shift to the left by more than a limit. -/
def shiftTooLarge (count limit : Int) (place : Option Location) :
    Except DigitLimitError Diagnostic :=
  (Decimal.write count).map fun written =>
    Fault.shiftTooLarge.report (some (place.getD .unknown)) ("Shift count too large: " ++ written)
      ("The right operand of '<<' may be at most " ++ Decimal.text limit ++
        " when the left operand is nonzero.") none

/-- A name without a value; the first three of the similar names are suggested. -/
def unbound (failure : Unbound) : Diagnostic :=
  Fault.unboundIdentifier.report (some (failure.place.getD .unknown))
    ("Unbound identifier: '" ++ failure.name ++ "'")
    ("The identifier '" ++ failure.name ++ "' has no value in the symbol table.")
    (some ((failure.similar.take 3).map (fun name => "Did you mean '" ++ name ++ "'?") ++
      ["Bind '" ++ failure.name ++ "' in the symbol table before evaluating"]))

end Diagnostic

/-! ### Reports of failures -/

/-- What can be said of a failure. -/
inductive Report where
  /-- A full report. -/
  | diagnosed (fault : Fault) (diagnostic : Diagnostic)
  /-- A conversion between integer and text was refused. -/
  | refused (cause : DigitLimitError)
  /-- A value was of a kind that cannot be used. -/
  | foreign (message : String)
  /-- There was no room for all the evaluations that would have been under way at once. -/
  | exhausted
deriving DecidableEq, Inhabited

/-- The message of a report, in full. -/
def Report.text : Report → String
  | diagnosed _ diagnostic => diagnostic.text
  | refused cause => cause.message
  | foreign message => message
  | exhausted => "maximum recursion depth exceeded"

/-- The report of a diagnostic that may have been too long to write. -/
def Report.ofWritten (fault : Fault) : Except DigitLimitError Diagnostic → Report
  | .ok diagnostic => diagnosed fault diagnostic
  | .error cause => refused cause

/-- The report of a failed scan. -/
def ScanError.report : ScanError → Report
  | invalidCharacter character location =>
    .diagnosed .invalidCharacter (.invalidCharacter character (some location))
  | numeralTooLong digits => .refused (.reading digits)

/-- The fault in a row of tokens. -/
def GrammarError.fault : GrammarError → Fault
  | unexpected _ found =>
    if found.type = .endOfInput then .unexpectedEnd else .unexpectedToken
  | trailing _ => .trailingInput
  | tooDeep _ => .nestedTooDeeply

/-- The diagnostic of a fault in a row of tokens. -/
def GrammarError.diagnostic : GrammarError → Diagnostic
  | unexpected expected found => .unexpected expected found.type (some found.location)
  | trailing found => .trailing found.type found.lexeme (some found.location)
  | tooDeep found => .tooDeep nestingLimit (some found.location)

/-- The types of token that would have been accepted. -/
def GrammarError.expected : GrammarError → List TokenType
  | unexpected expected _ => expected
  | trailing _ => [.endOfInput]
  | tooDeep _ => []

/-- The token at which the fault was noticed. -/
def GrammarError.found : GrammarError → Token
  | unexpected _ found | trailing found | tooDeep found => found

/-- The report of a text that is no expression. -/
def ParseError.report : ParseError → Report
  | scan cause => cause.report
  | grammar cause => .diagnosed cause.fault cause.diagnostic

/-- The report of a name without a value. -/
def Unbound.report (failure : Unbound) : Report :=
  .diagnosed .unboundIdentifier (.unbound failure)

/-- The report of an expression without a value. -/
def EvaluationError.report : EvaluationError → Report
  | refused .zeroDivisor place => .diagnosed .divisionByZero (.divisionByZero place)
  | refused (.negativeShift count) place =>
    .ofWritten .negativeShift (Diagnostic.negativeShift count place)
  | refused (.shiftTooLarge count) place =>
    .ofWritten .shiftTooLarge (Diagnostic.shiftTooLarge count Arithmetic.shiftLimit place)
  | unbound failure => failure.report
  | notAnExpression value => .foreign ("cannot evaluate " ++ value.type)

end IntExpr
