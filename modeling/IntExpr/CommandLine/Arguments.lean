/-
This file reads the arguments of the command line in two passes. The first sorts each argument
by itself: an option, a word that is spelled like an option but is none, a plain argument, or
the double dash, behind which everything is plain. The second works through them in order. Only
the first unbroken run of plain arguments gives the expressions; other plain arguments, and
words that are no options, are left over and in the end refused.

A long option may be shortened as long as it stays unambiguous, and may have a value attached by
an equals sign. A short option may have its value, or further short options, attached directly
or by an equals sign.
-/

import IntExpr.Binding
import IntExpr.CommandLine.Usage
import IntExpr.Text.CharacterClass

namespace IntExpr.CommandLine

/-! ### Options -/

/-- The options that have no value. -/
inductive Flag where
  | help | tree | json | verbose | version
deriving DecidableEq, Inhabited

/-- The options. -/
inductive Switch where
  | flag (flag : Flag)
  /-- The option whose value is a binding. -/
  | define
deriving DecidableEq, Inhabited

namespace Switch

/-- The ways to write options, in the order in which they are listed. -/
def spellings : List (String × Switch) :=
  [("-h", flag .help), ("--help", flag .help), ("-D", define), ("--define", define),
    ("--ast", flag .tree), ("--json", flag .json), ("-v", flag .verbose),
    ("--verbose", flag .verbose), ("--version", flag .version)]

/-- An option with all of its spellings, as messages name it. -/
def title (switch : Switch) : String :=
  String.intercalate "/" ((spellings.filter (·.2 = switch)).map Prod.fst)

/-- The option that is spelled in a given way. -/
def ofSpelling? (spelling : List Char) : Option Switch :=
  spellings.lookup (String.ofList spelling)

end Switch

/-- What is attached to an option in the same argument. -/
inductive Attached where
  /-- Nothing. -/
  | nothing
  /-- A text behind a long option and an equals sign. -/
  | value (text : List Char)
  /-- A text behind a short option, whether or not an equals sign stands between them. -/
  | tail (text : List Char)
deriving DecidableEq, Inhabited

/-- What an argument is. -/
inductive Sense where
  /-- A plain argument. -/
  | plain
  /-- The double dash. -/
  | separator
  /-- An option, with what is attached to it. -/
  | option (switch : Switch) (attached : Attached)
  /-- A word that is spelled like an option but is none. -/
  | unknown
deriving DecidableEq, Inhabited

/-- An argument as it was written, with what it is. -/
structure Argument where
  written : String
  sense : Sense
deriving DecidableEq, Inhabited

/-- A fault in the arguments. -/
inductive UsageError where
  /-- A word is the start of several options. -/
  | ambiguous (word : String) (spellings : List String)
  /-- A text is attached to an option without a value. -/
  | ignoredText (flag : Flag) (text : String)
  /-- The option for a binding is not followed by one. -/
  | missingBinding
  /-- A binding cannot be read. -/
  | badBinding (text : String) (cause : Binding.BindingError)
  /-- Words that no option and no expression took. -/
  | leftOver (words : List String)
deriving DecidableEq, Inhabited

/-- A fault that concerns an option, in words. -/
def optionMessage (switch : Switch) (message : String) : String :=
  "argument " ++ switch.title ++ ": " ++ message

/-- A fault in words. -/
def UsageError.message : UsageError → String
  | ambiguous word spellings =>
    "ambiguous option: " ++ word ++ " could match " ++ String.intercalate ", " spellings
  | ignoredText flag text =>
    optionMessage (.flag flag) ("ignored explicit argument " ++ Text.quoted text)
  | missingBinding => optionMessage .define "expected one argument"
  | badBinding text (.tooLong _) =>
    optionMessage .define ("invalid parse_define value: " ++ Text.quoted text)
  | badBinding _ cause => optionMessage .define cause.message
  | leftOver words => "unrecognized arguments: " ++ String.intercalate " " words

/-! ### Sorting -/

/-- The text before the first equals sign, and the one behind it if there is such a sign. -/
def splitEquals (text : List Char) : List Char × Option (List Char) :=
  let before := text.takeWhile (· ≠ '=')
  match text.drop before.length with
  | [] => (before, none)
  | _ :: behind => (before, some behind)

/-- Whether a word starts like a long option. -/
def isLong : List Char → Bool
  | '-' :: '-' :: _ => true
  | _ => false

/-- What the text behind an equals sign, if there is one, is to the option before it. -/
def attach (option : List Char) : Option (List Char) → Attached
  | none => .nothing
  | some text => if isLong option then .value text else .tail text

/-- Whether nothing is left but, perhaps, a final line feed. -/
def isTextEnd (text : List Char) : Bool :=
  text = [] || text = ['\n']

/-- Whether a text is a row of decimal digits with nothing behind it. -/
def isDigitRow (text : List Char) : Bool :=
  !(text.takeWhile Text.isDecimalDigit).isEmpty && isTextEnd (text.dropWhile Text.isDecimalDigit)

/-- A negative integer or decimal fraction; such an argument is plain. -/
def isNegativeNumber : List Char → Bool
  | '-' :: text =>
    isDigitRow text ||
      match text.dropWhile Text.isDecimalDigit with
      | '.' :: fraction => isDigitRow fraction
      | _ => false
  | _ => false

/-- The options that a word with a dash can stand for, each with its spelling: a long word for
every long option it is the start of, a short one for the option of its first letter. -/
def candidates (text : List Char) : List (String × Sense) :=
  match text with
  | '-' :: '-' :: _ =>
    let (before, behind) := splitEquals text
    (Switch.spellings.filter fun spelling => before.isPrefixOf spelling.1.toList).map
      fun spelling => (spelling.1, .option spelling.2 (attach before behind))
  | '-' :: letter :: tail =>
    (Switch.spellings.filter fun spelling => spelling.1.toList = ['-', letter]).map
      fun spelling => (spelling.1, .option spelling.2 (.tail tail))
  | _ => []

/-- A word that starts with a dash and is no option as it stands. -/
def sortWord (text : List Char) : Except UsageError Sense :=
  match candidates text with
  | [] => .ok (if isNegativeNumber text || text.contains ' ' then .plain else .unknown)
  | [(_, sense)] => .ok sense
  | several => .error (.ambiguous (String.ofList text) (several.map Prod.fst))

/-- One argument before any double dash. -/
def sort (text : List Char) : Except UsageError Sense :=
  match text with
  | '-' :: _ :: _ =>
    let (before, behind) := splitEquals text
    match Switch.ofSpelling? before with
    | some switch => .ok (.option switch (attach before behind))
    | none => sortWord text
  | _ => .ok .plain

/-- All arguments. -/
def sortAll : List String → Except UsageError (List Argument)
  | [] => .ok []
  | "--" :: rest => .ok (⟨"--", .separator⟩ :: rest.map (⟨·, .plain⟩))
  | text :: rest => do
    let sense ← sort text.toList
    let arguments ← sortAll rest
    return ⟨text, sense⟩ :: arguments

/-! ### Options in an argument -/

/-- What an argument with options asks for. -/
inductive Action where
  /-- An option without a value. -/
  | flag (flag : Flag)
  /-- A binding. -/
  | define (text : String)
deriving DecidableEq, Inhabited

/-- Actions and the arguments behind the ones that ask for them. -/
abbrev Actions := Except UsageError (List Action × List Argument)

/-- The actions of an option with nothing attached; a binding is then the next argument. -/
def freeActions (switch : Switch) (rest : List Argument) : Actions :=
  match switch, rest with
  | .flag flag, rest => .ok ([.flag flag], rest)
  | .define, ⟨text, .plain⟩ :: rest => .ok ([.define text], rest)
  | .define, _ => .error .missingBinding

/-- The actions of a long option with a text behind an equals sign. -/
def valueActions (switch : Switch) (text : List Char) (rest : List Argument) : Actions :=
  match switch with
  | .flag flag => .error (.ignoredText flag (String.ofList text))
  | .define => .ok ([.define (String.ofList text)], rest)

/-- Actions after that of a flag. -/
def afterFlag (flag : Flag) : Actions → Actions
  | .ok (actions, rest) => .ok (.flag flag :: actions, rest)
  | .error cause => .error cause

/-- The actions of a short option with a text behind it. Behind a flag, the text has to consist of
further short options, down to one that takes what follows it as its value; the first letter
that is no option is refused together with the rest of the text. -/
def tailActions (switch : Switch) (text : List Char) (rest : List Argument) : Actions :=
  match switch, text with
  | .define, text => .ok ([.define (String.ofList text)], rest)
  | .flag flag, [] => .error (.ignoredText flag "")
  | .flag flag, letter :: tail =>
    match Switch.ofSpelling? ['-', letter] with
    | none => .error (.ignoredText flag (String.ofList text))
    | some next =>
      match tail with
      | [] => afterFlag flag (freeActions next rest)
      | tail => afterFlag flag (tailActions next tail rest)

/-- The actions of an option with what is attached to it. -/
def optionActions (switch : Switch) (attached : Attached) (rest : List Argument) : Actions :=
  match attached with
  | .nothing => freeActions switch rest
  | .value text => valueActions switch text rest
  | .tail text => tailActions switch text rest

end IntExpr.CommandLine
