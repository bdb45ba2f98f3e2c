/-
This file gives the report of a failure and the text of a report: a headline with the severity
and the code, the place, and, where there is any, help and a list of suggestions.
-/

import IntExpr.Location
import IntExpr.Text.LetterCase

namespace IntExpr

/-- A report of a failure. -/
structure Diagnostic where
  message : String
  location : Option Location
  severity : String
  code : Option String
  help : Option String
  suggestions : Option (List String)
deriving DecidableEq, Inhabited

namespace Diagnostic

/-- The code in brackets; an empty code is left out like a missing one. -/
def codeText (diagnostic : Diagnostic) : String :=
  match diagnostic.code with
  | none | some "" => ""
  | some code => "[" ++ code ++ "]"

/-- The place, or the word for none. -/
def locationText (diagnostic : Diagnostic) : String :=
  match diagnostic.location with
  | none => "None"
  | some location => location.text

/-- The help line; empty help is left out like missing help. -/
def helpText (diagnostic : Diagnostic) : String :=
  match diagnostic.help with
  | none | some "" => ""
  | some help => "  help: " ++ help ++ "\n"

/-- The suggestions, one to a line under a heading; no heading stands over an empty list. -/
def suggestionsText (diagnostic : Diagnostic) : String :=
  match diagnostic.suggestions with
  | none | some [] => ""
  | some suggestions =>
    "  suggestions:\n" ++ String.join (suggestions.map fun line => "    - " ++ line ++ "\n")

/-- The full text of a report. -/
def text (diagnostic : Diagnostic) : String :=
  Text.toCapital diagnostic.severity ++ diagnostic.codeText ++ ": " ++ diagnostic.message ++ "\n" ++
    "  --> " ++ diagnostic.locationText ++ "\n" ++ diagnostic.helpText ++
    diagnostic.suggestionsText

end Diagnostic

end IntExpr
