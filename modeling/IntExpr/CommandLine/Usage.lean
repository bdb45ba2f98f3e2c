/-
This file holds what the command line says about itself.
-/

namespace IntExpr.CommandLine

/-- The expression that is evaluated when none is given. -/
def defaultExpression : String := "4+ 5 -22 - 10"

/-- How the program is called. -/
def usage : String :=
  "usage: exprcalc [-h] [-D NAME=VALUE] [--ast] [--json] [-v] [--version]\n" ++
    "                [EXPR ...]\n"

/-- The program's name and version. -/
def versionText : String := "exprcalc 0.1.0\n"

/-- A fault in the way the program was called. -/
def usageError (message : String) : String :=
  usage ++ "exprcalc: error: " ++ message ++ "\n"

/-- The full description of the program. -/
def helpText : String :=
  usage ++
    "\n" ++
    "Evaluate integer expressions\n" ++
    "\n" ++
    "positional arguments:\n" ++
    "  EXPR                  Expressions to evaluate (default: \"" ++ defaultExpression ++ "\")\n" ++
    "\n" ++
    "options:\n" ++
    "  -h, --help            show this help message and exit\n" ++
    "  -D NAME=VALUE, --define NAME=VALUE\n" ++
    "                        Bind an identifier (repeatable)\n" ++
    "  --ast                 Print the syntax tree before each result\n" ++
    "  --json                Print results as JSON objects, one per line\n" ++
    "  -v, --verbose         Enable debug logging\n" ++
    "  --version             show program's version number and exit\n" ++
    "\n" ++
    "Examples:\n" ++
    "    exprcalc \"2 + 3 * 4\"                  # 14\n" ++
    "    exprcalc -D x=7 \"x > 5 ? x : 0\"       # 7\n" ++
    "    exprcalc --ast \"(1 + 2) << 3\"         # Show the syntax tree as well\n" ++
    "        \n"

end IntExpr.CommandLine
