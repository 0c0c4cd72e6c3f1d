/-!
# What a finished program leaves behind

A program that was started leaves an exit code and the text of its two
output streams. A program that a signal ended has no exit code. Old
interpreters announce their version on the error stream and newer ones on
the other, so the two are read as one text, the error stream last.
-/

namespace Preflight

/-- The exit code of a program and what it printed. -/
structure Captured where
  /-- The exit code, or `none` if a signal ended the program. -/
  exitCode : Option Int
  /-- The text of the output stream. -/
  output : String
  /-- The text of the error stream. -/
  errors : String
  deriving DecidableEq

namespace Captured

/-- Everything the program printed, the error stream last. -/
def combined (captured : Captured) : String :=
  captured.output ++ captured.errors

/-- Whether the program ended on its own and reported no fault. -/
def succeeded (captured : Captured) : Bool :=
  captured.exitCode == some 0

end Captured

end Preflight
