import Preflight.Captured
import Preflight.Text.Utf8

/-!
# What a program does

The contents of a program file, as far as a check can tell: it prints bytes
on both streams, may print its arguments in brackets, and ends. Each stream
is turned into text by itself, before the two are joined.
-/

namespace Preflight

/-- How a program ends. -/
inductive Ending where
  /-- On its own, with an exit code. -/
  | exited (code : UInt8)
  /-- By a signal. -/
  | killed (signal : Nat)
  deriving DecidableEq

/-- The exit code that is seen of an ending. -/
def Ending.exitCode : Ending → Option Int
  | .exited code => some code.toNat
  | .killed _ => none

/-- The behaviour of a program. -/
structure Script where
  /-- What it prints on the output stream. -/
  output : Bytes
  /-- What it prints on the error stream. -/
  errors : Bytes
  /-- Whether it prints its arguments on the output stream, last. -/
  echoes : Bool
  /-- How it ends. -/
  ending : Ending
  deriving DecidableEq

namespace Script

/-- A program that prints nothing and reports no fault. -/
def silent : Script := ⟨[], [], false, .exited 0⟩

/-- The arguments as an echoing program prints them. -/
def echo (arguments : List String) : Bytes :=
  arguments.flatMap fun argument => Utf8.encode ("[" ++ argument ++ "]")

/-- What a program leaves behind that is run with `arguments`. -/
def run (script : Script) (arguments : List String) : Captured where
  exitCode := script.ending.exitCode
  output := Utf8.decodeLossy
    (script.output ++ if script.echoes then echo arguments else [])
  errors := Utf8.decodeLossy script.errors

end Script

end Preflight
