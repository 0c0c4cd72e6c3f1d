import Preflight.Invoker
import Preflight.Resolver

/-!
# Programs of a machine

A machine has a file tree and perhaps a search path. Its programs are
started on behalf of the tree's user, whose permission is asked for twice: to
search the directories on the way to a program, and to start it. They are
started by name: a name with a slash is the path of the program, any other is
looked for along the search path. What permission is denied for is passed
over there, and what is not there as well; any other trouble ends the search.
If nothing can be started, the last candidate gives the reason, unless
permission was denied for one.
-/

namespace Preflight

/-- The length that no argument of a program reaches. -/
def Call.argumentLimit : Nat := 131072

namespace StartError

/-- Why a program cannot be started if its path leads nowhere. -/
def ofLookup : LookupError → StartError
  | .accessDenied => .permissionDenied
  | cause => .lookup cause

/-- Whether a search goes on behind a candidate that could not be started. -/
def isPassedOver : StartError → Bool
  | .permissionDenied | .lookup .noSuchFile | .lookup .notADirectory => true
  | _ => false

/-- The reason behind a candidate, given the reason before it. -/
def after (before cause : StartError) : StartError :=
  if before = .permissionDenied then before else cause

end StartError

namespace FileTree

/-- Starts the program at a path. -/
def execute (tree : FileTree) (path : Bytes) (arguments : List String) :
    Except StartError Captured :=
  match tree.find path with
  | .error cause => .error (.ofLookup cause)
  | .ok (.file mode contents) =>
    if tree.mayStart mode = false then .error .permissionDenied
    else if arguments.any (Call.argumentLimit ≤ ·.utf8ByteSize) then
      .error .argumentTooLong
    else .ok (contents.run arguments)
  | .ok _ => .error .permissionDenied

/--
Starts the first of several candidates that can be started. `reason` is why
nothing could be started so far.
-/
def executeFirst (tree : FileTree) (arguments : List String)
    (reason : StartError) : List Bytes → Except StartError Captured
  | [] => .error reason
  | candidate :: rest =>
    match tree.execute candidate arguments with
    | .ok captured => .ok captured
    | .error cause =>
      if cause.isPassedOver then
        tree.executeFirst arguments (reason.after cause) rest
      else .error cause

end FileTree

/-- Whether a name or an argument of a call holds a zero byte. -/
def Call.hasZeroByte (call : Call) : Bool :=
  (call.program :: call.arguments).any fun text =>
    text.toList.contains '\x00'

/-- A file tree and the search path that is set in it. -/
structure Machine where
  tree : FileTree
  searchPath : Option Bytes

namespace Machine

/-- Where programs are looked for if no search path is set. -/
def standardPath : Bytes := Utf8.encode "/bin:/usr/bin"

/-- The resolver over the search path. -/
def resolver (machine : Machine) : Resolver :=
  .searching machine.tree (SearchPath.entries machine.searchPath)

/--
The directories in which programs are looked for. An entry that is too long
to be a path is given up where it starts, which leaves an empty one before
the colon that ends it, and none if it is the last.
-/
def directories : List Bytes → List Bytes
  | [] => []
  | entry :: rest =>
    if Path.isTooLong entry = false then entry :: directories rest
    else if rest.isEmpty then []
    else [] :: directories rest

/--
The file that a name stands for in a directory. No name is read further than
to the first byte too many.
-/
def candidate (name directory : Bytes) : Bytes :=
  if directory.isEmpty then name.take (Path.nameLimit + 1)
  else directory ++ Path.slash :: name.take (Path.nameLimit + 1)

/-- The files that a program's name may stand for, in order. -/
def candidates (machine : Machine) (program : String) : List Bytes :=
  (directories
    (SearchPath.entries (some (machine.searchPath.getD standardPath)))).map
    (candidate (Utf8.encode program))

/-- Starts the programs of the machine. -/
def invoker (machine : Machine) : Invoker := fun call =>
  if call.hasZeroByte then .error .zeroByte
  else if call.program = "" then .error (.lookup .noSuchFile)
  else if call.program.toList.contains '/' then
    machine.tree.execute (Utf8.encode call.program) call.arguments
  else
    machine.tree.executeFirst call.arguments .noCandidate
      (machine.candidates call.program)

end Machine

end Preflight
