import Preflight.FileTree.Listing
import Preflight.Machine
import Preflight.Proofs.Text.Utf8
import Preflight.Proofs.Version

/-!
# What of the printed bytes is announced

A program prints bytes, and they need not be text. Each stream is read by
itself, with a character put in for what spells none, and the version is taken
from the first line of both together. A byte string that breaks off inside a
character could be read differently by what comes behind it, so it is worth
knowing that nothing behind the first line is ever seen: a line feed is an
ASCII octet, at which reading restarts.

So of the bytes on the output stream only those in front of the first line
feed count. The error stream counts if there is none, and of it again only
what stands in front of its first line feed.

## Main results

* `FileTree.exists_script_of_execute`, `Machine.exists_script_of_invoker` —
  what a machine starts is a script that lies in its file tree.
* `Script.announces_of_lineFeed`, `Script.announces_eq` — the version by
  the bytes that count.
* `Script.announces_undisturbed` — two programs that agree on these bytes
  announce the same.
-/

namespace Preflight

/-! ## Bytes of a line -/

namespace Utf8

/-- The octet of a line feed. -/
def lineFeed : UInt8 := 0x0A

/-- The bytes in front of the first line feed. -/
def beforeFeed (bytes : Bytes) : Bytes := bytes.takeWhile (· ≠ lineFeed)

theorem decodeLossy_append_lineFeed (front back : Bytes) :
    (decodeLossy (front ++ lineFeed :: back)).toList
      = (decodeLossy front).toList ++ '\n' :: (decodeLossy back).toList := by
  have hFeed : lineFeed < 0x80 := by decide
  have hChar : Char.ofNat lineFeed.toNat = '\n' := by decide
  rw [decodeLossy_append_ascii front hFeed back, hChar]
  simp

/-- Of bytes that are read behind a text a line is made up to the line feed. -/
theorem untilBreak_append_decodeLossy (text : List Char) (bytes : Bytes) :
    untilBreak (text ++ (decodeLossy bytes).toList)
      = untilBreak (text ++ (decodeLossy (beforeFeed bytes)).toList) := by
  rcases eq_takeWhile_or lineFeed bytes with hNone | ⟨rest, hRest⟩
  · rw [beforeFeed, ← hNone]
  · have hBytes : (decodeLossy bytes).toList
        = (decodeLossy (beforeFeed bytes)).toList
          ++ '\n' :: (decodeLossy rest).toList := by
      rw [← decodeLossy_append_lineFeed, beforeFeed, ← hRest]
    rw [hBytes, ← List.append_assoc, untilBreak_append]

end Utf8

/-! ## Programs of a machine -/

namespace FileTree

variable {tree : FileTree} {arguments : List String} {captured : Captured}

theorem exists_script_of_execute {path : Bytes}
    (h : tree.execute path arguments = .ok captured) :
    ∃ mode script, tree.find path = .ok (.file mode script) ∧
      captured = script.run arguments := by
  unfold execute at h
  split at h
  · cases h
  · rename_i mode script hFind
    split at h
    · cases h
    · split at h
      · cases h
      · exact ⟨mode, script, hFind, (Except.ok.inj h).symm⟩
  · cases h

/-- What is started of several candidates is one of them. -/
theorem exists_execute_of_executeFirst {candidates : List Bytes}
    {reason : StartError}
    (h : tree.executeFirst arguments reason candidates = .ok captured) :
    ∃ path ∈ candidates, tree.execute path arguments = .ok captured := by
  induction candidates generalizing reason with
  | nil => cases h
  | cons candidate rest ih =>
    rw [executeFirst] at h
    split at h
    · rename_i first hFirst
      cases h
      exact ⟨candidate, List.mem_cons_self, hFirst⟩
    · split at h
      · obtain ⟨path, hPath, hExecute⟩ := ih h
        exact ⟨path, List.mem_cons_of_mem _ hPath, hExecute⟩
      · cases h

end FileTree

/-- What a machine starts is a script that lies somewhere in its file tree. -/
theorem Machine.exists_script_of_invoker {machine : Machine} {call : Call}
    {captured : Captured} (h : machine.invoker call = .ok captured) :
    ∃ path mode script, machine.tree.find path = .ok (.file mode script) ∧
      captured = script.run call.arguments := by
  unfold invoker at h
  split at h
  · cases h
  · split at h
    · cases h
    · split at h
      · exact ⟨_, FileTree.exists_script_of_execute h⟩
      · obtain ⟨path, -, hExecute⟩ :=
          FileTree.exists_execute_of_executeFirst h
        exact ⟨path, FileTree.exists_script_of_execute hExecute⟩

/-- A machine that holds one program. -/
def Machine.holding (script : Script) : Machine :=
  ⟨.ofEntries [⟨Utf8.encode "python", .file 0o755 script⟩], none⟩

/-- Every script is what some machine starts. -/
theorem Machine.invoker_holding (script : Script) :
    (holding script).invoker ⟨"./python", ["-V"]⟩ = .ok (script.run ["-V"]) :=
  rfl

/-! ## Runs -/

namespace Script

/-- The bytes that a run prints on the output stream. -/
def printed (script : Script) (arguments : List String) : Bytes :=
  script.output ++ if script.echoes then echo arguments else []

/-- The version that a run announces. -/
def announces (script : Script) (arguments : List String) : Version :=
  .ofOutput (script.run arguments).combined

theorem toList_combined_run (script : Script) (arguments : List String) :
    (script.run arguments).combined.toList
      = (Utf8.decodeLossy (script.printed arguments)).toList
        ++ (Utf8.decodeLossy script.errors).toList := by
  rw [Captured.combined, String.toList_append]
  rfl

/-- Nothing behind a line feed on the output stream counts. -/
theorem announces_of_lineFeed {script : Script} {arguments : List String}
    {front rest : Bytes}
    (h : script.printed arguments = front ++ Utf8.lineFeed :: rest) :
    script.announces arguments
      = .ofLine (untilBreak (Utf8.decodeLossy front).toList) := by
  rw [announces, Version.ofOutput_eq_ofLine, toList_combined_run, h,
    Utf8.decodeLossy_append_lineFeed, List.append_assoc, List.cons_append,
    untilBreak_append]

/-- Nothing behind a line feed on the error stream counts in any case. -/
theorem announces_eq (script : Script) (arguments : List String) :
    script.announces arguments
      = .ofLine (untilBreak
          ((Utf8.decodeLossy (script.printed arguments)).toList
            ++ (Utf8.decodeLossy (Utf8.beforeFeed script.errors)).toList)) := by
  rw [announces, Version.ofOutput_eq_ofLine, toList_combined_run,
    Utf8.untilBreak_append_decodeLossy]

/--
Two programs that print the same up to a line feed on the output stream
announce the same version, whatever bytes follow there, whatever they print on
the error stream and however they end. If there is no line feed there, the
version is decided by all the bytes there and those in front of the first line
feed on the error stream. These are all the programs that a machine can start,
and their bytes are read in parts between ASCII octets, text as it is.
-/
theorem announces_undisturbed :
    (∀ (one other : Script) (arguments otherArguments : List String)
        (front rest otherRest : Bytes),
      one.printed arguments = front ++ 0x0A :: rest →
      other.printed otherArguments = front ++ 0x0A :: otherRest →
      Version.ofOutput (one.run arguments).combined
        = Version.ofOutput (other.run otherArguments).combined) ∧
    (∀ (one other : Script) (arguments otherArguments : List String),
      one.printed arguments = other.printed otherArguments →
      one.errors.takeWhile (· ≠ 0x0A) = other.errors.takeWhile (· ≠ 0x0A) →
      Version.ofOutput (one.run arguments).combined
        = Version.ofOutput (other.run otherArguments).combined) ∧
    (∀ (machine : Machine) (call : Call) (captured : Captured),
      machine.invoker call = .ok captured →
      ∃ path mode script,
        machine.tree.find path = .ok (.file mode script) ∧
        captured = script.run call.arguments) ∧
    (∀ script : Script, ∃ machine call,
      Machine.invoker machine call = .ok (script.run call.arguments)) ∧
    (∀ (script : Script) (arguments : List String),
      (script.run arguments).output
          = Utf8.decodeLossy (script.printed arguments) ∧
        (script.run arguments).errors = Utf8.decodeLossy script.errors) ∧
    (∀ (front : Bytes) (octet : UInt8) (back : Bytes), octet < 0x80 →
      Utf8.decodeLossy (front ++ octet :: back)
        = Utf8.decodeLossy front
          ++ String.singleton (Char.ofNat octet.toNat)
          ++ Utf8.decodeLossy back) ∧
    ∀ text, Utf8.decodeLossy (Utf8.encode text) = text := by
  refine ⟨?_, ?_, ?_, ?_, fun _ _ => ⟨rfl, rfl⟩, ?_, Utf8.decodeLossy_encode⟩
  · intro one other arguments otherArguments front rest otherRest h hOther
    have hOne := announces_of_lineFeed h
    rw [← announces_of_lineFeed hOther] at hOne
    exact hOne
  · intro one other arguments otherArguments hOutput hErrors
    have hOne := announces_eq one arguments
    have hFeed : Utf8.beforeFeed one.errors = Utf8.beforeFeed other.errors :=
      hErrors
    rw [hOutput, hFeed, ← announces_eq] at hOne
    exact hOne
  · intro machine call captured
    exact Machine.exists_script_of_invoker
  · intro script
    exact ⟨_, _, Machine.invoker_holding script⟩
  · intro front octet back h
    exact Utf8.decodeLossy_append_ascii front h back

/--
A character that breaks off at the end of the line, with its last octet behind
the line feed, and one that breaks off at the end of the output stream, with
its last octets on the error stream.
-/
theorem announces_undisturbed_by_broken_characters :
    let late : Script :=
      ⟨Utf8.encode "Python 3" ++ [0xE2, 0x82, 0x0A, 0xAC], [0xFF], false,
        .exited 0⟩
    let loud : Script :=
      ⟨Utf8.encode "Python 3" ++ [0xE2, 0x82, 0x0A, 0xF0, 0x9F],
        Utf8.encode "fault\n", true, .killed 11⟩
    let split (rest : Bytes) : Script :=
      ⟨Utf8.encode "Python 2" ++ [0xF0, 0x9F], [0x98, 0x80, 0x0A] ++ rest,
        false, .exited 1⟩
    Version.ofOutput (late.run []).combined
        = Version.ofOutput (loud.run ["-V"]).combined ∧
      Version.ofOutput ((split []).run []).combined
        = Version.ofOutput ((split [0xC0]).run []).combined ∧
      (∃ path mode script,
        (Machine.holding late).tree.find path = .ok (.file mode script) ∧
        late.run ["-V"] = script.run ["-V"]) ∧
      Utf8.decodeLossy [0xE2, 0x82, 0x0A, 0xAC]
        = Utf8.decodeLossy [0xE2, 0x82] ++ "\n" ++ Utf8.decodeLossy [0xAC] := by
  intro late loud split
  obtain ⟨hOutput, hErrors, hMachine, -, -, hAscii, -⟩ :=
    announces_undisturbed
  refine ⟨?_, ?_, ?_, ?_⟩
  · exact hOutput late loud [] ["-V"] (Utf8.encode "Python 3" ++ [0xE2, 0x82])
      [0xAC] ([0xF0, 0x9F] ++ echo ["-V"]) (by rfl) (by rfl)
  · exact hErrors (split []) (split [0xC0]) [] [] rfl (by decide +kernel)
  · exact hMachine _ _ _ (Machine.invoker_holding late)
  · exact hAscii [0xE2, 0x82] 0x0A [0xAC] (by decide)

end Script

end Preflight
