/-
The program: it looks at the world, runs what the command line asks for, and prints
the answer.

Of the world only those files are read that the answer can depend on: the two places
of the settings file, and the catalog file that the settings name.
-/
import InvoiceApproval.CommandLine

namespace InvoiceApproval

/-- Reads what stands at a path, if anything does. -/
def readStored (path : String) : IO (Option Stored) :=
  tryCatch (do return some (.bytes (← IO.FS.readBinFile path).toList)) fun
    | .inappropriateType .. => return some .directory
    | _ => return none

/-- Reads what stands at a path into a world. -/
def addPath (w : World) (path : String) : IO World := do
  match ← readStored path with
  | some stored => return w.put path stored
  | none => return w

/-- Reads a variable into a world. -/
def addVariable (w : World) (name : String) : IO World := do
  match ← IO.getEnv name with
  | some value => return { w with environment := (name, value) :: w.environment }
  | none => return w

/-- Looks at the world. -/
def look : IO World := do
  let w ← Settings.usualPaths.foldlM addPath ⟨[], []⟩
  let named := match (Settings.filePath? w none).map w.readText with
    | some (.ok text) => Interpolation.names none text.toList
    | _ => []
  let w ← (Settings.Key.all.flatMap Settings.Key.variableNames ++ named).foldlM addVariable w
  match Settings.load w .none with
  | .ok { catalogPath := some path, .. } => addPath w path
  | _ => return w

end InvoiceApproval

open InvoiceApproval in
/-- Runs a command line. -/
def main (words : List String) : IO UInt32 := do
  match Invocation.ofWords? words with
  | some invocation =>
    let answer := invocation.run (← look)
    IO.println answer.output
    return answer.exitCode.toUInt32
  | none =>
    IO.eprintln usageText
    return usageExitCode.toUInt32
