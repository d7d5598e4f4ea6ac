import DotBinding.CommandLine.Run

/-!
# The program

The command line program.
-/

namespace DotBinding.CommandLine

/-- What is found at a path. -/
def readFile (path : String) : IO FileState := do
  try
    return .text (← IO.FS.readFile path)
  catch
    | .inappropriateType .. => return .directory
    | .invalidArgument .. => return .nameTooLong
    | _ => return .absent

/-- The paths that a command reads, in plain form. -/
def Command.paths : Command → List String
  | bind template values _ _ => (template.toList ++ values.toList).map plainPath
  | parse template _ => template.toList.map plainPath

end DotBinding.CommandLine

open DotBinding.CommandLine in
/-- Runs the program on its arguments. -/
def main (args : List String) : IO UInt32 := do
  let paths :=
    match Arguments.ofList args with
    | .ok ⟨_, some command⟩ => command.paths
    | _ => []
  let files ← paths.mapM fun (path : String) => return (path, ← readFile path)
  let level ← IO.getEnv logLevelVariable
  match run ⟨level, fun path => (files.lookup path).getD .absent⟩ args with
  | .ok (some outcome) =>
    IO.eprint outcome.logged
    IO.print outcome.printed
    return outcome.exit.toUInt32
  | .ok none =>
    IO.eprint HelpPage.main.text
    return usageExit.toUInt32
  | .error crash =>
    IO.eprintln (crash.name ++ ": " ++ crash.message)
    return 1
