import LinkedDocs.Command.Line

/-!
# The program

Finds out what is at the paths among the arguments, runs the command, and writes and prints what it
plans.
-/

namespace LinkedDocs.Command

/-- What is found at a path. What is there and cannot be read counts as a directory. -/
def findFile (path : Text) : IO File := do
  try
    return .content (← IO.FS.readBinFile (String.ofList path)).toList
  catch
    | .noFileOrDirectory .. => return .missing .absent
    | _ => return .directory

/-- Prints what a run gives. -/
def Outcome.print (outcome : Outcome) : IO UInt32 := do
  for notice in outcome.notices do
    IO.eprintln (String.ofList notice.spellHalves)
  IO.print (String.ofList outcome.printed.toText)
  return outcome.exitCode.toUInt32

/-- Tells how a run ends. -/
def Ending.tell : Ending → IO UInt32
  | .misused => do
    IO.eprint (String.ofList helpText)
    return 2
  | .finished outcome => outcome.print
  | .broken fault => do
    IO.eprintln (String.ofList (fault.label ++ ": ".toList ++ fault.message).spellHalves)
    return 1
  -- Nobody sees this: the plan of such a run is never there.
  | .never => return 1

end LinkedDocs.Command

open LinkedDocs.Command in
/-- Runs the program. -/
def main (args : List String) : IO UInt32 := do
  let args := args.map String.toList
  let found ← (Request.pathsIn args).mapM fun path => return (path, ← findFile path)
  let files := fun path => (found.lookup path).getD (.missing .absent)
  match Request.read files args with
  | .error ending => ending.tell
  | .ok request =>
    let input ← if request.readsInput then (← IO.getStdin).readToEnd else pure ""
    let plan := request.run files input.toList
    if let some (path, t) := plan.written then
      IO.FS.writeFile (String.ofList path) (String.ofList t)
    plan.ending.tell
