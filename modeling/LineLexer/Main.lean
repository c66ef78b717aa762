import LineLexer.CommandLine.Run

set_option autoImplicit false

namespace LineLexer.Main

def probe (path : Path) : IO (Option Node) := do
  try
    let content ← IO.FS.readBinFile (String.ofList path.shown)
    return some (.file content.toList)
  catch
    | .noFileOrDirectory .. => return none
    | .inappropriateType .. => return some .directory
    | error => throw error

def observe (tree : FileTree) (path : Path) (location : Location) : List Text → IO FileTree
  | [] => return tree
  | part :: rest => do
    let path := path.child part
    let location := location.enter part
    match ← probe path with
    | none => return tree
    | some (.file content) => return { tree with files := tree.files.put location content }
    | some .directory =>
      observe { tree with directories := location :: tree.directories } path location rest

def observePath (tree : FileTree) (path : Path) : IO FileTree :=
  if path.hasNul then return tree
  else
    let base : Base := if path.root = .relative then .working 0 else .root
    observe tree { root := path.root } { base } path.parts

def snapshot (arguments : CommandLine.Arguments) : IO FileTree := do
  let paths := [some arguments.configPath, arguments.inputPath, arguments.outputPath]
  (paths.filterMap id).foldlM observePath {}

partial def readAll (stream : IO.FS.Stream) (soFar : ByteArray) : IO ByteArray := do
  let chunk ← stream.read 65536
  if chunk.isEmpty then return soFar else readAll stream (soFar ++ chunk)

def standardInput (arguments : CommandLine.Arguments) : IO Bytes := do
  if arguments.readsStandardInput then
    return (← readAll (← IO.getStdin) .empty).toList
  else return []

def commit (before after : FileTree) (output : Option Path) : IO Unit := do
  if let some path := output then
    if before ≠ after then
      if let .ok content := after.read path then
        IO.FS.writeBinFile (String.ofList path.shown) ⟨content.toArray⟩

def report (outcome : CommandLine.Outcome) : IO UInt32 := do
  let errors ← IO.getStderr
  (← IO.getStdout).putStr (String.ofList outcome.stdout)
  errors.putStr (String.ofList outcome.stderr)
  match outcome.ending with
  | .returned code => return code.toUInt32
  | .exited code => return code.toUInt32
  | .failed failure =>
    errors.putStrLn (String.ofList failure.message)
    return 1

end LineLexer.Main

open LineLexer in
def main (argv : List String) : IO UInt32 := do
  let argv := argv.map String.toList
  match CommandLine.parse .later argv with
  | .error _ => Main.report (CommandLine.run .later argv {} [])
  | .ok arguments =>
    let tree ← Main.snapshot arguments
    let outcome := CommandLine.run .later argv tree (← Main.standardInput arguments)
    Main.commit tree outcome.tree arguments.outputPath
    Main.report outcome
