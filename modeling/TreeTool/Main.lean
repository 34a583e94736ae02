import TreeTool.CommandLine.Run
import TreeTool.Host

/-!
# The program

The outermost layer: it brings the files that the command line can name onto a machine, runs the
command line there, and carries output and changed files back. Programs run on the machine's own
shell, so a tool has to be a script for it.
-/

namespace TreeTool.Main

open Files (Path Place Tree Entry)

def variableNames : List String :=
  ["PATH", Settings.binaryVariable, Settings.timeoutVariable, CommandLine.journalVariable]

def environment : IO Environment :=
  variableNames.foldlM (fun e n => do
    match ← IO.getEnv n with
    | some v => return e.put n v
    | none => return e) []

def pathsIn (a : String) : List String :=
  match Text.cutFirst '=' a.toList with
  | some (_, v) => [a, String.ofList v]
  | none => [a]

def placeOf (here : Place) (path : String) : Place :=
  let p := Path.ofString path
  (if p.absolute then [] else here) ++ p.names.filter (· ≠ ".")

def withFile (m : Machine) (path : String) : IO Machine := do
  try
    let content := (← IO.FS.readBinFile path).toList
    let place := placeOf m.here path
    let files := m.files.makeDirectories [] place.dropLast
    return { m with files := files.put place (.file content (content.take 2 == [0x23, 0x21])) }
  catch _ => return m

def binaryIn (m : Machine) (path : String) : List String :=
  match Settings.ofFile m.files m.here path with
  | .ok s => [s.binary]
  | .error _ => []

def machine (args : List String) : IO Machine := do
  let here := (Path.ofString (← IO.currentDir).toString).names
  let e ← environment
  let m : Machine :=
    { files := Host.standardTree.makeDirectories [] here, here := here, environment := e }
  let named := EnvironmentFile.fileName :: args.flatMap pathsIn ++
    (e.get? Settings.binaryVariable).toList
  let m ← named.foldlM withFile m
  (named.flatMap (binaryIn m)).foldlM withFile m

def changed (before after : Tree) : List (Place × Text.Bytes) :=
  after.entries.filterMap fun (p, e) =>
    match e with
    | .file content _ => if before.get? p = some e then none else some (p, content)
    | _ => none

def bytesOf (bs : Text.Bytes) : ByteArray := ByteArray.mk bs.toArray

end TreeTool.Main

open TreeTool in
def main (args : List String) : IO UInt32 := do
  let m ← Main.machine args
  let id := RequestId.fresh (← IO.monoMsNow) 1
  let a := CommandLine.run Host.start id m args
  for (place, content) in Main.changed m.files a.files do
    IO.FS.writeBinFile ("/" ++ "/".intercalate place) (Main.bytesOf content)
  (← IO.getStdout).write a.stdout.toUTF8
  (← IO.getStderr).write (Main.bytesOf a.stderr)
  return a.exit.toNat.toUInt32
