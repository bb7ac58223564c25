import Semihosting.Command.Session
import Semihosting.Log.Stamp
import Std.Time.DateTime.Timestamp

/-!
# The command

The outer layer: it finds the files that the command line names, hands them to
`Session.conclude` with standard input, the environment, a random word and the time, writes the
changed files back, and shows the reports.
-/

namespace Semihosting.Main

/-- The name of a path for the operating system. -/
def systemName (path : Path) : String := "/" ++ "/".intercalate path

/-- The entry that the operating system has at a path. -/
def probe (path : Path) : IO (Option Node) :=
  try
    return some (.file (← IO.FS.readBinFile (systemName path)))
  catch e =>
    match e with
    | .inappropriateType .. => return some .directory
    | _ => return none

/-- Adds the entries on the way from `here` along the parts of a name, as far as there are any. -/
def gather (tree : DirTree) (here : Path) : List String → IO DirTree
  | [] => return tree
  | part :: rest =>
    if part = "" ∨ part = "." then gather tree here rest
    else if part = ".." then gather tree here.dropLast rest
    else do
      let path := here ++ [part]
      match ← probe path with
      | some .directory => gather (tree.putDirectory path) path rest
      | some (.file data) => return tree.put path data
      | none => return tree

/-- The part of the operating system's tree that some file names lead through. -/
def snapshot (names : List String) : IO DirTree := do
  let workdir := DirTree.parts (← IO.currentDir).toString
  let mut tree := DirTree.ofWorkdir workdir
  for name in names do
    match name.splitOn "/" with
    | "" :: fromRoot => tree ← gather tree [] fromRoot
    | fromWorkdir => tree ← gather tree workdir fromWorkdir
  return tree

/-- Writes the files of a tree that differ from those of the tree before. -/
def commit (before after : DirTree) : IO Unit := do
  for (path, node) in after.nodes.entries do
    match node with
    | .file data =>
      unless before.node? path = some node do IO.FS.writeBinFile (systemName path) data
    | .directory => pure ()

/-- The code under which a shell reports a process that aborted. -/
def abortedCode : UInt32 := 134

end Semihosting.Main

open Semihosting in
/-- Runs the command on the words behind its name and answers its exit code. -/
def main (words : List String) : IO UInt32 := do
  let host ← IO.getEnv "HOSTCALL_HOST"
  let logSpec ← IO.getEnv "HOSTCALL_LOG"
  let files := match Invocation.parse host logSpec words with
    | .ok { task := .run options, .. } => options.files
    | _ => []
  let stdin ← if files.contains "-" then (← IO.getStdin).readBinToEnd else pure .empty
  let tree ← Main.snapshot files
  let now := (← Std.Time.Timestamp.now).toNanosecondsSinceUnixEpoch.val.toNat
  let surroundings : Surroundings := {
    tree, stdin, host, logSpec
    entropy := [Bytes.toWord (← IO.getRandomBytes 8)]
    clock := [UInt64.ofNat now] }
  let conclusion := Session.conclude surroundings words
  Main.commit tree conclusion.tree
  let stamp := Stamp.render (now / 1000000000)
  for (channel, report) in conclusion.shown do
    match channel with
    | .stdout => IO.println (report.text stamp)
    | .stderr => IO.eprintln (report.text stamp)
  match conclusion.ending with
  | .exit code => return code.toUInt32
  | .killed => return Main.abortedCode
