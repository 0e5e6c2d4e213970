import Slideshow.CommandLine.Run

/-!
# The program

The command line program: it looks at the files that the command line speaks of, runs the command
line, and prints and writes what comes of it.
-/

namespace Slideshow.Main

/-- Adds what lies at a path, if anything does. -/
def look (files : Files) (path : String) : IO Files := do
  try
    let bytes ← IO.FS.readBinFile path
    return files.add path bytes.toList
  catch
    | .noFileOrDirectory .. => return files
    | _ => return files.addFolder path

/-- Adds what lies at a path and on the way there. -/
def lookAlong (files : Files) (path : String) : IO Files :=
  (Path.ways path).foldlM look files

/-- Writes the files that changed. -/
def keep (before after : Files) : IO Unit :=
  after.nodes.forM fun (place, node) =>
    match node with
    | .file bytes =>
      unless before.nodes.contains (place, node) do
        IO.FS.writeBinFile (Path.ofLocation place) ⟨bytes.toArray⟩
    | _ => pure ()

/-- Prints how a run ended. -/
def report : Except CommandLine.Fault Exit → IO UInt32
  | .ok exit => do
    IO.print exit.output
    IO.eprint exit.complaint
    return exit.code.toUInt32
  | .error fault => do
    IO.eprintln fault.message
    return 1

end Slideshow.Main

open Slideshow in
def main (arguments : List String) : IO UInt32 := do
  let settings : Settings := {}
  let home : Files := { home := Path.resolve [] (← IO.currentDir).toString }
  let files ← (CommandLine.paths home settings arguments).foldlM Main.lookAlong home
  let outcome := CommandLine.run ⟨settings, files, fun _ => none, []⟩ arguments
  IO.eprint (CommandLine.logText outcome.log)
  Main.keep files outcome.files
  Main.report outcome.ending
