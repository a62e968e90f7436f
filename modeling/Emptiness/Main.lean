import Emptiness.CommandLine.Command

/-!
# The program

Reads the options file that the command line names, carries the command out, and writes what it leaves behind.
-/

namespace Emptiness

/-- What is found under a path of the file system. -/
def findEntry (path : String) : IO FileEntry := do
  if path.toList.contains '\x00' then return .nullInName
  try
    let found ← IO.FS.realPath path
    if ← found.isDir then return .directory
    let octets ← IO.FS.readBinFile path
    return .content octets.data.toList
  catch _ => return .missing

end Emptiness

/-- Carry out a command line. -/
def main (arguments : List String) : IO UInt32 := do
  let command := Emptiness.CommandLine.Command.read arguments
  let entry ← match command.configPath? with
    | some path => Emptiness.findEntry path
    | none => pure .missing
  match command.run entry with
  | .ok outcome =>
    IO.print outcome.stdout
    IO.eprint outcome.stderr
    return UInt32.ofNat outcome.code
  | .error fault =>
    IO.eprintln fault.message
    return 1
