import FluentKotlin.Command.Run

/-! # The program

The store of the machine, and the lines of a run on its two outputs.
-/

namespace FluentKotlin

/-- Computations on the files of the machine. -/
abbrev Machine := IO

instance : FileStore Machine where
  resolve directory path := return directory.resolve path
  kind? path := do
    let place := (← IO.currentDir) / path.written
    if ← place.isDir then return some .directory
    else if ← place.pathExists then return some .file
    else return none
  read path := IO.FS.readFile path.written
  isEmpty path := do
    let place := (← IO.currentDir) / path.written
    return (← place.readDir).isEmpty
  makeDirectory path := IO.FS.createDirAll path.written
  write path text := do
    if Text.holdsHalf text then throw (IO.userError "the text holds half of a character")
    IO.FS.writeFile path.written text

def Breakdown.message : Breakdown → String
  | document e => e.message
  | settings e => e.message
  | name e => e.message
  | noDestination => "there is no destination"

def printEnding : Ending → IO UInt32
  | .done code output messages => do
    output.forM IO.println
    messages.forM IO.eprintln
    return code.toUInt32
  | .broken cause => do
    IO.eprintln cause.message
    return 1

end FluentKotlin

def main (words : List String) : IO UInt32 := do
  let directory := FluentKotlin.Path.ofString (← IO.currentDir).toString
  FluentKotlin.printEnding (← FluentKotlin.runArguments directory words)
