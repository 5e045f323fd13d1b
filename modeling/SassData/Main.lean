import SassData.DataModule.Description
import SassData.DataModule.Export
import SassData.Json.Reader

/-!
The exporting process as a program. Its arguments are those of the process; the file system that it works on is
described by JSON text on standard input.
-/

namespace SassData

partial def readAll (stream : IO.FS.Stream) (before : String) : IO String := do
  let line ← stream.getLine
  if line.isEmpty then pure before else readAll stream (before ++ line)

end SassData

open SassData

def runtime : Runtime where
  nesting := 985
  traceback e := "Traceback (most recent call last):\n" ++ e.headline ++ "\n"
  warning _ := "RuntimeWarning: coroutine was never awaited\n"

def main (arguments : List String) : IO UInt32 := do
  let text ← readAll (← IO.getStdin) ""
  match (Json.parse? text).bind Description.fileTree? with
  | none =>
    (← IO.getStderr).putStrLn "standard input describes no file system"
    pure 2
  | some tree =>
    let ended := Export.process runtime tree arguments
    (← IO.getStderr).putStr ended.stderr
    (← IO.getStdout).putStr ended.stdout
    pure (UInt32.ofNat ended.status.toNat)
