import QueryRelay.Command.Line

/-!
# The command line

The program reads one JSON command per line on standard input and writes one answer line for
each, flushed, until the input ends (`Command.answerLine`). Lines holding only blanks are
skipped.
-/

open QueryRelay

/-- Answer every line of the input. -/
partial def answerLines (stdin : IO.FS.Stream) (stdout : IO.FS.Stream) : IO Unit := do
  let line ← stdin.getLine
  if line.isEmpty then return
  if !Command.isBlankLine line then
    stdout.putStrLn (Command.answerLine line)
    stdout.flush
  answerLines stdin stdout

/-- Run the command line. -/
def main : IO Unit := do
  answerLines (← IO.getStdin) (← IO.getStdout)
