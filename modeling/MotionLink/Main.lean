import MotionLink.CommandLine.Answer

/-!
# The program

Passes the arguments on, prints the answer and leaves with its status. What
needs the network is refused.
-/

namespace MotionLink.CommandLine

/-- Prints output as it is. -/
def print (stream : IO.FS.Stream) : Output → IO Unit
  | .text value => stream.putStr value
  | .bytes value => stream.write (ByteArray.mk value.toArray)

/-- Carries out an answer and gives the exit status. -/
def conclude (stdout stderr : IO.FS.Stream) : Answer → IO ExitStatus
  | .usage status => do
    (if status = .success then stdout else stderr).putStrLn
      "Usage: segwire [OPTIONS] <send|listen|decode|mock-board|version>"
    return status
  | .failed failure => do
    stderr.putStrLn ("error: " ++ failure.message)
    return failure.status
  | .printed output => do
    print stdout output
    stdout.flush
    return .success
  | .outside => do
    stderr.putStrLn "error: not available without a network and host"
    return .internal

end MotionLink.CommandLine

/-- The entry point. -/
def main (words : List String) : IO UInt32 := do
  let stdout ← IO.getStdout
  let answer := MotionLink.CommandLine.answer (← stdout.isTty) words
  let status ← MotionLink.CommandLine.conclude stdout (← IO.getStderr) answer
  return status.code.toUInt32
