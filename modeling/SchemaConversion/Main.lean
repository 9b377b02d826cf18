import SchemaConversion.CommandLine
import Std.Time.Format
import Std.Time.DateTime

/-!
# The program

The command line on the disk of the computer. Everything is decided in
`SchemaConversion.CommandLine`; here files are read and written, the clock and the source of random
numbers are asked, and what is to be printed is printed.
-/

namespace SchemaConversion

/-- The words for a failure of the disk. -/
def diskReason : IO.Error → String
  | .noFileOrDirectory _ code _ | .noSuchThing _ code _ =>
    "No such file or directory (os error " ++ toString code ++ ")"
  | .permissionDenied _ code _ => "Permission denied (os error " ++ toString code ++ ")"
  | .inappropriateType _ code _ => "Is a directory (os error " ++ toString code ++ ")"
  | e => toString e

/-- The result of an action on the disk. -/
def onDisk {α : Type} (action : IO α) : IO (Except String α) := do
  try
    return .ok (← action)
  catch e => return .error (diskReason e)

/-- Access to the files on the disk. -/
def diskFiles : CommandLine.Files IO where
  read path := onDisk (IO.FS.readFile path)
  exists? path := do
    match ← onDisk (IO.FS.Handle.mk path .read) with
    | .ok _ => return true
    | .error _ => return false
  write path text := onDisk (IO.FS.writeFile path text)

/-- A random identifier: 32 hexadecimal digits in five groups, of which two say its kind. -/
def randomId : IO String := do
  let bytes ← IO.getRandomBytes 16
  let marked := bytes.toList.zipIdx.map fun (b, i) =>
    if i = 6 then b &&& 0x0F ||| 0x40 else if i = 8 then b &&& 0x3F ||| 0x80 else b
  let digits := marked.flatMap fun b => [Nat.digitChar (b.toNat / 16), Nat.digitChar (b.toNat % 16)]
  let group (first last : Nat) := String.ofList ((digits.take last).drop first)
  return "-".intercalate [group 0 8, group 8 12, group 12 16, group 16 20, group 20 32]

/-- The time by the clock, in Greenwich. -/
def currentTime : IO String := do
  let now ← Std.Time.Timestamp.now
  return (Std.Time.DateTime.ofTimestamp now .UTC).toISO8601String

/-- What is known of a run that began at this moment of the monotonous clock. -/
def runStamp (requestId startedAt : String) (began : Nat) : IO RunStamp := do
  return { requestId, startedAt, elapsedMilliseconds := (← IO.monoMsNow) - began }

/-- Prints a complaint that is not about the data. -/
def complain (e : CommandLine.Ending) : IO Unit :=
  match e with
  | .success => return ()
  | .failure e => IO.eprintln e.detailed
  | .misuse reason => IO.eprintln ("error: " ++ reason ++ "\n\n" ++ CommandLine.usage)

end SchemaConversion

open SchemaConversion in
/-- Runs the program. -/
def main (arguments : List String) : IO UInt32 := do
  let stamp := runStamp (← randomId) (← currentTime) (← IO.monoMsNow)
  let outcome ← CommandLine.run diskFiles stamp arguments
  IO.print outcome.output
  complain outcome.ending
  return outcome.ending.exitCode.toUInt32
