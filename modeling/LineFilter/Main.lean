import LineFilter.CommandLine.Session
import LineFilter.Time.ZoneSpec
import Std.Time.DateTime.Timestamp

/-!
# The command line

All that needs the system: the clock, the files that the arguments name, the
standard streams and the exit code.
-/

namespace LineFilter.Main

/-- The present moment, in the time zone that the environment names. -/
def readClock : IO Clock := do
  let now ← Std.Time.Timestamp.now
  let nanoseconds := now.toNanosecondsSinceUnixEpoch.val
  let zone := ((← IO.getEnv "TZ").bind fun spec => Zone.read? spec.toList).getD .utc
  return ⟨nanoseconds / 1000000000, (nanoseconds % 1000000000).toNat, zone⟩

/-- All octets behind a path. -/
def readEntry (path : Text) : IO Entry := do
  try
    return .file (← IO.FS.readBinFile (String.ofList path)).toList
  catch e =>
    match e with
    | .noFileOrDirectory .. => return .absent .notFound
    | .permissionDenied .. => return .absent .permissionDenied
    | .inappropriateType .. => return .directory
    | e => return .absent (.other e.toString.toList)

/-- The standard input up to its end. -/
partial def readAll (stream : IO.FS.Stream) (before : ByteArray) : IO ByteArray := do
  let chunk ← stream.read 65536
  if chunk.isEmpty then return before else readAll stream (before ++ chunk)

/-- What a session with these arguments looks at. -/
def readSurroundings (arguments : Arguments) : IO Surroundings := do
  let entries ← arguments.paths.mapM fun path => return (path, ← readEntry path)
  let stdin ← IO.getStdin
  let standardInput ←
    if !arguments.readsStandardInput then pure (some [])
    else if ← stdin.isTty then pure none
    else pure (some (← readAll stdin ByteArray.empty).toList)
  return {
    clock := ← readClock
    entry := fun path => (entries.lookup path).getD (.absent .notFound)
    standardInput }

end LineFilter.Main

open LineFilter Main in
def main (words : List String) : IO UInt32 := do
  let arguments := words.map String.toList
  let ended ←
    match Arguments.read arguments with
    | .error reply => pure reply.ended
    | .ok arguments => pure (arguments.session (← readSurroundings arguments))
  IO.print (String.ofList ended.out)
  IO.eprint (String.ofList ended.err)
  return ended.code.toUInt32
