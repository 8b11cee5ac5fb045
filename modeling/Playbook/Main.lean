import Playbook.CommandLine.Session
import Std.Time.DateTime.Timestamp

/-!
The command line. What a command may look at is read beforehand; then the command is carried out,
and its lines are written when their moments have come.
-/
namespace Playbook.CommandLine

/-- What lies at a path; of a folder the program files, `depth` levels deep. -/
def readEntry : (depth : Nat) → (path : String) → IO (Option Entry)
  | depth, path => do
    let place ← try some <$> IO.FS.realPath path catch _ => pure none
    match place with
    | none => return none
    | some place =>
      if ← place.isDir then
        match depth with
        | 0 => return none
        | depth + 1 =>
          let mut entries := []
          for e in ← place.readDir do
            if (Path.format? [e.fileName]).isSome || (← e.path.isDir) then
              if let some entry ← readEntry depth s!"{path}/{e.fileName}" then
                entries := entries ++ [(e.fileName, entry)]
          return some (.folder entries)
      else if ← place.pathExists then return some (.file (← IO.FS.readFile place))
      else return none

def readEntries (paths : List String) : IO (List (String × Entry)) := do
  let found ← paths.mapM fun path => do
    return (← readEntry (Entry.maxDepth + 1) path).map fun e => (path, e)
  return found.filterMap id

def readEnvironment : IO Settings.Environment := do
  let names := ["PROGFLOW_CONFIG", "PROGFLOW_LOG_LEVEL", "PROGFLOW_LOG_FORMAT",
    "PROGFLOW_PARALLEL_HARD_LIMIT", "PROGFLOW_TRACE_FILE"]
  let set ← names.filterMapM fun name => do return (← IO.getEnv name).map fun v => (name, v)
  return fun name => set.lookup name

def readClock : IO Instant := do
  let nanos := (← Std.Time.Timestamp.now).toNanosecondsSinceUnixEpoch.val
  return ⟨nanos / 1000000000, (nanos % 1000000000).toNat⟩

/-- An id of 16 bytes; four of their bits tell that it is random, two how it is laid out. -/
def idOfBytes (bytes : List UInt8) : String :=
  let marked := bytes.zipIdx.map fun (b, i) =>
    if i = 6 then b % 16 + 64 else if i = 8 then b % 64 + 128 else b
  let digits := marked.flatMap fun b =>
    [Json.hexDigit (b.toNat / 16), Json.hexDigit (b.toNat % 16)]
  let part (start length : Nat) := String.ofList ((digits.drop start).take length)
  "-".intercalate [part 0 8, part 8 4, part 12 4, part 16 4, part 20 12]

/-- Adds lines to a file, with the folders on the way to it. -/
def appendLines (path : String) (lines : List String) : IO Unit := do
  match (Text.splitOn '/' path.toList).dropLast with
  | [] | [[]] => pure ()
  | parents => IO.FS.createDirAll ("/".intercalate (parents.map String.ofList))
  let handle ← IO.FS.Handle.mk path .append
  for line in lines do
    handle.putStrLn line

/-- Writes lines, each not before its moment. -/
def writeLines (lines : List Line) : IO Unit := do
  let start ← IO.monoMsNow
  for line in lines do
    let passed := (← IO.monoMsNow) - start
    IO.sleep (line.moment - passed).toUInt32
    IO.println line.text

/-- Carries out a command and gives the exit code. -/
def run (words : List String) : IO UInt32 := do
  let environment ← readEnvironment
  match Arguments.parse environment words with
  | .error fault =>
    IO.eprintln s!"error: {fault.message}"
    return 2
  | .ok arguments =>
    let entries ← readEntries arguments.paths
    let surroundings : Surroundings := {
      entry? := fun path => entries.lookup path
      environment
      now := ← readClock
      runId := idOfBytes (← IO.getRandomBytes 16).toList }
    let traceFile := (surroundings.settings arguments).toOption.bind (·.recorder.traceFile)
    let traceEntries ← readEntries traceFile.toList
    let session := arguments.session { surroundings with
      entry? := fun path => (entries ++ traceEntries).lookup path }
    writeLines session.output
    if let some path := traceFile then
      if !session.traceLines.isEmpty then appendLines path session.traceLines
    match session.failureLine? with
    | none => return 0
    | some line =>
      IO.eprintln line
      return 1

end Playbook.CommandLine

def main (words : List String) : IO UInt32 := do
  try Playbook.CommandLine.run words
  catch e =>
    IO.eprintln s!"progflow failed: {e}"
    return 1
