import Questionnaire.Command.Run
/-!
The program: it gathers the files that its arguments name and the variables of the settings, runs
the command, and prints and writes what the command leaves behind.
-/

open Questionnaire

/-- The names that an argument may stand for: itself, or what follows its option. -/
def namesIn (argument : String) : List String :=
  let (_, value) := Arguments.Spec.splitValue argument
  [argument, String.ofList (argument.toList.drop 2)] ++ value.toList

/-- Stands for a folder among the files. -/
def folderMark (name : String) : String × String := (name ++ "/", "")

/-- What a name is: a text, a folder, or nothing. -/
def look (name : String) : IO Files := do
  try
    if ← (← IO.FS.realPath name).isDir then return [folderMark name]
    else return [(name, ← IO.FS.readFile name)]
  catch _ => return []

/-- What can be known of a name, and of the folders on the way to it. -/
def gather (name : String) : IO Files := do
  let found ← ((Files.start name).along (Files.parts name)).mapM fun p => look p.name
  return found.flatten

def settingNames : List String :=
  ["log_level", "json_logs", "other_option_value", "default_other_label"].flatMap fun s =>
    let name := Settings.family ++ s
    [name, Text.upper name]

def environment : IO (List (String × String)) := do
  let values ← settingNames.mapM fun n => do return (← IO.getEnv n).map fun v => (n, v)
  return values.filterMap id

/-- Ids of twelve hexadecimal digits, spread from a seed. -/
def idsFrom (seed : Nat) : IdSupply where
  name n := String.ofList ((Text.hex 12 ((seed + n * 0x9E3779B97F4A7C15) % 0x1000000000000)).take 12)
  taken := 0

def recordLine (json : Bool) (time : Nat) (r : Record) : String :=
  if json then
    (Json.obj [("level", .str r.level.word), ("logger", .str r.topic.name),
      ("message", .str r.message)]).compact
  else s!"{time} {r.level.word} {r.topic.name} {r.message}"

/-- What is told about a failure that no command reports. -/
def lastWords : Command.Failure → String
  | .file e => e.message
  | .nameless => "Two dashes stand where a name was expected."
  | .numeralTooLong => "A number has too many digits."
  | .beyond .halfPair => "A text holds half of a character."
  | .beyond .nesting => "A document is nested too deep."
  | .unusable _ => "The design is not an object with lists of nodes and edges."
  | _ => "A route leads to something that cannot be the id of a node."

def main (args : List String) : IO UInt32 := do
  let files ← (".env" :: args.flatMap namesIn).mapM gather
  let seed ← IO.rand 0 0xFFFFFFFFFFFF
  match Command.run Fault.report (← environment) files.flatten (idsFrom seed) args with
  | .done r =>
    let time ← IO.monoMsNow
    r.warnings.forM fun line => IO.eprintln line
    r.records.forM fun record => IO.eprintln (recordLine r.jsonLogs time record)
    r.complaint.forM fun line => IO.eprintln line
    IO.print r.output
    r.written.forM fun (name, text) => IO.FS.writeFile name text
    return r.exit.toUInt32
  | .misused e =>
    e.line?.forM fun line => IO.eprintln line
    return e.exit.toUInt32
  | .broken failure =>
    IO.eprintln (lastWords failure)
    return 1
