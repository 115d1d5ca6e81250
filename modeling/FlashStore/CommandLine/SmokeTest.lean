import FlashStore.CommandLine.Arguments
import FlashStore.LogFilter
import FlashStore.Smoke

/-!
The smoke test as a program: from arguments, environment and a configuration file to an exit code
and its two outputs.

Each setting comes from its option, else its environment variable, else the file, else its
default, and only what results is validated. Nothing is opened before that. The literal script
runs on a drive of its own, and so does the bulk script, if any keys are asked for; the first
drive is closed last.
-/

namespace FlashStore.CommandLine

inductive Failure where
  | unreadable (path : String)
  | unparsable (path : String) (cause : Json.ReadError)
  | settings (cause : SettingsError)
  | literal (cause : Smoke.Deviation)
  | bulk (cause : Smoke.Deviation)
  deriving DecidableEq, Repr

def Failure.message : Failure → String
  | unreadable path => "Failed to read " ++ path
  | unparsable path _ => "Failed to parse " ++ path
  | settings cause => cause.message
  | literal _ => "Literal scenario failed"
  | bulk _ => "Bulk run failed"

/-- What lies behind a failure, where that has a text of its own. -/
def Failure.cause? : Failure → Option String
  | unreadable _ => none
  | unparsable _ (.mismatch cause) => some cause.message
  | unparsable _ _ => none
  | settings _ => none
  | literal cause => some cause.message
  | bulk cause => some cause.message

def fileSettings (options : Options) (file : Option Bytes) : Except Failure Settings :=
  match options.config with
  | none => .ok {}
  | some path =>
    match file.bind Bytes.toText? with
    | none => .error (.unreadable path)
    | some text =>
      match Settings.ofJson text with
      | .error cause => .error (.unparsable path cause)
      | .ok settings => .ok settings

def Options.over (options : Options) (settings : Settings) : Settings :=
  ⟨options.backend.getD settings.backend, options.shardAmount.getD settings.shardAmount⟩

def effectiveSettings (options : Options) (file : Option Bytes) : Except Failure Settings :=
  match fileSettings options file with
  | .error failure => .error failure
  | .ok settings =>
    let settings := options.over settings
    match settings.check with
    | .error cause => .error (.settings cause)
    | .ok () => .ok settings

def note (message : String) : Event := ⟨.info, .program, message, []⟩

/-- A script's part of a run: a drive is opened, the script runs on it, and what it reported is
noted. The drive is left open. -/
def runPart (settings : Settings)
    (script : Drive → Reply Drive (Except Smoke.Deviation Smoke.Report))
    (failure : Smoke.Deviation → Failure) (passed : Smoke.Report → String) :
    Except Failure Unit × List Event × Option Drive :=
  match Drive.openWith settings with
  | .error cause => (.error (.settings cause), [], none)
  | .ok opened =>
    match script opened.drive with
    | ⟨.error deviation, events, drive⟩ =>
      (.error (failure deviation), opened.events ++ events, some drive)
    | ⟨.ok report, events, drive⟩ =>
      (.ok (), opened.events ++ events ++ [note (passed report)], some drive)

def closing (drive : Option Drive) : List Event := (drive.map Drive.closing).toList

def literalPart (settings : Settings) : Except Failure Unit × List Event × Option Drive :=
  runPart settings Smoke.playLiteral .literal fun report =>
    "Literal scenario passed: " ++ toString report.operations ++ " operations, " ++
      toString report.expectedFailures ++ " expected failures"

def bulkPart (settings : Settings) (keys : Nat) :
    Except Failure Unit × List Event × Option Drive :=
  runPart settings (Smoke.playBulk · keys) .bulk fun report =>
    "Bulk run passed: " ++ toString keys ++ " rows, " ++ toString report.operations ++
      " operations"

def runWith (settings : Settings) (keys : Nat) : Except Failure Unit × List Event :=
  let started := note ("Smoke test started: backend=" ++ settings.backend.name ++
    ", shard_amount=" ++ toString settings.shardAmount.toNat)
  match literalPart settings with
  | (.error failure, events, drive) => (.error failure, started :: events ++ closing drive)
  | (.ok (), events, drive) =>
    let (bulkEnd, bulkEvents) :=
      if keys = 0 then (.ok (), [])
      else
        let (result, events, bulkDrive) := bulkPart settings keys
        (result, events ++ closing bulkDrive)
    let ended := match bulkEnd with
      | .ok () => [note "Smoke test ended"]
      | .error _ => []
    (bulkEnd, started :: events ++ bulkEvents ++ ended ++ closing drive)

def run (options : Options) (file : Option Bytes) : Except Failure Unit × List Event :=
  match effectiveSettings options file with
  | .error failure => (.error failure, [])
  | .ok settings => runWith settings (options.keys.getD 0).toNat

structure Outcome where
  exitCode : Nat
  output : String
  errors : String
  deriving DecidableEq, Repr

def UsageError.report (failure : UsageError) : String :=
  Text.Terminal.withoutMarks <|
    Text.Terminal.marked ["1", "31"] "error:" ++ " " ++ failure.message ++
      "\n\nFor more information, try '" ++ literal "--help" ++ "'.\n"

def Failure.report (failure : Failure) : String :=
  "Error: " ++ failure.message ++
    match failure.cause? with
    | none => "\n"
    | some cause => "\n\nCaused by:\n    " ++ cause ++ "\n"

def Outcome.ofRun (filter : LogFilter) (result : Except Failure Unit × List Event) : Outcome :=
  let output := String.join ((result.2.filter filter.shows).map fun event => event.report ++ "\n")
  match result.1 with
  | .ok () => ⟨0, output, ""⟩
  | .error failure => ⟨1, output, failure.report⟩

def Request.file? : Except UsageError Request → Option String
  | .ok (.run options) => options.config
  | _ => none

/-- The end of a run whose log filter is cut inside of a character. -/
def Outcome.stopped : Outcome :=
  ⟨101, "", "\nThe log filter has a part that begins or ends inside of a character.\n"⟩

/-- Carries out a request, with the content of its file. The log filter is set up before anything
else. -/
def carryOut (environment : String → Option String) (request : Except UsageError Request)
    (file : Option Bytes) : Outcome :=
  match LogFilter.ofVariable? (environment "RUST_LOG") with
  | none => .stopped
  | some filter =>
    match request with
    | .error failure => ⟨2, "", failure.report⟩
    | .ok (.about flag) => ⟨0, shown environment flag, ""⟩
    | .ok (.run options) => .ofRun filter (run options file)

end FlashStore.CommandLine
