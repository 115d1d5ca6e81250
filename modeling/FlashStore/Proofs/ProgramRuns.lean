import FlashStore.CommandLine.SmokeTest
import FlashStore.Proofs.AcceptedArguments
import FlashStore.Proofs.ComparedRuns
import FlashStore.Proofs.JsonObjects
import FlashStore.Proofs.SmokeRuns

/-!
The smoke test from its arguments to its exit code.

Each of the two settings is spelled by a flag, else by a variable of the environment, else the file
gives it, else it has its default. A file that is named has to be read and parsed before that; where
this fails there are no settings to be checked. What a file says is kept apart from what stands for
a member that it leaves out.

Settings that pass their check open a drive for each script, and a drive that was just opened has
none of the keys that a script needs to be free, so both pass. What fails does so before that, and
nothing has been logged then. The events of a run are told apart by level and source from those that
open and close a drive and from those of the program around the run.
-/

namespace FlashStore.SettingsMembers
open Json JsonShapes

abbrev Members := Option Backend × Option UInt64

def shape : Shape Backend UInt64 Members where
  expected := Settings.shape.expected
  first := Settings.shape.first
  second := Settings.shape.second
  readFirst := Settings.shape.readFirst
  readSecond := Settings.shape.readSecond
  ofObject backend shardAmount := .ok (backend, shardAmount)
  ofList backend shardAmount := .ok (backend, shardAmount)

def ofJson (text : String) : Except ReadError Members := readAll shape.read text

/-- A text and its members fail alike, and where they do not, the standard stands behind. -/
theorem settings_members (text : String) :
    Settings.ofJson text =
      (ofJson text).map fun members => Settings.ofMembers members.1 members.2 :=
  readAll_remade (fun members : Members => Settings.ofMembers members.1 members.2) shape text

end FlashStore.SettingsMembers

/-! Where settings come from -/

namespace FlashStore.EffectiveSettings
open AcceptedArguments CommandLine

/-- A setting that a flag spells, else a variable, else what the file says, else the default. -/
def Layered {α : Type} (spells : String → α → Prop) (flag stand : Option String)
    (said : Option α) (default value : α) : Prop :=
  match flag, stand, said with
  | some text, _, _ => spells text value
  | none, some text, _ => spells text value
  | none, none, some given => value = given
  | none, none, none => value = default

structure Effective (environment : String → Option String) (flags : Flags)
    (said : SettingsMembers.Members) (settings : Settings) : Prop where
  backend : Layered (fun text backend => text = backend.name) (flags.lookup .backend)
    (environment "KVSSD_BACKEND") said.1 .singleTable settings.backend
  shardAmount : Layered Counts (flags.lookup .shardAmount) (environment "KVSSD_SHARD_AMOUNT")
    said.2 64 settings.shardAmount

def Asks (flag : Option String) (keys : Nat) : Prop :=
  match flag with
  | none => keys = 0
  | some text => Text.readNatural text.toList = .ok keys

/-- The file that is named cannot be read as a text, or the text cannot be read as settings. -/
inductive FileFault (file : Option Bytes) : Option String → Failure → Prop where
  | unreadable (path : String) (bad : file.bind Bytes.toText? = none) :
      FileFault file (some path) (.unreadable path)
  | unparsable (path text : String) (cause : Json.ReadError)
      (read : file.bind Bytes.toText? = some text)
      (bad : Settings.ofJson text = .error cause) :
      FileFault file (some path) (.unparsable path cause)

/-- What the file says of the settings, which is nothing if none is named. -/
inductive FileSays (file : Option Bytes) : Option String → SettingsMembers.Members → Prop where
  | unnamed : FileSays file none (none, none)
  | named (path text : String) (said : SettingsMembers.Members)
      (read : file.bind Bytes.toText? = some text)
      (parsed : SettingsMembers.ofJson text = .ok said) : FileSays file (some path) said

theorem layered_held {α : Type} (spells : String → α → Prop) (flag stand : Option String)
    (said : Option α) (default : α) (held : Option α)
    (holds : Option.Rel spells (flag.or stand) held) :
    Layered spells flag stand said default (held.getD (said.getD default)) := by
  cases flag with
  | some text =>
      cases holds with
      | some spelled => exact spelled
  | none =>
      cases stand with
      | some text =>
          cases holds with
          | some spelled => exact spelled
      | none =>
          cases holds with
          | none => cases said <;> rfl

section Merging
variable (environment : String → Option String) (options : Options) (flags : Flags)
variable (holds : Holds (fun option => (flags.lookup option).or (standIn environment option)) options)
include holds

theorem merged_effective (said : SettingsMembers.Members) :
    Effective environment flags said (options.over (Settings.ofMembers said.1 said.2)) where
  backend := layered_held _ _ _ said.1 _ options.backend holds.backend
  shardAmount := layered_held _ _ _ said.2 _ options.shardAmount holds.shardAmount

theorem keys_asked : Asks (flags.lookup .keys) (options.keys.getD 0).toNat := by
  have spelled := holds.keys
  simp only [standIn, OptionName.variable?, Option.bind_none, Option.or_none] at spelled
  generalize flags.lookup .keys = flag, options.keys = held at spelled
  cases spelled with
  | none => rfl
  | some counts => exact counts

theorem path_given : options.config = flags.lookup .config := by
  rw [← holds.config]
  simp [standIn, OptionName.variable?]
end Merging

section Files
variable (options : Options) (file : Option Bytes)

theorem file_decides (path : Option String) :
    (∃ failure, FileFault file path failure) ∨ ∃ said, FileSays file path said := by
  cases path with
  | none => exact .inr ⟨_, .unnamed⟩
  | some path =>
      cases read : file.bind Bytes.toText? with
      | none => exact .inl ⟨_, .unreadable path read⟩
      | some text =>
          have parsed := SettingsMembers.settings_members text
          cases members : SettingsMembers.ofJson text with
          | error cause =>
              rw [members] at parsed
              exact .inl ⟨_, .unparsable path text cause read parsed⟩
          | ok said => exact .inr ⟨said, .named path text said read members⟩

theorem faulty_settings (failure : Failure) (fault : FileFault file options.config failure) :
    effectiveSettings options file = .error failure := by
  rw [effectiveSettings, fileSettings]
  generalize options.config = path at fault
  cases fault with
  | unreadable path bad => simp only [bad]
  | unparsable path text cause read bad => simp only [read, bad]

theorem said_settings (said : SettingsMembers.Members)
    (content : FileSays file options.config said) :
    fileSettings options file = .ok (Settings.ofMembers said.1 said.2) := by
  rw [fileSettings]
  generalize options.config = path at content
  cases content with
  | unnamed => rfl
  | named path text said read parsed =>
      simp only [read, SettingsMembers.settings_members, parsed, Except.map]
end Files

end FlashStore.EffectiveSettings

/-! What runs log -/

namespace FlashStore.SmokeEvents
open CallEvents CallLayers Smoke StepVerdicts

section Runs
variable {σ : Type} (narration : Narration)

theorem tell_lines (messages : List String) :
    ∃ lines : List String, narration.tell messages = lines.map say := by
  cases narration with
  | full => exact ⟨messages, rfl⟩
  | silent => exact ⟨[], rfl⟩

theorem demand_events (step : Step) (done : String) (reply : Reply σ (Except RowError Unit)) :
    ∃ lines : List String,
      (step.demand done narration reply).events = reply.events ++ lines.map say := by
  rcases reply with ⟨answer, events, next⟩
  cases answer with
  | error cause => exact ⟨[], by simp [Step.demand]⟩
  | ok =>
      rcases tell_lines narration [done ++ "..." ++ ResultCode.successMessage] with ⟨lines, told⟩
      refine ⟨lines, ?_⟩
      simp only [Step.demand, told]

variable [Device σ] (store : σ)

theorem expect_events (key : String) (row : Row) :
    ∃ lines : List String, ((Step.expect key row).run narration store).events =
      (RowStore.read store key).events ++ lines.map say := by
  simp only [Step.run]
  rcases RowStore.read store key with ⟨answer, events, next⟩
  cases answer with
  | error cause => exact ⟨[], by simp⟩
  | ok actual =>
      by_cases same : actual = row
      · rcases tell_lines narration (("Read " ++ key ++ "..." ++ ResultCode.successMessage) ::
          actual.map fun field => "  " ++ field.name ++ ": " ++ field.value) with ⟨lines, told⟩
        refine ⟨lines, ?_⟩
        simp only [if_pos same, told]
      · exact ⟨[], by simp [same]⟩

theorem missing_events (key : String) :
    ∃ lines : List String, ((Step.missing key).run narration store).events =
      (RowStore.read store key).events ++ lines.map say := by
  simp only [Step.run]
  rcases RowStore.read store key with ⟨answer, events, next⟩
  cases answer with
  | error cause =>
      by_cases gone : cause.message = ResultCode.keyNotExist.message
      · rcases tell_lines narration ["Read " ++ key ++ "..." ++ cause.message] with ⟨lines, told⟩
        refine ⟨lines, ?_⟩
        simp only [if_pos gone, told]
      · exact ⟨[], by simp [gone]⟩
  | ok row => exact ⟨[], by simp⟩

theorem step_events (step : Step) :
    ∃ lines : List String, (step.run narration store).events =
      ((rowCall step).run store).events ++ lines.map say := by
  cases step with
  | insert key row => exact demand_events narration (.insert key row) _ _
  | update key row => exact demand_events narration (.update key row) _ _
  | delete key => exact demand_events narration (.delete key) _ _
  | expect key row => exact expect_events narration store key row
  | missing key => exact missing_events narration store key

section All
variable (holds : Event → Prop) (spoken : ∀ line, holds (say line))
variable (called : ∀ (call : RowCall) (store : σ), ∀ event ∈ (call.run store).events, holds event)
include spoken called

theorem step_all (step : Step) : ∀ event ∈ (step.run narration store).events, holds event := by
  intro event member
  rcases step_events narration store step with ⟨lines, logged⟩
  rw [logged] at member
  rcases List.mem_append.mp member with inner | line
  · exact called (rowCall step) store event inner
  · rcases List.mem_map.mp line with ⟨message, _, rfl⟩
    exact spoken message

theorem playFrom_all (script : List Step) (report : Report) (logged : List Event)
    (before : ∀ event ∈ logged, holds event) :
    ∀ event ∈ (playFrom narration report logged script store).events, holds event := by
  induction script generalizing report logged store with
  | nil =>
      intro event member
      exact before event (List.mem_reverse.mp member)
  | cons step rest ih =>
      have here := step_all narration store holds spoken called step
      rw [playFrom]
      rcases same : step.run narration store with ⟨answer, events, next⟩
      rw [same] at here
      have grown : ∀ event ∈ events.reverseAux logged, holds event := by
        intro event member
        rw [List.reverseAux_eq] at member
        rcases List.mem_append.mp member with new | old
        · exact here event (List.mem_reverse.mp new)
        · exact before event old
      cases answer with
      | error deviation =>
          intro event member
          exact grown event (List.mem_reverse.mp member)
      | ok => exact ih next (report.count step) _ grown

theorem play_all (script : List Step) :
    ∀ event ∈ (play narration script store).events, holds event :=
  playFrom_all narration store holds spoken called script {} [] (by simp)
end All
end Runs

/-- An event that neither opens nor closes a drive, and that the program around a run does not log. -/
structure Inner (event : Event) : Prop where
  level : event.level ≠ .debug
  source : event.source ≠ .program

theorem line_inner (message : String) (fields : List (String × EventValue)) :
    Inner ⟨.info, .smoke, message, fields⟩ :=
  ⟨nofun, nofun⟩

theorem drive_source (drive : Drive) : EntryMap.source drive ≠ .program := by
  cases drive <;> exact nofun

theorem row_inner (call : RowCall) (drive : Drive) :
    ∀ event ∈ (call.run drive).events, Inner event := by
  cases under : underRow call with
  | none =>
      rcases row_unmade call under with ⟨failure, unmade⟩
      rw [unmade drive]
      simp
  | some made =>
      rcases row_events call made under drive with ⟨notes, logged, noted⟩
      rw [logged]
      intro event member
      rcases List.mem_append.mp member with trace | note
      · rcases device_traces made drive event trace with ⟨level, source⟩
        refine ⟨by rw [level]; exact nofun, ?_⟩
        rw [source]
        exact drive_source drive
      · rcases noted event note with ⟨level, source⟩
        exact ⟨by rw [level]; exact nofun, by rw [source]; exact nofun⟩

theorem play_inner (narration : Narration) (script : List Step) (drive : Drive) :
    ∀ event ∈ (play narration script drive).events, Inner event :=
  play_all narration drive Inner (fun line => line_inner line []) row_inner script

theorem bulk_inner (drive : Drive) (rows : Nat) :
    ∀ event ∈ (playBulk drive rows).events, Inner event := by
  have inner := play_inner .silent (bulkScript rows) drive
  rw [playBulk]
  rcases same : play .silent (bulkScript rows) drive with ⟨answer, events, last⟩
  rw [same] at inner
  cases answer with
  | error deviation => exact inner
  | ok report =>
      intro event member
      rcases List.mem_append.mp member with early | complete
      · exact inner event early
      · cases List.mem_singleton.mp complete
        exact line_inner _ _

end FlashStore.SmokeEvents

/-! The program -/

namespace FlashStore.ProgramRuns
open AcceptedArguments CommandLine DriveCalls EffectiveSettings SampleRows ScriptRuns SmokeEvents

def told (events : List Event) : List Event := events.filter fun event => event.source = .program

def handled (events : List Event) : List Event := events.filter fun event => event.level = .debug

structure Handling (event : Event) : Prop where
  level : event.level = .debug
  source : event.source ≠ .program

theorem closing_handling (drive : Drive) : Handling drive.closing := ⟨rfl, drive_source drive⟩

theorem opened_once (settings : Settings) (opened : Drive.Opened)
    (opens : Drive.openWith settings = .ok opened) :
    ∃ opening, opened.events = [opening] ∧ Handling opening := by
  cases checked : settings.check with
  | error cause => simp [Drive.openWith, checked] at opens
  | ok =>
      cases backend : settings.backend with
      | singleTable =>
          simp only [Drive.openWith, checked, backend, Except.ok.injEq] at opens
          subst opens
          exact ⟨_, rfl, rfl, drive_source (Drive.openSingle none).drive⟩
      | sharded =>
          simp only [Drive.openWith, checked, backend, Except.ok.injEq] at opens
          subst opens
          exact ⟨_, rfl, rfl, drive_source (Drive.openSharded settings.shardAmount.toNat).drive⟩
      | physical => simp [Drive.openWith, checked, backend] at opens

@[simp] theorem told_nil : told [] = [] := rfl

@[simp] theorem handled_nil : handled [] = [] := rfl

section Sorting
variable (events others : List Event)

@[simp] theorem told_append : told (events ++ others) = told events ++ told others :=
  List.filter_append ..

@[simp] theorem handled_append : handled (events ++ others) = handled events ++ handled others :=
  List.filter_append ..

theorem inner_sorted (inner : ∀ event ∈ events, Inner event) :
    told events = [] ∧ handled events = [] := by
  constructor
  · apply List.filter_eq_nil_iff.mpr
    intro event member
    simpa using (inner event member).source
  · apply List.filter_eq_nil_iff.mpr
    intro event member
    simpa using (inner event member).level

theorem handling_sorted (event : Event) (handling : Handling event) :
    told (event :: events) = told events ∧ handled (event :: events) = event :: handled events := by
  constructor
  · apply List.filter_cons_of_neg
    simpa using handling.source
  · apply List.filter_cons_of_pos
    simpa using handling.level

@[simp] theorem told_closing (drive : Drive) : told (drive.closing :: events) = told events :=
  (handling_sorted events _ (closing_handling drive)).1

@[simp] theorem handled_closing (drive : Drive) :
    handled (drive.closing :: events) = drive.closing :: handled events :=
  (handling_sorted events _ (closing_handling drive)).2

@[simp] theorem told_note (message : String) :
    told (note message :: events) = note message :: told events := rfl

@[simp] theorem handled_note (message : String) :
    handled (note message :: events) = handled events := rfl
end Sorting

def literalLine : String := "Literal scenario passed: 10 operations, 1 expected failures"

def bulkLine (keys : Nat) : String :=
  "Bulk run passed: " ++ toString keys ++ " rows, " ++ toString (6 * keys) ++ " operations"

def lines (settings : Settings) (keys : Nat) : List String :=
  let started := "Smoke test started: backend=" ++ settings.backend.name ++ ", shard_amount=" ++
    toString settings.shardAmount.toNat
  started :: literalLine :: ((if keys = 0 then [] else [bulkLine keys]) ++ ["Smoke test ended"])

theorem notes_shown (messages : List String) (events : List Event)
    (tells : told events = messages.map note) :
    told (events.filter LogFilter.standard.shows) = messages.map note := by
  have swapped : told (events.filter LogFilter.standard.shows) =
      (told events).filter LogFilter.standard.shows := by
    simp only [told, List.filter_filter, Bool.and_comm]
  rw [swapped, tells]
  apply List.filter_eq_self.mpr
  intro event member
  rcases List.mem_map.mp member with ⟨message, _, rfl⟩
  rfl

/-- The part opened a drive, ended well with one line of the program and left the drive. -/
structure PartPasses (opened : Drive.Opened) (line : String)
    (part : Except Failure Unit × List Event × Option Drive) : Prop where
  ends : part.1 = .ok ()
  tells : told part.2.1 = [note line]
  handles : handled part.2.1 = opened.events
  leaves : part.2.2.isSome

section Parts
variable (settings : Settings) (opened : Drive.Opened)
variable (script : Drive → Reply Drive (Except Smoke.Deviation Smoke.Report))
variable (failure : Smoke.Deviation → Failure) (passed : Smoke.Report → String)
variable (opens : Drive.openWith settings = .ok opened)
include opens

/-- However a part ends, the opening of its drive is what it logs first. Where nothing is logged, no
drive was opened. -/
theorem part_opens :
    ∃ opening later, (runPart settings script failure passed).2.1 = opening :: later ∧
      opened.events = [opening] := by
  rcases opened_once settings opened opens with ⟨opening, single, _⟩
  rw [runPart, opens]
  rcases same : script opened.drive with ⟨answer, events, drive⟩
  cases answer with
  | error deviation => exact ⟨opening, events, by simp [same, single], single⟩
  | ok report => exact ⟨opening, events ++ [note (passed report)], by simp [same, single], single⟩

theorem part_passes (report : Smoke.Report)
    (answered : (script opened.drive).answer = .ok report)
    (inner : ∀ event ∈ (script opened.drive).events, Inner event) :
    PartPasses opened (passed report) (runPart settings script failure passed) := by
  rcases opened_once settings opened opens with ⟨opening, single, handling⟩
  have sorted := inner_sorted _ inner
  rw [runPart, opens]
  rcases same : script opened.drive with ⟨answer, events, drive⟩
  rw [same] at answered sorted
  cases answered
  simp only at sorted
  simp only [same]
  constructor
  · rfl
  · simp [single, handling_sorted _ opening handling, sorted]
  · simp [single, handling_sorted _ opening handling, sorted]
  · rfl
end Parts

theorem literal_reports (opening : Opening) :
    (Smoke.playLiteral opening.drive).answer = .ok ⟨10, 1⟩ :=
  (LiteralRuns.literal_ends opening.drive (opening_empty opening _) (opening_empty opening _)).1

theorem bulk_reports (opening : Opening) (keys : Nat) (inRange : ∀ index < keys, InRange index) :
    (Smoke.playBulk opening.drive keys).answer = .ok ⟨6 * keys, keys⟩ := by
  rcases BulkRuns.script_passes opening.drive keys inRange
    (fun index _ => opening_empty opening _) with ⟨last, passes, _⟩
  rw [(playBulk_play opening.drive keys).1, (play_passes _ opening.drive last passes).1,
    BulkRuns.script_report]

section Runs
variable (settings : Settings) (keys : Nat) (opened : Drive.Opened)

/-- What a run logs that ends well. Each script has a drive of its own, and the first is closed last. -/
structure Logs (logged : List Event) : Prop where
  tells : told logged = (lines settings keys).map note
  handles : ∃ first other : Drive, handled logged =
    opened.events ++ (if keys = 0 then [] else opened.events ++ [other.closing]) ++ [first.closing]

theorem parts_pass (literal : PartPasses opened literalLine (literalPart settings))
    (bulk : PartPasses opened (bulkLine keys) (bulkPart settings keys)) :
    ∃ logged, runWith settings keys = (.ok (), logged) ∧ Logs settings keys opened logged := by
  rcases front : literalPart settings with ⟨answer, events, drive⟩
  rcases back : bulkPart settings keys with ⟨bulkAnswer, bulkEvents, bulkDrive⟩
  rw [front] at literal
  rw [back] at bulk
  rcases literal with ⟨rfl, tells, handles, leaves⟩
  rcases bulk with ⟨rfl, bulkTells, bulkHandles, bulkLeaves⟩
  rcases Option.isSome_iff_exists.mp leaves with ⟨first, rfl⟩
  rcases Option.isSome_iff_exists.mp bulkLeaves with ⟨other, rfl⟩
  rw [runWith, front, back]
  by_cases unasked : keys = 0
  · refine ⟨_, by simp only [if_pos unasked]; rfl, ?_, first, other, ?_⟩
    · simp [closing, tells, lines, unasked]
    · simp [closing, handles, unasked]
  · refine ⟨_, by simp only [if_neg unasked]; rfl, ?_, first, other, ?_⟩
    · simp [closing, tells, bulkTells, lines, unasked]
    · simp [closing, handles, bulkHandles, unasked]

theorem runWith_passes (checked : settings.check = .ok ())
    (inRange : ∀ index < keys, InRange index) :
    ∃ opened logged, Drive.openWith settings = .ok opened ∧
      runWith settings keys = (.ok (), logged) ∧ Logs settings keys opened logged := by
  rcases DatabaseTwins.checked_settings settings checked with ⟨opened, opening, opens, fresh⟩
  have literal := part_passes settings opened Smoke.playLiteral .literal
    (fun report => "Literal scenario passed: " ++ toString report.operations ++ " operations, " ++
      toString report.expectedFailures ++ " expected failures") opens _
    (fresh ▸ literal_reports opening) (play_inner .full Smoke.literalScript opened.drive)
  have bulk := part_passes settings opened (Smoke.playBulk · keys) .bulk
    (fun report => "Bulk run passed: " ++ toString keys ++ " rows, " ++
      toString report.operations ++ " operations") opens _
    (fresh ▸ bulk_reports opening keys inRange) (bulk_inner opened.drive keys)
  have line : "Literal scenario passed: " ++ toString 10 ++ " operations, " ++ toString 1 ++
      " expected failures" = literalLine := by
    decide
  simp only [line] at literal
  rcases parts_pass settings keys opened literal bulk with ⟨logged, passes, logs⟩
  exact ⟨opened, logged, opens, passes, logs⟩
end Runs

-- The whole program.

structure Accepted (environment : String → Option String) (arguments : List String)
    (options : Options) (filter : LogFilter) : Prop where
  parsed : parse environment arguments = .ok (.run options)
  filtered : LogFilter.ofVariable? (environment "RUST_LOG") = some filter

section Program
variable (environment : String → Option String) (arguments : List String) (options : Options)
variable (filter : LogFilter) (file : Option Bytes)

/-- The program fails before anything is logged, so before any drive is opened. -/
structure Stops (failure : Failure) : Prop where
  silent : run options file = (.error failure, [])
  outcome : carryOut environment (parse environment arguments) file = ⟨1, "", failure.report⟩

/-- The program ends well. Where no level is asked for, its lines are all shown. -/
structure Passes (settings : Settings) (keys : Nat) (logged : List Event) : Prop where
  ran : run options file = (.ok (), logged)
  outcome : carryOut environment (parse environment arguments) file =
    ⟨0, String.join ((logged.filter filter.shows).map fun event => event.report ++ "\n"), ""⟩
  reported : told (logged.filter LogFilter.standard.shows) = (lines settings keys).map note
  logs : ∃ opened, Drive.openWith settings = .ok opened ∧ Logs settings keys opened logged

variable (accepted : Accepted environment arguments options filter)
include accepted

theorem accepted_outcome :
    carryOut environment (parse environment arguments) file = .ofRun filter (run options file) := by
  rw [carryOut, accepted.filtered, accepted.parsed]

theorem failed_stops (failure : Failure)
    (failed : effectiveSettings options file = .error failure) :
    Stops environment arguments options file failure := by
  have silent : run options file = (.error failure, []) := by rw [run, failed]
  refine ⟨silent, ?_⟩
  rw [accepted_outcome environment arguments options filter file accepted, silent]
  rfl

theorem settled_passes (settings : Settings)
    (settled : effectiveSettings options file = .ok settings) (checked : settings.check = .ok ())
    (inRange : ∀ index < (options.keys.getD 0).toNat, InRange index) :
    ∃ logged, Passes environment arguments options filter file settings
      (options.keys.getD 0).toNat logged := by
  rcases runWith_passes settings _ checked inRange with
    ⟨opened, logged, opens, passes, logs⟩
  have ran : run options file = (.ok (), logged) := by
    rw [run, settled]
    exact passes
  refine ⟨logged, ran, ?_, notes_shown _ logged logs.tells, opened, opens, logs⟩
  rw [accepted_outcome environment arguments options filter file accepted, ran]
  rfl

/-- The smoke test, whatever it is started with. The command line is read as flags in one way. A file
that cannot be read or parsed stops the program, and so do effective settings that fail their check;
in every other case both scripts pass. -/
theorem smoke_test_exact :
    ∃ flags, Spelled arguments flags ∧ (∀ others, Spelled arguments others → others = flags) ∧
      (flags.map Prod.fst).Nodup ∧
      ((∃ failure, FileFault file (flags.lookup .config) failure) ∨
        ∃ said, FileSays file (flags.lookup .config) said) ∧
      (∀ failure, FileFault file (flags.lookup .config) failure →
        Stops environment arguments options file failure) ∧
      ∀ said, FileSays file (flags.lookup .config) said →
        ∃ settings keys, Effective environment flags said settings ∧
          Asks (flags.lookup .keys) keys ∧
          (∀ cause, settings.check = .error cause →
            Stops environment arguments options file (.settings cause)) ∧
          (settings.check = .ok () → (∀ index < keys, InRange index) →
            ∃ logged, Passes environment arguments options filter file settings keys logged) := by
  rcases accepted_holds environment arguments options accepted.parsed with
    ⟨flags, spelled, distinct, holds⟩
  have path := path_given environment options flags holds
  have stops := failed_stops environment arguments options filter file accepted
  refine ⟨flags, spelled, fun others again => spelled_unique _ _ _ again spelled, distinct,
    file_decides file _, ?_, ?_⟩
  · intro failure fault
    rw [← path] at fault
    exact stops failure (faulty_settings options file failure fault)
  · intro said content
    rw [← path] at content
    have read := said_settings options file said content
    refine ⟨_, _, merged_effective environment options flags holds said,
      keys_asked environment options flags holds, ?_, ?_⟩
    · intro cause refused
      apply stops
      simp only [effectiveSettings, read, refused]
    · intro checked inRange
      apply settled_passes environment arguments options filter file accepted _ _ checked inRange
      simp only [effectiveSettings, read, checked]
end Program

def layeredEnvironment (name : String) : Option String :=
  if name = "KVSSD_BACKEND" then some "kvssd"
  else if name = "KVSSD_SHARD_AMOUNT" then some "+8"
  else none

def layeredArguments : List String := ["--backend=sharded", "--config", "c.json", "--keys=3"]

def layeredOptions : Options := ⟨some .sharded, some 8, some 3, some "c.json"⟩

def layeredFile : String := "\x7b\"shard_amount\": 12\x7d"

theorem layered_file_said : SettingsMembers.ofJson layeredFile = .ok (none, some 12) := by
  have start : Json.skipBlank layeredFile.toList = '{' :: "\"shard_amount\": 12\x7d".toList := by cbv
  have item : Json.nextName false "\"shard_amount\": 12\x7d".toList =
      .ok (.item "shard_amount\": 12\x7d".toList) := by cbv
  have name : Json.readText "shard_amount\": 12\x7d".toList =
      .ok ("shard_amount", ": 12\x7d".toList) := by cbv
  have value : Json.readMember (Json.readNatural "usize") ": 12\x7d".toList =
      .ok (12, ['}']) := by cbv
  have ends : Json.nextName true ['}'] = .ok (.closed []) := by cbv
  have members : SettingsMembers.shape.readMembers false none none
      "\"shard_amount\": 12\x7d".toList = .ok ((none, some 12), []) := by
    rw [JsonShapes.members_turn, item]
    simp only [name, SettingsMembers.shape, Settings.shape, value]
    rw [JsonShapes.members_turn, ends]
    rfl
  rw [SettingsMembers.ofJson, Json.readAll, Json.Shape.read, start]
  simp only [members]
  rfl

-- The flag stands before the variable, and the variable before the file.
theorem smoke_test_exact_layered :
    Accepted layeredEnvironment layeredArguments layeredOptions LogFilter.standard ∧
      ∃ logged, Passes layeredEnvironment layeredArguments layeredOptions LogFilter.standard
        (some (Bytes.ofText layeredFile)) ⟨.sharded, 8⟩ 3 logged := by
  have accepted : Accepted layeredEnvironment layeredArguments layeredOptions LogFilter.standard :=
    ⟨rfl, rfl⟩
  have spelling : Spelled layeredArguments [(.backend, "sharded"), (.config, "c.json"), (.keys, "3")] :=
    .joined .backend "sharded" (.apart .config "c.json" (.inr (by decide)) (.joined .keys "3" .nil))
  rcases smoke_test_exact layeredEnvironment layeredArguments layeredOptions LogFilter.standard
    (some (Bytes.ofText layeredFile)) accepted with ⟨flags, _, unique, _, _, _, passes⟩
  cases unique _ spelling
  have named : FileSays (some (Bytes.ofText layeredFile)) (some "c.json") (none, some 12) :=
    .named "c.json" layeredFile _ (Bytes.toText?_ofText layeredFile) layered_file_said
  rcases passes _ named with ⟨settings, keys, ⟨backend, shardAmount⟩, asks, _, ends⟩
  rcases settings with ⟨kind, amount⟩
  have sharded : some .sharded = some kind := by
    rw [← Backend.ofName?_name kind, ← show "sharded" = kind.name from backend]
    rfl
  have eight : Text.readNatural "+8".toList = .ok amount.toNat := shardAmount
  have three : Text.readNatural "3".toList = .ok keys := asks
  cases sharded
  cases UInt64.toNat_inj.mp (show (8 : UInt64).toNat = amount.toNat from Except.ok.inj eight)
  cases three
  exact ⟨accepted, ends rfl (by decide)⟩

end FlashStore.ProgramRuns
