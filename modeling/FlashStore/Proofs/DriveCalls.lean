import FlashStore.Proofs.RequestChecks
import FlashStore.Session

/-!
Calls on an emulated drive, one and many.

A run makes one call after the other, each on the state that the one before left. A reference is a
second machine over a view of that state; it answers a call and gives the next view. Where every
call keeps the two in step, a whole run answers what the reference predicts. In the same way two
machines agree over a whole run if every call keeps them in agreement.

What one device call does is said once: a request that fails its check is refused and changes
nothing; any other is served from whether its key content is present. Everything proved about runs
of device calls rests on `run_exact` and on the laws of `find?`. The answers of a run follow from
its history: the last successful insert, update or delete of a content says whether it is present
and which value it has. No state of a drive and no choice of a backend occurs in `owed`.
-/

namespace FlashStore.CallRuns

variable {State View Call Answer : Type}

def answers (run : Call → State → Reply State Answer) : List Call → State → List Answer
  | [], _ => []
  | call :: calls, state =>
      (run call state).answer :: answers run calls (run call state).state

def leaves (run : Call → State → Reply State Answer) : List Call → State → State
  | [], state => state
  | call :: calls, state => leaves run calls (run call state).state

def log (run : Call → State → Reply State Answer) : List Call → State → List Event
  | [], _ => []
  | call :: calls, state =>
      (run call state).events ++ log run calls (run call state).state

theorem leaves_keeps (run : Call → State → Reply State Answer) (kept : State → Prop)
    (step : ∀ call state, kept state → kept (run call state).state) (calls : List Call)
    (state : State) (start : kept state) : kept (leaves run calls state) := by
  induction calls generalizing state with
  | nil => exact start
  | cons call rest ih => exact ih (run call state).state (step call state start)

theorem leaves_snoc (run : Call → State → Reply State Answer) (calls : List Call) (call : Call)
    (state : State) :
    leaves run (calls ++ [call]) state = (run call (leaves run calls state)).state := by
  induction calls generalizing state with
  | nil => rfl
  | cons first rest ih => exact ih (run first state).state

theorem answers_snoc (run : Call → State → Reply State Answer) (calls : List Call) (call : Call)
    (state : State) :
    answers run (calls ++ [call]) state =
      answers run calls state ++ [(run call (leaves run calls state)).answer] := by
  induction calls generalizing state with
  | nil => rfl
  | cons first rest ih => exact congrArg (List.cons _) (ih (run first state).state)

def predicted (refer : Call → View → Answer × View) : List Call → View → List Answer
  | [], _ => []
  | call :: calls, view => (refer call view).1 :: predicted refer calls (refer call view).2

/-- Only the calls that are made have to keep the machines in step, so a reference may be right for
a part of all calls. -/
theorem run_refines (run : Call → State → Reply State Answer)
    (refer : Call → View → Answer × View) (agrees : View → State → Prop) (calls : List Call)
    (step : ∀ call ∈ calls, ∀ view state, agrees view state →
      (run call state).answer = (refer call view).1 ∧
        agrees (refer call view).2 (run call state).state)
    (view : View) (state : State) (start : agrees view state) :
    answers run calls state = predicted refer calls view := by
  induction calls generalizing view state with
  | nil => rfl
  | cons call rest ih =>
      obtain ⟨same, next⟩ := step call List.mem_cons_self view state start
      have tail := ih (fun later member => step later (List.mem_cons_of_mem call member))
        (refer call view).2 (run call state).state next
      simp only [answers, predicted, same, tail]

/-- Two machines that every call keeps in agreement answer a run alike and end in agreement. -/
theorem runs_agree {Other : Type} (run : Call → State → Reply State Answer)
    (runOther : Call → Other → Reply Other Answer) (agrees : State → Other → Prop)
    (step : ∀ call state other, agrees state other →
      (run call state).answer = (runOther call other).answer ∧
        agrees (run call state).state (runOther call other).state)
    (calls : List Call) (state : State) (other : Other) (start : agrees state other) :
    answers run calls state = answers runOther calls other ∧
      agrees (leaves run calls state) (leaves runOther calls other) := by
  induction calls generalizing state other with
  | nil => exact ⟨rfl, start⟩
  | cons call rest ih =>
      obtain ⟨same, next⟩ := step call state other start
      obtain ⟨tail, last⟩ := ih _ _ next
      refine ⟨?_, last⟩
      simp only [answers, same, tail]

theorem predicted_all (refer : Call → View → Answer × View) (property : Answer → Prop)
    (each : ∀ call view, property (refer call view).1) (calls : List Call) (view : View) :
    ∀ answer ∈ predicted refer calls view, property answer := by
  induction calls generalizing view with
  | nil => simp [predicted]
  | cons call rest ih =>
      intro answer member
      rcases List.mem_cons.mp member with rfl | later
      · exact each call view
      · exact ih (refer call view).2 answer later

end FlashStore.CallRuns

/-! One call -/

namespace FlashStore.DriveCalls
open RequestChecks

def keyOf : DeviceCall → KeyRef
  | .read key | .insert key _ | .update key _ | .delete key => key

def valueOf : DeviceCall → Option ValueRef
  | .read _ | .delete _ => none
  | .insert _ value | .update _ value => some value

def refused : DeviceCall → ResultCode → Answer
  | .read _, failure => .stored (.error failure)
  | .insert _ _, failure | .update _ _, failure | .delete _, failure => .deviceDone (.error failure)

def admits : Device.WriteMode → Bool → Bool
  | .insert, present => !present
  | .update, present => present

def conflict : Device.WriteMode → ResultCode
  | .insert => .keyAlreadyExists
  | .update => .keyNotExist

def writeName : Device.WriteMode → String
  | .insert => "insert"
  | .update => "update"

section Serving
variable {τ : Type} [EntryMap τ]

def logged (entries : τ) (message : String) (key : Bytes) (fields : List (String × EventValue)) :
    List Event :=
  [Emulated.event entries message (Emulated.keyLength key :: fields)]

/-- What a drive does with a call that passed its check. -/
def serve (entries : τ) (call : DeviceCall) : Reply τ Answer :=
  let key := content (keyOf call)
  match call, find? entries key with
  | .read _, none =>
    ⟨.stored (.error .keyNotExist), logged entries "read" key [Emulated.hit none], entries⟩
  | .read _, some value =>
    ⟨.stored (.ok value), logged entries "read" key [Emulated.hit (some value)], entries⟩
  | .insert _ value, none =>
    ⟨.deviceDone (.ok ()), logged entries "insert" key [], put entries key (kept value)⟩
  | .insert _ _, some _ => ⟨.deviceDone (.error .keyAlreadyExists), [], entries⟩
  | .update _ _, none => ⟨.deviceDone (.error .keyNotExist), [], entries⟩
  | .update _ value, some _ =>
    ⟨.deviceDone (.ok ()), logged entries "update" key [], put entries key (kept value)⟩
  | .delete _, none =>
    ⟨.deviceDone (.error .keyNotExist), logged entries "delete" key [Emulated.hit none], entries⟩
  | .delete _, some value =>
    ⟨.deviceDone (.ok ()), logged entries "delete" key [Emulated.hit (some value)],
      erase entries key⟩

theorem read_exact (entries : τ) (key : KeyRef) :
    Device.read entries key =
      match checkRequest key none with
      | .error failure => ⟨.error failure, [], entries⟩
      | .ok () =>
        ⟨((find? entries (content key)).map .ok).getD (.error .keyNotExist),
          logged entries "read" (content key) [Emulated.hit (find? entries (content key))],
          entries⟩ := by
  simp only [Device.read, Emulated.read, accept_key_exact]
  cases checkRequest key none with
  | error failure => rfl
  | ok => cases found : find? entries (content key) <;> simp [Except.map, found, logged]

theorem read_found_iff (entries : τ) (key : KeyRef) (value : StoredValue) :
    (Device.read entries key).answer = .ok value ↔
      checkRequest key none = .ok () ∧ find? entries (content key) = some value := by
  rw [read_exact]
  cases checkRequest key none with
  | error failure => simp
  | ok => cases find? entries (content key) <;> simp

theorem write_exact [LawfulEntryMap τ] (mode : Device.WriteMode) (entries : τ) (key : KeyRef)
    (value : ValueRef) :
    Device.write mode entries key value =
      match checkRequest key (some value) with
      | .error failure => ⟨.error failure, [], entries⟩
      | .ok () =>
        if admits mode (find? entries (content key)).isSome then
          ⟨.ok (), logged entries (writeName mode) (content key) [],
            put entries (content key) (kept value)⟩
        else ⟨.error (conflict mode), [], entries⟩ := by
  cases mode with
  | insert =>
      simp only [Device.write, Device.insert, Emulated.insert, accept_write_exact]
      cases checkRequest key (some value) with
      | error failure => rfl
      | ok =>
          cases found : find? entries (content key) with
          | none =>
              -- A backend's second look at the key misses it as the first one did.
              have added := LawfulEntryMap.add?_missing entries (content key) (kept value) found
              simp [Except.map, found, added, logged, admits, writeName]
          | some _ => simp [Except.map, found, admits, conflict]
  | update =>
      simp only [Device.write, Device.update, Emulated.update, accept_write_exact]
      cases checkRequest key (some value) with
      | error failure => rfl
      | ok =>
          cases found : find? entries (content key) <;>
            simp [Except.map, found, logged, admits, conflict, writeName]

theorem delete_exact (entries : τ) (key : KeyRef) :
    Device.delete entries key =
      match checkRequest key none with
      | .error failure => ⟨.error failure, [], entries⟩
      | .ok () =>
        ⟨if (find? entries (content key)).isSome then .ok () else .error .keyNotExist,
          logged entries "delete" (content key) [Emulated.hit (find? entries (content key))],
          if (find? entries (content key)).isSome then erase entries (content key)
          else entries⟩ := by
  simp only [Device.delete, Emulated.delete, accept_key_exact]
  cases checkRequest key none with
  | error failure => rfl
  | ok => cases found : find? entries (content key) <;> simp [Except.map, found, logged]

variable [LawfulEntryMap τ]

theorem run_exact (call : DeviceCall) (entries : τ) :
    call.run entries =
      match checkRequest (keyOf call) (valueOf call) with
      | .error failure => ⟨refused call failure, [], entries⟩
      | .ok () => serve entries call := by
  cases call with
  | read key =>
      simp only [DeviceCall.run, read_exact, keyOf, valueOf]
      cases checkRequest key none with
      | error failure => rfl
      | ok => cases found : find? entries (content key) <;> simp [serve, keyOf, found, Reply.map]
  | insert key value =>
      have written := write_exact .insert entries key value
      simp only [Device.write] at written
      simp only [DeviceCall.run, written, keyOf, valueOf]
      cases checkRequest key (some value) with
      | error failure => rfl
      | ok =>
          cases found : find? entries (content key) <;>
            simp [serve, keyOf, found, admits, conflict, writeName, Reply.map]
  | update key value =>
      have written := write_exact .update entries key value
      simp only [Device.write] at written
      simp only [DeviceCall.run, written, keyOf, valueOf]
      cases checkRequest key (some value) with
      | error failure => rfl
      | ok =>
          cases found : find? entries (content key) <;>
            simp [serve, keyOf, found, admits, conflict, writeName, Reply.map]
  | delete key =>
      simp only [DeviceCall.run, delete_exact, keyOf, valueOf]
      cases checkRequest key none with
      | error failure => rfl
      | ok => cases found : find? entries (content key) <;> simp [serve, keyOf, found, Reply.map]

def changes : DeviceCall → Answer → Bool
  | .insert _ _, .deviceDone (.ok ()) => true
  | .update _ _, .deviceDone (.ok ()) => true
  | .delete _, .deviceDone (.ok ()) => true
  | _, _ => false

theorem refused_changes (call : DeviceCall) (failure : ResultCode) :
    changes call (refused call failure) = false := by
  cases call <;> rfl

theorem serve_entry (entries : τ) (call : DeviceCall) (key : Bytes) :
    find? (serve entries call).state key =
      if changes call (serve entries call).answer ∧ content (keyOf call) = key then
        (valueOf call).map kept
      else find? entries key := by
  cases found : find? entries (content (keyOf call)) <;> cases call <;>
    simp [serve, found, changes, valueOf, LawfulEntryMap.find?_put, LawfulEntryMap.find?_erase]

/-- The entry of a key content after a call: what a successful change of that content wrote, and
else what stood there before. -/
theorem run_entry (call : DeviceCall) (entries : τ) (key : Bytes) :
    find? (call.run entries).state key =
      if changes call (call.run entries).answer ∧ content (keyOf call) = key then
        (valueOf call).map kept
      else find? entries key := by
  rw [run_exact]
  cases checkRequest (keyOf call) (valueOf call) with
  | error failure => simp [refused_changes]
  | ok => exact serve_entry entries call key
end Serving

/-- A drive that was just opened: one table, or any number of shards among which the hashes of the
keys are dealt out in any way. -/
inductive Opening where
  | single (capacity : Option Nat)
  | sharded (asked : Nat) (place : UInt64 → Nat)

def Opening.drive : Opening → Drive
  | .single capacity => (Drive.openSingle capacity).drive
  | .sharded asked place => (Drive.openSharded asked place).drive

def Opening.events : Opening → List Event
  | .single capacity => (Drive.openSingle capacity).events
  | .sharded asked place => (Drive.openSharded asked place).events

theorem opening_empty (opening : Opening) (key : Bytes) : find? opening.drive key = none := by
  cases opening with
  | single capacity =>
      show find? (Std.HashMap.emptyWithCapacity 8 : Table) key = none
      simp [Table.find?_eq]
  | sharded asked place =>
      show find? ((ShardedTable.ofAmount (shardAmount asked) place).shard key) key = none
      simp [ShardedTable.shard, ShardedTable.ofAmount, Table.find?_eq]

theorem empty_shards (n : Nat) :
    ShardedTable.total Std.HashMap.size (List.replicate n (∅ : Table)) = 0 := by
  induction n with
  | zero => rfl
  | succ n ih => simpa [ShardedTable.total, List.replicate_succ] using ih

theorem opening_count (opening : Opening) : count opening.drive = 0 := by
  cases opening with
  | single capacity =>
      show (Std.HashMap.emptyWithCapacity 8 : Table).size = 0
      exact Std.HashMap.size_emptyWithCapacity
  | sharded asked place =>
      show (ShardedTable.ofAmount (shardAmount asked) place).size = 0
      simp [ShardedTable.size, ShardedTable.ofAmount, empty_shards]

end FlashStore.DriveCalls

/-! Answers from a history -/

namespace FlashStore.DriveHistory
open CallRuns DriveCalls RequestChecks

structure Past where
  call : DeviceCall
  answer : Answer

def changed (key : Bytes) (past : Past) : Bool :=
  changes past.call past.answer && content (keyOf past.call) == key

/-- The value last written under a key content and not deleted since. Histories are newest first. -/
def written? (history : List Past) (key : Bytes) : Option ValueRef :=
  match history.find? (changed key) with
  | some ⟨.insert _ value, _⟩ => some value
  | some ⟨.update _ value, _⟩ => some value
  | _ => none

/-- The answer that a history leaves to a call. -/
def owed (history : List Past) (call : DeviceCall) : Answer :=
  match checkRequest (keyOf call) (valueOf call) with
  | .error failure => refused call failure
  | .ok () =>
    match call, written? history (content (keyOf call)) with
    | .read _, none => .stored (.error .keyNotExist)
    | .read _, some value => .stored (.ok (kept value))
    | .insert _ _, none => .deviceDone (.ok ())
    | .insert _ _, some _ => .deviceDone (.error .keyAlreadyExists)
    | .update _ _, none => .deviceDone (.error .keyNotExist)
    | .update _ _, some _ => .deviceDone (.ok ())
    | .delete _, none => .deviceDone (.error .keyNotExist)
    | .delete _, some _ => .deviceDone (.ok ())

def remember (call : DeviceCall) (history : List Past) : Answer × List Past :=
  (owed history call, ⟨call, owed history call⟩ :: history)

theorem written_cons (history : List Past) (past : Past) (key : Bytes) :
    written? (past :: history) key =
      if changed key past then valueOf past.call else written? history key := by
  obtain ⟨call, answer⟩ := past
  cases counts : changed key ⟨call, answer⟩ with
  | false => simp [written?, counts]
  | true =>
      cases call with
      | read _ => simp [changed, changes] at counts
      | insert _ _ | update _ _ | delete _ => simp [written?, counts, valueOf]

section Step
variable {τ : Type} [EntryMap τ] [LawfulEntryMap τ]

/-- The entries are the values last written. -/
def Reflects (history : List Past) (entries : τ) : Prop :=
  ∀ key, find? entries key = (written? history key).map kept

theorem run_owed (history : List Past) (call : DeviceCall) (entries : τ)
    (reflects : Reflects history entries) : (call.run entries).answer = owed history call := by
  rw [run_exact]
  simp only [owed]
  cases checkRequest (keyOf call) (valueOf call) with
  | error failure => rfl
  | ok =>
      -- Behind the check only presence decides, and the history knows it.
      have found := reflects (content (keyOf call))
      cases last : written? history (content (keyOf call)) <;>
        cases call <;> simp_all [serve]

theorem run_reflects (history : List Past) (call : DeviceCall) (entries : τ)
    (reflects : Reflects history entries) :
    Reflects (⟨call, (call.run entries).answer⟩ :: history) (call.run entries).state := by
  intro key
  rw [run_entry, written_cons, reflects key]
  by_cases counts : changed key ⟨call, (call.run entries).answer⟩
  · have both := counts
    simp only [changed, Bool.and_eq_true, beq_iff_eq] at both
    rw [if_pos both, if_pos counts]
  · have neither := counts
    simp only [changed, Bool.and_eq_true, beq_iff_eq] at neither
    rw [if_neg neither, if_neg counts]
end Step

/-- Every answer of every run on a fresh drive is the one that the history before it leaves. -/
theorem answers_from_history (opening : Opening) (calls : List DeviceCall) :
    answers DeviceCall.run calls opening.drive = predicted remember calls [] := by
  apply run_refines DeviceCall.run remember Reflects
  · intro call _ history entries reflects
    have answered := run_owed history call entries reflects
    have next := run_reflects history call entries reflects
    rw [answered] at next
    exact ⟨answered, next⟩
  · intro key
    rw [opening_empty]
    rfl

end FlashStore.DriveHistory
