import FlashStore.Smoke

/-!
Calls as data. A store can be called at three layers: its device, its rows, and the harness on top.
All three reach the same entries, so a history of mixed calls is one list, and a run of it is one
fold.

A session is a list of steps against one store, each a call or a whole smoke run. Its transcript
keeps for each step what was answered, what was logged and how many entries the store held after it.
-/

namespace FlashStore

inductive DeviceCall where
  | read (key : KeyRef)
  | insert (key : KeyRef) (value : ValueRef)
  | update (key : KeyRef) (value : ValueRef)
  | delete (key : KeyRef)
  deriving DecidableEq, Repr

inductive RowCall where
  | read (key : String)
  | insert (key : String) (row : Row)
  | update (key : String) (row : Row)
  | delete (key : String)
  deriving DecidableEq, Repr

inductive HarnessCall where
  | read (table key : String) (names : Option (List String))
  | scan (table start : String) (count : Nat) (names : Option (List String))
  | insert (table key : String) (row : Row)
  | update (table key : String) (row : Row)
  | delete (table key : String)
  deriving DecidableEq, Repr

inductive Call where
  | device (call : DeviceCall)
  | row (call : RowCall)
  | harness (call : HarnessCall)
  deriving DecidableEq, Repr

inductive Answer where
  | stored (answer : Except ResultCode StoredValue)
  | deviceDone (answer : Except ResultCode Unit)
  | row (answer : Except RowError Row)
  | rowDone (answer : Except RowError Unit)
  | picked (answer : Except Status Row)
  | scanned (answer : Except Status (List Row))
  | harnessDone (answer : Except Status Unit)

variable {σ : Type} [Device σ]

def DeviceCall.run (call : DeviceCall) (store : σ) : Reply σ Answer :=
  match call with
  | read key => (Device.read store key).map .stored
  | insert key value => (Device.insert store key value).map .deviceDone
  | update key value => (Device.update store key value).map .deviceDone
  | delete key => (Device.delete store key).map .deviceDone

def RowCall.run (call : RowCall) (store : σ) : Reply σ Answer :=
  match call with
  | read key => (RowStore.read store key).map .row
  | insert key row => (RowStore.insert store key row).map .rowDone
  | update key row => (RowStore.update store key row).map .rowDone
  | delete key => (RowStore.delete store key).map .rowDone

def HarnessCall.run (call : HarnessCall) (store : σ) : Reply σ Answer :=
  match call with
  | read table key names => (Harness.read store table key names).map .picked
  | scan table start count names => (Harness.scan store table start count names).map .scanned
  | insert table key row => (Harness.insert store table key row).map .harnessDone
  | update table key row => (Harness.update store table key row).map .harnessDone
  | delete table key => (Harness.delete store table key).map .harnessDone

def Call.run (call : Call) (store : σ) : Reply σ Answer :=
  match call with
  | device call => call.run store
  | row call => call.run store
  | harness call => call.run store

end FlashStore

/-! Sessions -/

namespace FlashStore.Session

inductive Step where
  | call (made : Call)
  | literal
  | bulk (count : Nat)

inductive Outcome where
  | answered (answer : Answer)
  | smoke (result : Except Smoke.Deviation Smoke.Report)

structure Turn where
  outcome : Outcome
  events : List Event
  count : Nat

variable {σ : Type} [Device σ]

def Step.run (step : Step) (store : σ) : Reply σ Outcome :=
  match step with
  | call made => (made.run store).map .answered
  | literal => (Smoke.playLiteral store).map .smoke
  | bulk count => (Smoke.playBulk store count).map .smoke

def run : List Step → σ → List Turn × σ
  | [], store => ([], store)
  | step :: steps, store =>
    let reply := step.run store
    let rest := run steps reply.state
    (⟨reply.answer, reply.events, Device.count reply.state⟩ :: rest.1, rest.2)

def runEach : List (List Step) → σ → List (List Turn) × σ
  | [], store => ([], store)
  | steps :: sessions, store =>
    let first := run steps store
    let rest := runEach sessions first.2
    (first.1 :: rest.1, rest.2)

end FlashStore.Session
