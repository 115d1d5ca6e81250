import FlashStore.Database

/-!
Smoke runs: scripts of row calls with the outcome that each must have.

A run goes through its script step by step and stops at the first deviation, so no call is made
after it. When every step went as expected the report counts the calls and, among them, the reads
that had to fail.

There are two scripts. The literal one takes two keys through every kind of call and ends with a
read of a deleted key. The bulk one takes `count` generated rows through six rounds: insert, read,
update, read, delete, read again. An update writes the row half the range away, so that an update
that is lost shows in the round after it.
-/

namespace FlashStore.Smoke

/-- A step of a script. `expect` reads a row that must equal the given one; `missing` reads a key
that must not exist. -/
inductive Step where
  | insert (key : String) (row : Row)
  | update (key : String) (row : Row)
  | delete (key : String)
  | expect (key : String) (row : Row)
  | missing (key : String)
  deriving DecidableEq, Repr

def Step.name : Step → String
  | insert key _ => "insert " ++ key
  | update key _ => "update " ++ key
  | delete key => "delete " ++ key
  | expect key _ => "read " ++ key
  | missing key => "read " ++ key

inductive Deviation where
  | failed (step : String) (cause : RowError)
  | mismatch (step : String) (expected actual : Row)
  | wrongOutcome (step expected actual : String)
  deriving DecidableEq, Repr

def Deviation.message : Deviation → String
  | failed step cause => step ++ ": unexpected failure: " ++ cause.message
  | mismatch step expected actual =>
    step ++ ": expected " ++ expected.shown ++ ", read " ++ actual.shown
  | wrongOutcome step expected actual =>
    step ++ ": expected error '" ++ expected ++ "', got " ++ actual

structure Report where
  operations : Nat := 0
  expectedFailures : Nat := 0
  deriving DecidableEq, Repr

/-- A run that narrates logs every step; the other is silent but for its end. -/
inductive Narration where
  | full
  | silent
  deriving DecidableEq, Repr

def say (message : String) : Event := ⟨.info, .smoke, message, []⟩

def Narration.tell : Narration → List String → List Event
  | full, messages => messages.map say
  | silent, _ => []

variable {σ : Type} [Device σ]

def Step.demand (step : Step) (done : String) (narration : Narration)
    (reply : Reply σ (Except RowError Unit)) : Reply σ (Except Deviation Unit) :=
  match reply with
  | ⟨.error cause, events, store⟩ => ⟨.error (.failed step.name cause), events, store⟩
  | ⟨.ok (), events, store⟩ =>
    ⟨.ok (), events ++ narration.tell [done ++ "..." ++ ResultCode.successMessage], store⟩

def Step.run (step : Step) (narration : Narration) (store : σ) : Reply σ (Except Deviation Unit) :=
  match step with
  | insert key row => step.demand ("Insert " ++ key) narration (RowStore.insert store key row)
  | update key row => step.demand ("Update " ++ key) narration (RowStore.update store key row)
  | delete key => step.demand ("Delete " ++ key) narration (RowStore.delete store key)
  | expect key row =>
    match RowStore.read store key with
    | ⟨.error cause, events, store⟩ => ⟨.error (.failed step.name cause), events, store⟩
    | ⟨.ok actual, events, store⟩ =>
      if actual = row then
        let told := ("Read " ++ key ++ "..." ++ ResultCode.successMessage) ::
          actual.map fun field => "  " ++ field.name ++ ": " ++ field.value
        ⟨.ok (), events ++ narration.tell told, store⟩
      else
        ⟨.error (.mismatch step.name row actual), events, store⟩
  | missing key =>
    let expected := ResultCode.keyNotExist.message
    match RowStore.read store key with
    | ⟨.error cause, events, store⟩ =>
      if cause.message = expected then
        ⟨.ok (), events ++ narration.tell ["Read " ++ key ++ "..." ++ cause.message], store⟩
      else
        let actual := "error '" ++ cause.message ++ "'"
        ⟨.error (.wrongOutcome step.name expected actual), events, store⟩
    | ⟨.ok row, events, store⟩ =>
      ⟨.error (.wrongOutcome step.name expected (toString row.length ++ " fields")), events, store⟩

def Report.count (report : Report) (step : Step) : Report where
  operations := report.operations + 1
  expectedFailures :=
    match step with
    | .missing _ => report.expectedFailures + 1
    | _ => report.expectedFailures

/-- Goes on with a script. `logged` holds the events so far, the last one first. -/
def playFrom (narration : Narration) (report : Report) (logged : List Event) :
    List Step → σ → Reply σ (Except Deviation Report)
  | [], store => ⟨.ok report, logged.reverse, store⟩
  | step :: script, store =>
    match step.run narration store with
    | ⟨.error deviation, events, store⟩ =>
      ⟨.error deviation, (events.reverseAux logged).reverse, store⟩
    | ⟨.ok (), events, store⟩ =>
      playFrom narration (report.count step) (events.reverseAux logged) script store

def play (narration : Narration) (script : List Step) (store : σ) :
    Reply σ (Except Deviation Report) :=
  playFrom narration {} [] script store

end FlashStore.Smoke

namespace FlashStore.Smoke

/-! Scripts -/

def literalRow (version : Nat) : Row :=
  [⟨"field1", "value" ++ toString version ++ "_1"⟩, ⟨"field2", "value" ++ toString version ++ "_2"⟩]

def literalScript : List Step :=
  [.insert "key1" (literalRow 1),
    .insert "key2" (literalRow 2),
    .expect "key1" (literalRow 1),
    .expect "key2" (literalRow 2),
    .update "key1" (literalRow 2),
    .expect "key1" (literalRow 2),
    .expect "key2" (literalRow 2),
    .delete "key2",
    .expect "key1" (literalRow 2),
    .missing "key2"]

def sampleKey (index : Nat) : String := "key" ++ toString index

def sampleField (index n : Nat) : Field where
  name := "field" ++ toString index ++ "_" ++ toString n
  value :=
    "value" ++ toString index ++ "_" ++ toString n ++ "_" ++ "".pushn 'x' ((index * 7 + n) % 32)

def sampleRow (index : Nat) : Row :=
  [sampleField index 1, sampleField index 2, sampleField index 3]

/-- The index whose row is written to `index` by the update round. -/
def shifted (count index : Nat) : Nat := (index + count / 2) % count

def bulkScript (count : Nat) : List Step :=
  let round (step : Nat → Step) := (List.range count).map step
  round (fun i => .insert (sampleKey i) (sampleRow i)) ++
    round (fun i => .expect (sampleKey i) (sampleRow i)) ++
    round (fun i => .update (sampleKey i) (sampleRow (shifted count i))) ++
    round (fun i => .expect (sampleKey i) (sampleRow (shifted count i))) ++
    round (fun i => .delete (sampleKey i)) ++
    round (fun i => .missing (sampleKey i))

variable {σ : Type} [Device σ]

def playLiteral (store : σ) : Reply σ (Except Deviation Report) :=
  play .full literalScript store

def playBulk (store : σ) (count : Nat) : Reply σ (Except Deviation Report) :=
  match play .silent (bulkScript count) store with
  | ⟨.error deviation, events, store⟩ => ⟨.error deviation, events, store⟩
  | ⟨.ok report, events, store⟩ =>
    let complete : Event :=
      ⟨.info, .smoke, "Bulk run complete",
        [("rows", .number count), ("operations", .number report.operations)]⟩
    ⟨.ok report, events ++ [complete], store⟩

end FlashStore.Smoke
