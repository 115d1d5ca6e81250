import FlashStore.Drive
import FlashStore.Row

/-!
Rows on a device, and the database that a benchmark harness makes of them.

A row's key is the device key, its blob the value. What the device refuses is passed on unchanged; a
stored value that is no blob is an error of its own and never a device code. The harness knows three
failures only, so every row error becomes one of them, and its message is logged as a warning before
it is lost. Tables are named in the calls and ignored: a store has one name space.

A database is opened by properties: they become settings, the settings a drive, and whichever fails
first gives the error.
-/

namespace FlashStore

inductive RowError where
  | device (failure : ResultCode)
  | blob (failure : BlobError)
  deriving DecidableEq, Repr

namespace RowError

def message : RowError → String
  | device failure => failure.message
  | blob failure => failure.message

def deviceError? : RowError → Option ResultCode
  | device failure => some failure
  | blob _ => none

def isNotFound : RowError → Bool
  | device .keyNotExist => true
  | _ => false

end RowError

namespace RowStore

variable {σ : Type} [Device σ]

def event (message key : String) (fields : List (String × EventValue)) : Event :=
  ⟨.trace, .rows, message, ("key", .text key) :: fields⟩

def read (store : σ) (key : String) : Reply σ (Except RowError Row) :=
  match Device.read store (.ofText key) with
  | ⟨.error failure, events, store⟩ => ⟨.error (.device failure), events, store⟩
  | ⟨.ok value, events, store⟩ =>
    match Row.decode value.bytes with
    | .error failure => ⟨.error (.blob failure), events, store⟩
    | .ok row =>
      ⟨.ok row, events ++ [event "read row" key [("fields", .number row.length)]], store⟩

/-- Encodes the row and writes its blob. A row that cannot be encoded never reaches the device. -/
def write (mode : Device.WriteMode) (store : σ) (key : String) (row : Row) :
    Reply σ (Except RowError Unit) :=
  match row.encode with
  | .error failure => ⟨.error (.blob failure), [], store⟩
  | .ok blob =>
    match Device.write mode store (.ofText key) (.ofBytes blob) with
    | ⟨.error failure, events, store⟩ => ⟨.error (.device failure), events, store⟩
    | ⟨.ok (), events, store⟩ =>
      let message := match mode with
        | .insert => "insert row"
        | .update => "update row"
      ⟨.ok (), events ++ [event message key [("bytes", .number blob.length)]], store⟩

def insert (store : σ) (key : String) (row : Row) : Reply σ (Except RowError Unit) :=
  write .insert store key row

def update (store : σ) (key : String) (row : Row) : Reply σ (Except RowError Unit) :=
  write .update store key row

def delete (store : σ) (key : String) : Reply σ (Except RowError Unit) :=
  match Device.delete store (.ofText key) with
  | ⟨.error failure, events, store⟩ => ⟨.error (.device failure), events, store⟩
  | ⟨.ok (), events, store⟩ => ⟨.ok (), events ++ [event "delete row" key []], store⟩

end RowStore

end FlashStore

namespace FlashStore

/-! Harness calls -/

inductive Status where
  | error
  | notFound
  | notImplemented
  deriving DecidableEq, Repr

namespace Status

def ofRowError : RowError → Status
  | .device .keyNotExist => notFound
  | _ => error

def name : Status → String
  | error => "Error"
  | notFound => "NotFound"
  | notImplemented => "NotImplemented"

def message : Status → String
  | error => "Operation failed"
  | notFound => "Key not found"
  | notImplemented => "Operation not implemented"

end Status

namespace Harness

def databaseName : String := "kvssd"

variable {σ α : Type} [Device σ]

def warning (operation key : String) (failure : RowError) : Event :=
  ⟨.warn, .harness, failure.message,
    [("op", .text operation), ("key", .text key),
      ("status", .word (Status.ofRowError failure).name)]⟩

def report (operation key : String) (reply : Reply σ (Except RowError α)) :
    Reply σ (Except Status α) :=
  match reply with
  | ⟨.ok result, events, store⟩ => ⟨.ok result, events, store⟩
  | ⟨.error failure, events, store⟩ =>
    ⟨.error (.ofRowError failure), events ++ [warning operation key failure], store⟩

def read (store : σ) (_table key : String) (names : Option (List String)) :
    Reply σ (Except Status Row) :=
  match report "read" key (RowStore.read store key) with
  | ⟨.ok row, events, store⟩ =>
    let kept := match names with
      | none => row
      | some names => row.pick names
    ⟨.ok kept, events, store⟩
  | ⟨.error status, events, store⟩ => ⟨.error status, events, store⟩

def scan (store : σ) (_table _start : String) (_count : Nat) (_names : Option (List String)) :
    Reply σ (Except Status (List Row)) :=
  ⟨.error .notImplemented, [], store⟩

def insert (store : σ) (_table key : String) (row : Row) : Reply σ (Except Status Unit) :=
  report "insert" key (RowStore.insert store key row)

def update (store : σ) (_table key : String) (row : Row) : Reply σ (Except Status Unit) :=
  report "update" key (RowStore.update store key row)

def delete (store : σ) (_table key : String) : Reply σ (Except Status Unit) :=
  report "delete" key (RowStore.delete store key)

end Harness

end FlashStore

namespace FlashStore.Harness

def openDatabase (properties : Properties) : Except SettingsError Drive.Opened :=
  match Settings.ofProperties properties with
  | .error failure => .error failure
  | .ok settings =>
    match Drive.openWith settings with
    | .error failure => .error failure
    | .ok opened =>
      let created : Event :=
        ⟨.debug, .harness, "Created " ++ databaseName ++ " database",
          [("backend", .word settings.backend.name)]⟩
      .ok { opened with events := opened.events ++ [created] }

end FlashStore.Harness
