import FlashStore.Device
import FlashStore.Settings

/-!
An emulated drive of either backend, how it is opened and what it logs when it is opened and closed.
-/

namespace FlashStore

inductive Drive where
  | single (entries : Table)
  | sharded (entries : ShardedTable)

instance : EntryMap Drive where
  find?
    | .single entries => find? entries
    | .sharded entries => find? entries
  add?
    | .single entries, key, value => (add? entries key value).map .single
    | .sharded entries, key, value => (add? entries key value).map .sharded
  put
    | .single entries, key, value => .single (put entries key value)
    | .sharded entries, key, value => .sharded (put entries key value)
  erase
    | .single entries, key => .single (erase entries key)
    | .sharded entries, key => .sharded (erase entries key)
  count
    | .single entries => count entries
    | .sharded entries => count entries
  source
    | .single _ => .singleTable
    | .sharded _ => .shardedTable

instance : LawfulEntryMap Drive where
  find?_put
    | .single entries => LawfulEntryMap.find?_put entries
    | .sharded entries => LawfulEntryMap.find?_put entries
  add?_missing
    | .single entries, key, value, missing =>
      congrArg (Option.map Drive.single) (LawfulEntryMap.add?_missing entries key value missing)
    | .sharded entries, key, value, missing =>
      congrArg (Option.map Drive.sharded) (LawfulEntryMap.add?_missing entries key value missing)
  find?_erase
    | .single entries => LawfulEntryMap.find?_erase entries
    | .sharded entries => LawfulEntryMap.find?_erase entries
  count_put
    | .single entries => LawfulEntryMap.count_put entries
    | .sharded entries => LawfulEntryMap.count_put entries
  count_erase
    | .single entries => LawfulEntryMap.count_erase entries
    | .sharded entries => LawfulEntryMap.count_erase entries
  count_pos
    | .single entries => LawfulEntryMap.count_pos entries
    | .sharded entries => LawfulEntryMap.count_pos entries

namespace Drive

structure Opened where
  drive : Drive
  events : List Event

/-- A capacity only sizes the table ahead of time: it is logged and limits nothing. -/
def openSingle (capacity : Option Nat) : Opened where
  drive := .single (Std.HashMap.emptyWithCapacity 8)
  events :=
    let room := match capacity with
      | none => ""
      | some n => " with capacity " ++ toString n
    [⟨.debug, .singleTable, "Opening hashmap KV-SSD emulation" ++ room, []⟩]

/-- Which of the shards a hash belongs to is the table's own business; here it is the hash modulo
their number unless `place` says otherwise. -/
def openSharded (asked : Nat) (place : UInt64 → Nat := UInt64.toNat) : Opened where
  drive := .sharded (.ofAmount (shardAmount asked) place)
  events :=
    [⟨.debug, .shardedTable,
      "Opening sharded KV-SSD emulation with " ++ toString (shardAmount asked) ++ " shards", []⟩]

def openWith (settings : Settings) : Except SettingsError Opened :=
  match settings.check with
  | .error failure => .error failure
  | .ok () =>
    match settings.backend with
    | .singleTable => .ok (openSingle none)
    | .sharded => .ok (openSharded settings.shardAmount.toNat)
    | .physical => .error (.unsupportedBackend settings.backend)

def kind : Drive → String
  | .single _ => "hashmap"
  | .sharded _ => "sharded"

def closing (drive : Drive) : Event :=
  ⟨.debug, EntryMap.source drive,
    "Closing " ++ drive.kind ++ " KV-SSD emulation, releasing " ++ toString (count drive) ++
      " entries", []⟩

end Drive

end FlashStore
