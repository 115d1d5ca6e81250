import FlashStore.Entries
import FlashStore.Json.Shape

/-!
Which drive to open: a backend and, for the sharded one, a number of shards.

Settings can be written down that no drive can be opened with; `check` tells them apart. Only the
sharded backend looks at the number, and the physical one is known by name but not built in.

Of a harness's string properties two count, each read without the white space around it; one that is
absent keeps its default. A bad backend is reported before a bad number, with the text as read; a
bad number is reported with its whole text. As JSON, settings are an object with the members
`backend` and `shard_amount`, or a list of the two, and what is left out keeps its default. A
backend is its name, or an object whose one member is the name with the value null.
-/

namespace FlashStore

inductive Backend where
  | singleTable
  | sharded
  | physical
  deriving DecidableEq, Repr, Inhabited

namespace Backend

def all : List Backend := [singleTable, sharded, physical]

def name : Backend → String
  | singleTable => "hashmap"
  | sharded => "sharded"
  | physical => "kvssd"

def ofName? (name : String) : Option Backend :=
  all.find? fun backend => backend.name == name

theorem ofName?_name (backend : Backend) : ofName? backend.name = some backend := by
  cases backend <;> decide

theorem eq_name_of_ofName? {text : String} {backend : Backend} (h : ofName? text = some backend) :
    text = backend.name := by
  have := List.find?_some h
  exact (eq_of_beq this).symm

end Backend

structure Settings where
  backend : Backend := .singleTable
  shardAmount : UInt64 := .ofNat defaultShardAmount
  deriving DecidableEq, Repr, Inhabited

inductive SettingsError where
  | badProperty (property value : String)
  | unsupportedBackend (backend : Backend)
  | shardAmountNotPowerOfTwo (amount : UInt64)
  | shardAmountTooLarge (amount : UInt64)
  deriving DecidableEq, Repr

def backendProperty : String := "kvssd.backend"
def shardAmountProperty : String := "kvssd.shard_amount"

namespace SettingsError

def message : SettingsError → String
  | badProperty property value => "Invalid value '" ++ value ++ "' for property " ++ property
  | unsupportedBackend backend =>
    "Backend '" ++ backend.name ++ "' is not supported by this build"
  | shardAmountNotPowerOfTwo amount =>
    "Invalid configuration: shard_amount must be a power of two greater than 1, got " ++
      toString amount.toNat
  | shardAmountTooLarge amount =>
    "Invalid configuration: shard_amount must be at most " ++ toString maxShardAmount ++ ", got " ++
      toString amount.toNat

end SettingsError

namespace Settings

def isPowerOfTwo (n : Nat) : Bool := 1 <<< n.log2 == n

def check (settings : Settings) : Except SettingsError Unit :=
  match settings.backend with
  | .singleTable => .ok ()
  | .sharded =>
    let amount := settings.shardAmount
    if amount.toNat < 2 ∨ ¬ isPowerOfTwo amount.toNat then
      .error (.shardAmountNotPowerOfTwo amount)
    else if maxShardAmount < amount.toNat then
      .error (.shardAmountTooLarge amount)
    else
      .ok ()
  | .physical => .error (.unsupportedBackend settings.backend)

end Settings

/-! Properties -/

abbrev Properties := List (String × String)

namespace Settings

def backendOfProperty (text : String) : Except SettingsError Backend :=
  let name := String.ofList (Text.trim text.toList)
  match Backend.ofName? name with
  | some backend => .ok backend
  | none => .error (.badProperty backendProperty name)

def shardAmountOfProperty (text : String) : Except SettingsError UInt64 :=
  match Text.readNatural (Text.trim text.toList) with
  | .ok amount => .ok (UInt64.ofNat amount)
  | .error _ => .error (.badProperty shardAmountProperty text)

def ofProperties (properties : Properties) : Except SettingsError Settings := do
  let standard : Settings := {}
  let backend ← match properties.lookup backendProperty with
    | none => .ok standard.backend
    | some text => backendOfProperty text
  let shardAmount ← match properties.lookup shardAmountProperty with
    | none => .ok standard.shardAmount
    | some text => shardAmountOfProperty text
  return { backend, shardAmount }

end Settings

end FlashStore

/-! JSON -/

namespace FlashStore.Settings

open Json (Reader ReadError Mismatch)

def backendOfName (name : String) : Except ReadError Backend :=
  match Backend.ofName? name with
  | some backend => .ok backend
  | none => .error (.mismatch (.unknownVariant name (Backend.all.map Backend.name)))

def readNull (cs : List Char) : Except ReadError (List Char) :=
  match Json.skipBlank cs with
  | [] => .error .ended
  | 'n' :: rest => Json.skipWord "ull".toList rest
  | other => .error (Json.wrongType "unit" other)

def closeObject (cs : List Char) : Except ReadError (List Char) :=
  match Json.skipBlank cs with
  | [] => .error .ended
  | '}' :: rest => .ok rest
  | _ => .error .malformed

def readName (cs : List Char) : Except ReadError (String × List Char) :=
  match Json.skipBlank cs with
  | [] => .error .ended
  | '"' :: rest => Json.readText rest
  | _ => .error .malformed

def readBackend : Reader Backend := fun cs =>
  match Json.skipBlank cs with
  | [] => .error .ended
  | '"' :: rest => do
    let (name, rest) ← Json.readText rest
    return (← backendOfName name, rest)
  | '{' :: rest => do
    let (name, rest) ← readName rest
    let backend ← backendOfName name
    let rest ← Json.readColon rest
    let rest ← readNull rest
    return (backend, ← closeObject rest)
  | _ => .error .malformed

def ofMembers (backend : Option Backend) (shardAmount : Option UInt64) : Settings :=
  let standard : Settings := {}
  ⟨backend.getD standard.backend, shardAmount.getD standard.shardAmount⟩

def shape : Json.Shape Backend UInt64 Settings where
  expected := "struct KvssdConfig"
  first := "backend"
  second := "shard_amount"
  readFirst := readBackend
  readSecond := Json.readNatural "usize"
  ofObject backend shardAmount := .ok (ofMembers backend shardAmount)
  ofList backend shardAmount := .ok (ofMembers backend shardAmount)

def ofJson (text : String) : Except ReadError Settings := Json.readAll shape.read text

def toJson (settings : Settings) : String :=
  Json.writtenPair shape.first shape.second (Json.writtenText settings.backend.name)
    (Nat.toDigits 10 settings.shardAmount.toNat)

end FlashStore.Settings
