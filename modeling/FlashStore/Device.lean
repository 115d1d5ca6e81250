import FlashStore.Entries

/-!
A key-value device: any state that answers reads, inserts, updates and deletes and says how many
entries it holds. A call gives a reply: the answer, the events it logged and the state it leaves.
Nothing is assumed of a device here. Rows, harness calls and smoke runs are written for all of them,
those that misbehave included.

The emulated device has the rules of a key-value drive, over any map of entries. A request is
checked before the entries are looked at. After that only presence counts: an insert needs the key
absent, every other call needs it present. Reads and deletes are logged with whether they hit,
inserts and updates only when they succeed.
-/

namespace FlashStore

structure Reply (σ α : Type) where
  answer : α
  events : List Event
  state : σ

namespace Reply

def map {σ α β : Type} (f : α → β) (reply : Reply σ α) : Reply σ β :=
  { reply with answer := f reply.answer }

end Reply

class Device (σ : Type) where
  read : σ → KeyRef → Reply σ (Except ResultCode StoredValue)
  insert : σ → KeyRef → ValueRef → Reply σ (Except ResultCode Unit)
  update : σ → KeyRef → ValueRef → Reply σ (Except ResultCode Unit)
  delete : σ → KeyRef → Reply σ (Except ResultCode Unit)
  count : σ → Nat

namespace Device

def isEmpty {σ : Type} [Device σ] (device : σ) : Bool := count device == 0

inductive WriteMode where
  | insert
  | update
  deriving DecidableEq, Repr

def write {σ : Type} [Device σ] (mode : WriteMode) (device : σ) (key : KeyRef) (value : ValueRef) :
    Reply σ (Except ResultCode Unit) :=
  match mode with
  | .insert => insert device key value
  | .update => update device key value

end Device

end FlashStore

/-! The emulated device -/

namespace FlashStore.Emulated

variable {τ : Type} [EntryMap τ]

def event (entries : τ) (message : String) (fields : List (String × EventValue)) : Event :=
  ⟨.trace, EntryMap.source entries, message, fields⟩

def keyLength (key : Bytes) : String × EventValue := ("key_len", .number key.length)

def hit (found : Option StoredValue) : String × EventValue := ("hit", .flag found.isSome)

def read (entries : τ) (key : KeyRef) : Reply τ (Except ResultCode StoredValue) :=
  match acceptKey key with
  | .error failure => ⟨.error failure, [], entries⟩
  | .ok key =>
    let found := find? entries key
    let events := [event entries "read" [keyLength key, hit found]]
    match found with
    | none => ⟨.error .keyNotExist, events, entries⟩
    | some value => ⟨.ok value, events, entries⟩

def insert (entries : τ) (key : KeyRef) (value : ValueRef) : Reply τ (Except ResultCode Unit) :=
  match acceptWrite key value with
  | .error failure => ⟨.error failure, [], entries⟩
  | .ok (key, value) =>
    match find? entries key with
    | some _ => ⟨.error .keyAlreadyExists, [], entries⟩
    | none =>
      match add? entries key value with
      | none => ⟨.error .keyAlreadyExists, [], entries⟩
      | some added => ⟨.ok (), [event entries "insert" [keyLength key]], added⟩

def update (entries : τ) (key : KeyRef) (value : ValueRef) : Reply τ (Except ResultCode Unit) :=
  match acceptWrite key value with
  | .error failure => ⟨.error failure, [], entries⟩
  | .ok (key, value) =>
    match find? entries key with
    | none => ⟨.error .keyNotExist, [], entries⟩
    | some _ => ⟨.ok (), [event entries "update" [keyLength key]], put entries key value⟩

def delete (entries : τ) (key : KeyRef) : Reply τ (Except ResultCode Unit) :=
  match acceptKey key with
  | .error failure => ⟨.error failure, [], entries⟩
  | .ok key =>
    let found := find? entries key
    let events := [event entries "delete" [keyLength key, hit found]]
    match found with
    | none => ⟨.error .keyNotExist, events, entries⟩
    | some _ => ⟨.ok (), events, erase entries key⟩

instance : Device τ where
  read := read
  insert := insert
  update := update
  delete := delete
  count := count

end FlashStore.Emulated
