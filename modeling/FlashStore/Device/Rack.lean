import FlashStore.Device

/-!
Several devices side by side. A call goes to one of them by its place; a copy reads a value from one
and writes it, under the same key, to another, which may be the same one.
-/

namespace FlashStore

abbrev Rack (σ : Type) := Array σ

namespace Rack

variable {σ α : Type}

def call? (rack : Rack σ) (place : Nat) (request : σ → Reply σ α) : Option (Reply (Rack σ) α) :=
  if h : place < rack.size then
    let reply := request rack[place]
    some ⟨reply.answer, reply.events, rack.set place reply.state⟩
  else
    none

inductive Copied where
  | unread (failure : ResultCode)
  | wrote (moved : StoredValue) (answer : Except ResultCode Unit)

def copy? [Device σ] (rack : Rack σ) (mode : Device.WriteMode) (key : KeyRef)
    (source target : Nat) : Option (Reply (Rack σ) Copied) :=
  match rack.call? source fun device => Device.read device key with
  | none => none
  | some ⟨.error failure, events, rack⟩ => some ⟨.unread failure, events, rack⟩
  | some ⟨.ok value, events, rack⟩ =>
    (rack.call? target fun device => Device.write mode device key value.toRef).map fun reply =>
      ⟨.wrote value reply.answer, events ++ reply.events, reply.state⟩

def counts [Device σ] (rack : Rack σ) : List Nat := rack.toList.map Device.count

end Rack

end FlashStore
