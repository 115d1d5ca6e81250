import FlashStore.Device

/-!
A device behind a schedule of faults. Its reads, inserts, updates and deletes are counted from zero.
A call whose number is scheduled is answered by the schedule's first entry for it, and the device
behind never sees it; every other call passes through. Counting entries is never faulted.
-/

namespace FlashStore

/-- What a faulted call answers: a failure, or a success that never happened, in which a read finds
`bytes`. -/
inductive Fault where
  | fail (failure : ResultCode)
  | pretend (bytes : Bytes)
  deriving DecidableEq, Repr

structure FaultSchedule (σ : Type) where
  device : σ
  faults : List (Nat × Fault) := []
  calls : Nat := 0

namespace FaultSchedule

variable {σ α : Type}

def call (schedule : FaultSchedule σ) (pretended : Bytes → α)
    (pass : σ → Reply σ (Except ResultCode α)) :
    Reply (FaultSchedule σ) (Except ResultCode α) :=
  let counted := { schedule with calls := schedule.calls + 1 }
  match schedule.faults.lookup schedule.calls with
  | some (.fail failure) => ⟨.error failure, [], counted⟩
  | some (.pretend bytes) => ⟨.ok (pretended bytes), [], counted⟩
  | none =>
    let reply := pass schedule.device
    ⟨reply.answer, reply.events, { counted with device := reply.state }⟩

instance [Device σ] : Device (FaultSchedule σ) where
  read schedule key :=
    schedule.call (fun bytes => ⟨bytes, saturatedLength bytes, 0⟩) fun device =>
      Device.read device key
  insert schedule key value :=
    schedule.call (fun _ => ()) fun device => Device.insert device key value
  update schedule key value :=
    schedule.call (fun _ => ()) fun device => Device.update device key value
  delete schedule key :=
    schedule.call (fun _ => ()) fun device => Device.delete device key
  count schedule := Device.count schedule.device

end FaultSchedule

end FlashStore
