import FlashStore.Proofs.CallLayers
import FlashStore.Proofs.RowCalls

/-!
The codes that emulated drives fail with. A device call fails because its request is refused, or else
because its key is there when it must not be or is not when it must; which codes that can be depends
on the operation, and every one of them is met on some drive. Rows are keyed and written by whole byte
strings without an offset, so the row calls and what is built on them meet fewer.
-/

namespace FlashStore.DriveCodes
open CallLayers CallRuns DriveCalls RequestChecks RowCalls

inductive Operation where
  | read
  | insert
  | update
  | delete
  deriving DecidableEq, Repr

namespace Operation

def codes : Operation → List ResultCode
  | .read | .delete => [.keyLengthInvalid, .paramInvalid, .keyNotExist]
  | .insert =>
    [.keyLengthInvalid, .paramInvalid, .valueLengthInvalid, .valueOffsetMisaligned,
      .keyAlreadyExists]
  | .update =>
    [.keyLengthInvalid, .paramInvalid, .valueLengthInvalid, .valueOffsetMisaligned, .keyNotExist]

def ask (operation : Operation) (key : KeyRef) (value : ValueRef) : DeviceCall :=
  match operation with
  | .read => .read key
  | .insert => .insert key value
  | .update => .update key value
  | .delete => .delete key

def ofDevice : DeviceCall → Operation
  | .read _ => .read
  | .insert _ _ => .insert
  | .update _ _ => .update
  | .delete _ => .delete

/-- The operation of a call of any layer. A scan has none: it asks no device. -/
def of? : Call → Option Operation
  | .device call => some (ofDevice call)
  | .row (.read _) | .harness (.read _ _ _) => some .read
  | .row (.insert _ _) | .harness (.insert _ _ _) => some .insert
  | .row (.update _ _) | .harness (.update _ _ _) => some .update
  | .row (.delete _) | .harness (.delete _ _) => some .delete
  | .harness (.scan _ _ _ _) => none

theorem of_under (call : Call) (made : DeviceCall) (under : deviceCall? call = some made) :
    of? call = some (ofDevice made) := by
  cases call with
  | device call =>
      cases under
      rfl
  | row call =>
      cases call with
      | read | delete =>
          cases under
          rfl
      | insert key row | update key row =>
          obtain ⟨blob, _, rfl⟩ := encoded_made row _ made under
          rfl
  | harness call =>
      cases call with
      | scan => cases under
      | read | delete =>
          cases under
          rfl
      | insert table key row | update table key row =>
          obtain ⟨blob, _, rfl⟩ := encoded_made row _ made under
          rfl

theorem emulated_iff (code : ResultCode) :
    code.isEmulated = true ↔ ∃ operation : Operation, code ∈ operation.codes := by
  constructor
  · intro emulated
    cases code with
    | keyAlreadyExists => exact ⟨.insert, by simp [codes]⟩
    | keyLengthInvalid | keyNotExist | paramInvalid | valueLengthInvalid | valueOffsetMisaligned =>
        exact ⟨.update, by simp [codes]⟩
    | _ => cases emulated
  · rintro ⟨operation, listed⟩
    revert code
    cases operation <;> decide
end Operation

-- Refused requests.

theorem key_refusals (key : KeyRef) (code : ResultCode) (refused : key.check = .error code) :
    code = .keyLengthInvalid ∨ code = .paramInvalid := by
  simp only [KeyRef.check] at refused
  split at refused
  · cases refused
    exact .inl rfl
  · split at refused
    · cases refused
      exact .inr rfl
    · cases refused

theorem value_refusals (value : ValueRef) (code : ResultCode)
    (refused : value.check = .error code) :
    code = .valueLengthInvalid ∨ code = .valueOffsetMisaligned ∨ code = .paramInvalid := by
  simp only [ValueRef.check] at refused
  split at refused
  · cases refused
    exact .inl rfl
  · split at refused
    · cases refused
      exact .inr (.inl rfl)
    · split at refused
      · cases refused
        exact .inr (.inr rfl)
      · cases refused

theorem refusal_listed (made : DeviceCall) (code : ResultCode)
    (refused : checkRequest (keyOf made) (valueOf made) = .error code) :
    code ∈ (Operation.ofDevice made).codes := by
  simp only [checkRequest] at refused
  cases keyVerdict : (keyOf made).check with
  | error failure =>
      rw [keyVerdict] at refused
      cases refused
      rcases key_refusals (keyOf made) code keyVerdict with rfl | rfl <;>
        cases made <;> simp [Operation.ofDevice, Operation.codes]
  | ok =>
      rw [keyVerdict] at refused
      cases made with
      | read | delete => cases refused
      | insert key value | update key value =>
          rcases value_refusals value code refused with rfl | rfl | rfl <;>
            simp [Operation.ofDevice, Operation.codes]

/-- A row call asks for whole byte strings: the text of the key and, if it writes, a blob. -/
theorem row_request (call : RowCall) (made : DeviceCall) (under : underRow call = some made) :
    ∃ key, keyOf made = .ofText key ∧
      (valueOf made = none ∨ ∃ blob, valueOf made = some (.ofBytes blob)) := by
  cases call with
  | read key | delete key =>
      cases under
      exact ⟨key, rfl, .inl rfl⟩
  | insert key row | update key row =>
      obtain ⟨blob, _, rfl⟩ := encoded_made row _ made under
      exact ⟨key, rfl, .inr ⟨blob, rfl⟩⟩

theorem row_refusals (call : RowCall) (made : DeviceCall) (under : underRow call = some made)
    (code : ResultCode) (refused : checkRequest (keyOf made) (valueOf made) = .error code) :
    code = .keyLengthInvalid ∨ code = .valueLengthInvalid := by
  obtain ⟨key, named, valued⟩ := row_request call made under
  rcases valued with none | ⟨blob, written⟩
  · rw [named, none, check_row_key] at refused
    split at refused
    · cases refused
    · cases refused
      exact .inl rfl
  · rw [named, written, check_row_write] at refused
    split at refused
    · cases refused
      exact .inl rfl
    · split at refused
      · cases refused
        exact .inr rfl
      · cases refused

-- Answers.

def carried : Answer → Option ResultCode
  | .stored (.error code) | .deviceDone (.error code) => some code
  | .row (.error (.device code)) | .rowDone (.error (.device code)) => some code
  | _ => none

/-- The call that a code can still be seen in. Of a row call's error a harness call leaves a status. -/
def telling : Call → Option Call
  | .harness call => (underHarness call).map .row
  | other => some other

def Produces (drive : Drive) (call : Call) (code : ResultCode) : Prop :=
  ∃ told, telling call = some told ∧ carried (told.run drive).answer = some code

theorem carried_row (answer : Answer) : carried (rowAnswer answer) = carried answer := by
  cases answer with
  | stored answer =>
      cases answer with
      | error code => rfl
      | ok value =>
          simp only [rowAnswer]
          cases Row.decode value.bytes <;> rfl
  | deviceDone answer => cases answer <;> rfl
  | row | rowDone | picked | scanned | harnessDone => rfl

theorem refused_carried (made : DeviceCall) (code : ResultCode) :
    carried (refused made code) = some code := by
  cases made <;> rfl

theorem row_carries (call : RowCall) (drive : Drive) (code : ResultCode)
    (carries : carried (call.run drive).answer = some code) :
    ∃ made, underRow call = some made ∧ carried (made.run drive).answer = some code := by
  cases under : underRow call with
  | none =>
      obtain ⟨failure, unmade⟩ := row_unmade call under
      rw [unmade drive] at carries
      cases carries
  | some made =>
      refine ⟨made, rfl, ?_⟩
      rw [(row_made call made under drive).1, carried_row] at carries
      exact carries

theorem produces_under (drive : Drive) (call : Call) (code : ResultCode)
    (produces : Produces drive call code) :
    ∃ made, deviceCall? call = some made ∧ carried (made.run drive).answer = some code := by
  obtain ⟨told, tells, carries⟩ := produces
  cases call with
  | device call =>
      cases tells
      exact ⟨call, rfl, carries⟩
  | row call =>
      cases tells
      exact row_carries call drive code carries
  | harness call =>
      obtain ⟨row, inner, rfl⟩ := Option.map_eq_some_iff.mp tells
      obtain ⟨made, outer, carries⟩ := row_carries row drive code carries
      refine ⟨made, ?_, carries⟩
      rw [deviceCall?, inner]
      exact outer

/-- The code of a call that passed its check and cannot be served. -/
def unserved : DeviceCall → ResultCode
  | .insert _ _ => .keyAlreadyExists
  | .read _ | .update _ _ | .delete _ => .keyNotExist

theorem device_carries (made : DeviceCall) (drive : Drive) (code : ResultCode)
    (carries : carried (made.run drive).answer = some code) :
    checkRequest (keyOf made) (valueOf made) = .error code ∨ code = unserved made := by
  rw [run_exact] at carries
  cases verdict : checkRequest (keyOf made) (valueOf made) with
  | error failure =>
      rw [verdict] at carries
      left
      rw [Option.some.inj ((refused_carried made failure).symm.trans carries)]
  | ok =>
      rw [verdict] at carries
      right
      cases found : find? drive (content (keyOf made)) <;> cases made <;>
        simp [serve, found, carried, unserved] at carries ⊢ <;> exact carries.symm

theorem device_listed (made : DeviceCall) (drive : Drive) (code : ResultCode)
    (carries : carried (made.run drive).answer = some code) :
    code ∈ (Operation.ofDevice made).codes := by
  rcases device_carries made drive code carries with refused | rfl
  · exact refusal_listed made code refused
  · cases made <;> simp [unserved, Operation.ofDevice, Operation.codes]

-- Runs that meet a code.

theorem ask_operation (operation : Operation) (key : KeyRef) (value : ValueRef) :
    Operation.ofDevice (operation.ask key value) = operation := by
  cases operation <;> rfl

theorem refusal_met (made : DeviceCall) (drive : Drive) (code : ResultCode)
    (refusal : checkRequest (keyOf made) (valueOf made) = .error code) :
    carried (made.run drive).answer = some code := by
  rw [run_exact, refusal]
  exact refused_carried made code

def plainKey : KeyRef := ⟨some [0, 0, 0, 0], 4⟩
def emptyValue : ValueRef := ⟨none, 0, 0, 0⟩

theorem missing_met (opening : Opening) (operation : Operation) (other : operation ≠ .insert) :
    carried ((operation.ask plainKey emptyValue).run opening.drive).answer =
      some .keyNotExist := by
  have looked : checkRequest plainKey none = .ok () := rfl
  have written : checkRequest plainKey (some emptyValue) = .ok () := rfl
  have absent := opening_empty opening (content plainKey)
  rw [run_exact]
  cases operation with
  | insert => exact absurd rfl other
  | read | delete => simp [Operation.ask, keyOf, valueOf, looked, serve, absent, carried]
  | update => simp [Operation.ask, keyOf, valueOf, written, serve, absent, carried]

theorem occupied_met (opening : Opening) :
    carried ((Operation.insert.ask plainKey emptyValue).run
      ((DeviceCall.insert plainKey emptyValue).run opening.drive).state).answer =
      some .keyAlreadyExists := by
  have passed : checkRequest plainKey (some emptyValue) = .ok () := rfl
  have stored : ((DeviceCall.insert plainKey emptyValue).run opening.drive).state =
      put opening.drive (content plainKey) (kept emptyValue) := by
    simp [run_exact, keyOf, valueOf, passed, serve, opening_empty]
  rw [stored, run_exact]
  simp [Operation.ask, keyOf, valueOf, passed, serve, LawfulEntryMap.find?_put, carried]

/-- Every code that an operation can fail with is met behind one call at most. -/
theorem listed_met (opening : Opening) (operation : Operation) (code : ResultCode)
    (listed : code ∈ operation.codes) :
    ∃ calls key value, carried
      ((operation.ask key value).run (leaves Call.run calls opening.drive)).answer = some code := by
  cases code with
  | keyLengthInvalid =>
      refine ⟨[], ⟨none, 0⟩, emptyValue, refusal_met _ _ _ ?_⟩
      cases operation <;> rfl
  | paramInvalid =>
      refine ⟨[], ⟨none, 4⟩, emptyValue, refusal_met _ _ _ ?_⟩
      cases operation <;> rfl
  | valueLengthInvalid =>
      refine ⟨[], plainKey, ⟨none, 2097153, 0, 0⟩, refusal_met _ _ _ ?_⟩
      cases operation with
      | insert | update => rfl
      | read | delete => simp [Operation.codes] at listed
  | valueOffsetMisaligned =>
      refine ⟨[], plainKey, ⟨none, 0, 0, 1⟩, refusal_met _ _ _ ?_⟩
      cases operation with
      | insert | update => rfl
      | read | delete => simp [Operation.codes] at listed
  | keyNotExist =>
      refine ⟨[], plainKey, emptyValue, missing_met opening operation ?_⟩
      rintro rfl
      simp [Operation.codes] at listed
  | keyAlreadyExists =>
      refine ⟨[.device (.insert plainKey emptyValue)], plainKey, emptyValue, ?_⟩
      cases operation with
      | insert => exact occupied_met opening
      | read | update | delete => simp [Operation.codes] at listed
  | _ => cases operation <;> simp [Operation.codes] at listed

structure Permitted (call : Call) (code : ResultCode) : Prop where
  looked : Operation.of? call = some .read ∨ Operation.of? call = some .delete →
    code = .keyLengthInvalid ∨ code = .paramInvalid ∨ code = .keyNotExist
  inserted : Operation.of? call = some .insert → code ≠ .keyNotExist
  updated : Operation.of? call = some .update → code ≠ .keyAlreadyExists
  upper : (∀ made, call ≠ .device made) → code ≠ .paramInvalid ∧ code ≠ .valueOffsetMisaligned

theorem produced_listed (drive : Drive) (call : Call) (code : ResultCode)
    (produces : Produces drive call code) :
    ∃ operation, Operation.of? call = some operation ∧ code ∈ operation.codes := by
  obtain ⟨made, under, carries⟩ := produces_under drive call code produces
  exact ⟨_, Operation.of_under call made under, device_listed made drive code carries⟩

theorem upper_codes (drive : Drive) (call : Call) (code : ResultCode)
    (produces : Produces drive call code) (upper : ∀ made, call ≠ .device made) :
    code ≠ .paramInvalid ∧ code ≠ .valueOffsetMisaligned := by
  obtain ⟨made, under, carries⟩ := produces_under drive call code produces
  have rowUnder : ∃ row, underRow row = some made := by
    cases call with
    | device made => exact absurd rfl (upper made)
    | row call => exact ⟨call, under⟩
    | harness call =>
        obtain ⟨row, _, outer⟩ := Option.bind_eq_some_iff.mp under
        exact ⟨row, outer⟩
  obtain ⟨row, outer⟩ := rowUnder
  rcases device_carries made drive code carries with refused | rfl
  · rcases row_refusals row made outer code refused with rfl | rfl <;> simp
  · cases made <;> simp [unserved]

theorem produced_permitted (drive : Drive) (call : Call) (code : ResultCode)
    (produces : Produces drive call code) : Permitted call code := by
  obtain ⟨operation, asked, listed⟩ := produced_listed drive call code produces
  constructor
  case looked =>
    rintro (look | look) <;> cases asked.symm.trans look <;>
      simpa [Operation.codes] using listed
  case inserted =>
    intro insert same
    subst same
    cases asked.symm.trans insert
    simp [Operation.codes] at listed
  case updated =>
    intro update same
    subst same
    cases asked.symm.trans update
    simp [Operation.codes] at listed
  case upper => exact upper_codes drive call code produces

/-- On a drive of either backend, the codes that runs of calls of any layer produce are those that the
table marks as emulated, and each device operation produces exactly its own. -/
theorem codes_closed (opening : Opening) :
    (∀ code : ResultCode, code.isEmulated = true ↔
      ∃ calls call, Produces (leaves Call.run calls opening.drive) call code) ∧
    (∀ (operation : Operation) (code : ResultCode), code ∈ operation.codes ↔
      ∃ calls made, Operation.ofDevice made = operation ∧
        Produces (leaves Call.run calls opening.drive) (.device made) code) ∧
    ∀ calls call code, Produces (leaves Call.run calls opening.drive) call code →
      Permitted call code := by
  have met (operation : Operation) (code : ResultCode) (listed : code ∈ operation.codes) :
      ∃ calls made, Operation.ofDevice made = operation ∧
        Produces (leaves Call.run calls opening.drive) (.device made) code := by
    obtain ⟨calls, key, value, carries⟩ := listed_met opening operation code listed
    exact ⟨calls, _, ask_operation operation key value, _, rfl, carries⟩
  refine ⟨?_, ?_, fun calls call code => produced_permitted _ call code⟩
  · intro code
    rw [Operation.emulated_iff]
    constructor
    · rintro ⟨operation, listed⟩
      obtain ⟨calls, made, _, produces⟩ := met operation code listed
      exact ⟨calls, .device made, produces⟩
    · rintro ⟨calls, call, produces⟩
      obtain ⟨operation, _, listed⟩ := produced_listed _ call code produces
      exact ⟨operation, listed⟩
  · intro operation code
    constructor
    · exact met operation code
    · rintro ⟨calls, made, rfl, told, tells, carries⟩
      cases tells
      exact device_listed made _ code carries

end FlashStore.DriveCodes
