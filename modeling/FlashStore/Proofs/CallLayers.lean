import FlashStore.Proofs.DriveCalls

/-!
Calls of all three layers. A row call makes one device call, unless its row cannot be encoded; a
harness call makes that of the row call under it, and a scan makes none. Whatever the device is, the
call leaves the state that its device call leaves, and its answer is a function of the device call's
answer. What holds of device calls is therefore lifted to all calls here, once.

The answer and the events of a device call depend on the entry of its own key content alone, no
other entry changes, and the count moves with the presence of that one content. Drives that agree on
the content therefore serve the call alike, whatever their backends and whatever else they hold.

Each layer logs behind what the layer under it logs: a row call at most a trace of its own, a
harness call one warning if its row call failed. The source of an event tells the layers apart, and
on an emulated drive the harness is the only one that warns.
-/

namespace FlashStore.CallLayers

def underRow : RowCall → Option DeviceCall
  | .read key => some (.read (.ofText key))
  | .insert key row => row.encode.toOption.map fun blob => .insert (.ofText key) (.ofBytes blob)
  | .update key row => row.encode.toOption.map fun blob => .update (.ofText key) (.ofBytes blob)
  | .delete key => some (.delete (.ofText key))

def underHarness : HarnessCall → Option RowCall
  | .read _ key _ => some (.read key)
  | .scan _ _ _ _ => none
  | .insert _ key row => some (.insert key row)
  | .update _ key row => some (.update key row)
  | .delete _ key => some (.delete key)

def deviceCall? : Call → Option DeviceCall
  | .device call => some call
  | .row call => underRow call
  | .harness call => (underHarness call).bind underRow

def rowAnswer : Answer → Answer
  | .stored (.ok value) => .row ((Row.decode value.bytes).mapError .blob)
  | .stored (.error failure) => .row (.error (.device failure))
  | .deviceDone (.ok ()) => .rowDone (.ok ())
  | .deviceDone (.error failure) => .rowDone (.error (.device failure))
  | other => other

def wanted (call : HarnessCall) (row : Row) : Row :=
  match call with
  | .read _ _ (some names) => row.pick names
  | _ => row

def harnessAnswer (call : HarnessCall) : Answer → Answer
  | .row (.ok row) => .picked (.ok (wanted call row))
  | .row (.error failure) => .picked (.error (.ofRowError failure))
  | .rowDone (.ok ()) => .harnessDone (.ok ())
  | .rowDone (.error failure) => .harnessDone (.error (.ofRowError failure))
  | other => other

def answerOf : Call → Answer → Answer
  | .device _, answer => answer
  | .row _, answer => rowAnswer answer
  | .harness call, answer => harnessAnswer call (rowAnswer answer)

/-- Why a call failed, in the words of its layer. -/
inductive Failure where
  | code (failure : ResultCode)
  | cause (failure : RowError)
  | status (status : Status)
  deriving DecidableEq, Repr

def failure? : Answer → Option Failure
  | .stored (.error failure) | .deviceDone (.error failure) => some (.code failure)
  | .row (.error cause) | .rowDone (.error cause) => some (.cause cause)
  | .picked (.error status) | .scanned (.error status) | .harnessDone (.error status) =>
      some (.status status)
  | _ => none

theorem encoded_made (row : Row) (call : Bytes → DeviceCall) (made : DeviceCall)
    (under : row.encode.toOption.map call = some made) :
    ∃ blob, row.encode = .ok blob ∧ call blob = made := by
  cases encoded : row.encode with
  | error failure => simp [encoded, Except.toOption] at under
  | ok blob => simpa [encoded, Except.toOption] using under

theorem refused_unmade (row : Row) (call : Bytes → DeviceCall)
    (under : row.encode.toOption.map call = none) : ∃ failure, row.encode = .error failure := by
  cases encoded : row.encode with
  | error failure => exact ⟨failure, rfl⟩
  | ok blob => simp [encoded, Except.toOption] at under

section Layers
variable {σ : Type} [Device σ]

theorem read_made (key : String) (store : σ) :
    (RowCall.run (.read key) store).answer =
        rowAnswer (DeviceCall.run (.read (.ofText key)) store).answer ∧
      (RowCall.run (.read key) store).state =
        (DeviceCall.run (.read (.ofText key)) store).state := by
  simp only [RowCall.run, RowStore.read, DeviceCall.run]
  rcases Device.read store (.ofText key) with ⟨answer, events, next⟩
  cases answer with
  | error failure => exact ⟨rfl, rfl⟩
  | ok value =>
      simp only [Reply.map, rowAnswer]
      cases Row.decode value.bytes <;> exact ⟨rfl, rfl⟩

theorem delete_made (key : String) (store : σ) :
    (RowCall.run (.delete key) store).answer =
        rowAnswer (DeviceCall.run (.delete (.ofText key)) store).answer ∧
      (RowCall.run (.delete key) store).state =
        (DeviceCall.run (.delete (.ofText key)) store).state := by
  simp only [RowCall.run, RowStore.delete, DeviceCall.run]
  rcases Device.delete store (.ofText key) with ⟨answer, events, next⟩
  cases answer <;> exact ⟨rfl, rfl⟩

theorem write_made (mode : Device.WriteMode) (key : String) (row : Row) (blob : Bytes)
    (encoded : row.encode = .ok blob) (store : σ) :
    ((RowStore.write mode store key row).map Answer.rowDone).answer =
        rowAnswer ((Device.write mode store (.ofText key) (.ofBytes blob)).map
          Answer.deviceDone).answer ∧
      (RowStore.write mode store key row).state =
        (Device.write mode store (.ofText key) (.ofBytes blob)).state := by
  simp only [RowStore.write, encoded]
  rcases Device.write mode store (.ofText key) (.ofBytes blob) with ⟨answer, events, next⟩
  cases answer <;> exact ⟨rfl, rfl⟩

theorem row_made (call : RowCall) (made : DeviceCall) (under : underRow call = some made)
    (store : σ) :
    (call.run store).answer = rowAnswer (made.run store).answer ∧
      (call.run store).state = (made.run store).state := by
  cases call with
  | read key =>
      cases under
      exact read_made key store
  | insert key row =>
      obtain ⟨blob, encoded, rfl⟩ := encoded_made row _ made under
      exact write_made .insert key row blob encoded store
  | update key row =>
      obtain ⟨blob, encoded, rfl⟩ := encoded_made row _ made under
      exact write_made .update key row blob encoded store
  | delete key =>
      cases under
      exact delete_made key store

theorem harness_made (call : HarnessCall) (row : RowCall) (under : underHarness call = some row)
    (store : σ) :
    (call.run store).answer = harnessAnswer call (row.run store).answer ∧
      (call.run store).state = (row.run store).state := by
  cases call with
  | scan => cases under
  | read table key names =>
      cases under
      simp only [HarnessCall.run, Harness.read, RowCall.run]
      rcases RowStore.read store key with ⟨answer, events, next⟩
      cases answer with
      | error failure => exact ⟨rfl, rfl⟩
      | ok row => cases names <;> exact ⟨rfl, rfl⟩
  | insert table key row =>
      cases under
      simp only [HarnessCall.run, Harness.insert, RowCall.run]
      rcases RowStore.insert store key row with ⟨answer, events, next⟩
      cases answer <;> exact ⟨rfl, rfl⟩
  | update table key row =>
      cases under
      simp only [HarnessCall.run, Harness.update, RowCall.run]
      rcases RowStore.update store key row with ⟨answer, events, next⟩
      cases answer <;> exact ⟨rfl, rfl⟩
  | delete table key =>
      cases under
      simp only [HarnessCall.run, Harness.delete, RowCall.run]
      rcases RowStore.delete store key with ⟨answer, events, next⟩
      cases answer <;> exact ⟨rfl, rfl⟩

/-- A call that makes a device call sees and changes the store through it alone. -/
theorem call_made (call : Call) (made : DeviceCall) (under : deviceCall? call = some made)
    (store : σ) :
    (call.run store).answer = answerOf call (made.run store).answer ∧
      (call.run store).state = (made.run store).state := by
  cases call with
  | device call =>
      cases under
      exact ⟨rfl, rfl⟩
  | row call => exact row_made call made under store
  | harness call =>
      obtain ⟨row, inner, outer⟩ := Option.bind_eq_some_iff.mp under
      obtain ⟨rowAnswered, rowState⟩ := row_made row made outer store
      obtain ⟨answered, state⟩ := harness_made call row inner store
      rw [rowAnswered] at answered
      exact ⟨answered, state.trans rowState⟩

theorem write_unmade (mode : Device.WriteMode) (key : String) (row : Row) (failure : BlobError)
    (refused : row.encode = .error failure) (store : σ) :
    RowStore.write mode store key row = ⟨.error (.blob failure), [], store⟩ := by
  simp only [RowStore.write, refused]
end Layers

theorem row_unmade (call : RowCall) (under : underRow call = none) :
    ∃ failure, ∀ {σ : Type} [Device σ] (store : σ),
      call.run store = ⟨.rowDone (.error (.blob failure)), [], store⟩ := by
  cases call with
  | read key | delete key => cases under
  | insert key row =>
      obtain ⟨failure, refused⟩ := refused_unmade row _ under
      refine ⟨failure, fun store => ?_⟩
      simp only [RowCall.run, RowStore.insert, write_unmade .insert key row failure refused store,
        Reply.map]
  | update key row =>
      obtain ⟨failure, refused⟩ := refused_unmade row _ under
      refine ⟨failure, fun store => ?_⟩
      simp only [RowCall.run, RowStore.update, write_unmade .update key row failure refused store,
        Reply.map]

/-- A call that makes no device call fails with one answer, whatever the store. -/
theorem call_unmade (call : Call) (under : deviceCall? call = none) :
    ∃ answer failure, failure? answer = some failure ∧ ∀ {σ : Type} [Device σ] (store : σ),
      (call.run store).answer = answer ∧ (call.run store).state = store := by
  cases call with
  | device call => cases under
  | row call =>
      obtain ⟨failure, unmade⟩ := row_unmade call under
      refine ⟨.rowDone (.error (.blob failure)), .cause (.blob failure), rfl, fun store => ?_⟩
      rw [Call.run, unmade store]
      exact ⟨rfl, rfl⟩
  | harness call =>
      cases inner : underHarness call with
      | none =>
          cases call with
          | scan =>
              exact ⟨.scanned (.error .notImplemented), .status .notImplemented, rfl,
                fun store => ⟨rfl, rfl⟩⟩
          | read | insert | update | delete => cases inner
      | some row =>
          have outer : underRow row = none := by simpa [deviceCall?, inner] using under
          obtain ⟨failure, unmade⟩ := row_unmade row outer
          refine ⟨harnessAnswer call (.rowDone (.error (.blob failure))),
            .status (.ofRowError (.blob failure)), rfl, fun store => ?_⟩
          obtain ⟨answered, state⟩ := harness_made call row inner store
          rw [unmade store] at answered state
          exact ⟨answered, state⟩

end FlashStore.CallLayers

/-! What a call sees and what it moves -/

namespace FlashStore.CallLocality
open CallLayers DriveCalls RequestChecks

/-- The key content that a call reaches: none if its key is refused. -/
def reached (call : DeviceCall) : Option Bytes := (acceptKey (keyOf call)).toOption

theorem reached_served (call : DeviceCall)
    (passed : checkRequest (keyOf call) (valueOf call) = .ok ()) :
    reached call = some (content (keyOf call)) := by
  obtain ⟨keyPassed, _⟩ := (request_passed_iff _ _).mp passed
  simp [reached, accept_key_exact, checkRequest, keyPassed, Except.map, Except.toOption]

theorem reached_content (call : DeviceCall) (key : Bytes) (reaches : reached call = some key) :
    key = content (keyOf call) := by
  simp only [reached, accept_key_exact] at reaches
  cases passed : checkRequest (keyOf call) none with
  | error failure => simp [passed, Except.map, Except.toOption] at reaches
  | ok => simpa [passed, Except.map, Except.toOption, eq_comm] using reaches

/-- What an event tells, apart from the part of the system that logs it. -/
def shown (event : Event) : Level × String × List (String × EventValue) :=
  (event.level, event.message, event.fields)

section Pair
variable {τ υ : Type} [EntryMap τ] [EntryMap υ]

theorem serve_same (call : DeviceCall) (entries : τ) (others : υ)
    (same : find? entries (content (keyOf call)) = find? others (content (keyOf call))) :
    (serve entries call).answer = (serve others call).answer ∧
      (serve entries call).events.map shown = (serve others call).events.map shown := by
  cases found : find? others (content (keyOf call)) <;> rw [found] at same <;> cases call <;>
    simp [serve, same, found, logged, shown, Emulated.event]

variable [LawfulEntryMap τ] [LawfulEntryMap υ]

theorem run_same (call : DeviceCall) (entries : τ) (others : υ)
    (same : ∀ key, reached call = some key → find? entries key = find? others key) :
    (call.run entries).answer = (call.run others).answer ∧
      (call.run entries).events.map shown = (call.run others).events.map shown := by
  rw [run_exact, run_exact]
  cases passed : checkRequest (keyOf call) (valueOf call) with
  | error failure => exact ⟨rfl, rfl⟩
  | ok => exact serve_same call entries others (same _ (reached_served call passed))

theorem run_entry_same (call : DeviceCall) (entries : τ) (others : υ)
    (same : ∀ key, reached call = some key → find? entries key = find? others key)
    (key : Bytes) (before : find? entries key = find? others key) :
    find? (call.run entries).state key = find? (call.run others).state key := by
  rw [run_entry, run_entry, (run_same call entries others same).1, before]
end Pair

section Single
variable {τ : Type} [EntryMap τ] [LawfulEntryMap τ]

theorem run_unreached (call : DeviceCall) (entries : τ) (unreached : reached call = none) :
    (call.run entries).state = entries := by
  rw [run_exact]
  cases passed : checkRequest (keyOf call) (valueOf call) with
  | error failure => rfl
  | ok => cases unreached.symm.trans (reached_served call passed)

theorem run_frame (call : DeviceCall) (entries : τ) (key : Bytes)
    (apart : reached call ≠ some key) :
    find? (call.run entries).state key = find? entries key := by
  rw [run_exact]
  cases passed : checkRequest (keyOf call) (valueOf call) with
  | error failure => rfl
  | ok =>
      have elsewhere : content (keyOf call) ≠ key := by
        intro here
        apply apart
        rw [reached_served call passed, here]
      simp [serve_entry, elsewhere]

def occupied (entries : τ) (key : Bytes) : Nat := if (find? entries key).isSome then 1 else 0

theorem serve_count (call : DeviceCall) (entries : τ) :
    count (serve entries call).state + occupied entries (content (keyOf call)) =
      count entries + occupied (serve entries call).state (content (keyOf call)) := by
  cases found : find? entries (content (keyOf call)) with
  | none =>
      cases call <;> simp [serve, occupied, found, LawfulEntryMap.find?_put, LawfulEntryMap.count_put]
  | some value =>
      -- A delete takes one of the counted entries, so there is one to take.
      have positive : 0 < count entries :=
        LawfulEntryMap.count_pos entries (content (keyOf call)) (by simp [found])
      cases call <;>
        simp [serve, occupied, found, LawfulEntryMap.find?_put, LawfulEntryMap.find?_erase,
          LawfulEntryMap.count_put, LawfulEntryMap.count_erase, Nat.sub_add_cancel positive]

theorem run_count (call : DeviceCall) (entries : τ) :
    count (call.run entries).state + occupied entries (content (keyOf call)) =
      count entries + occupied (call.run entries).state (content (keyOf call)) := by
  rw [run_exact]
  cases checkRequest (keyOf call) (valueOf call) with
  | error failure => rfl
  | ok => exact serve_count call entries
end Single

theorem run_count_same {τ υ : Type} [EntryMap τ] [EntryMap υ] [LawfulEntryMap τ]
    [LawfulEntryMap υ] (call : DeviceCall) (entries : τ) (others : υ)
    (same : ∀ key, reached call = some key → find? entries key = find? others key) :
    count (call.run entries).state + count others =
      count entries + count (call.run others).state := by
  cases reaches : reached call with
  | none => rw [run_unreached call entries reaches, run_unreached call others reaches]
  | some key =>
      have before := same key reaches
      have after := run_entry_same call entries others same key before
      have moved := run_count call entries
      have otherMoved := run_count call others
      rw [← reached_content call key reaches] at moved otherMoved
      -- The content is occupied in both drives or in neither, before the call and after it.
      simp only [occupied, before, after] at moved otherMoved
      omega

/-- The key content that a call of any layer reaches, if it reaches one. -/
def touched (call : Call) : Option Bytes := (deviceCall? call).bind reached

theorem touched_made (call : Call) (made : DeviceCall) (under : deviceCall? call = some made) :
    touched call = reached made := by
  rw [touched, under, Option.bind_some]

section Calls
variable {τ υ : Type} [EntryMap τ] [EntryMap υ] (call : Call) (entries : τ) (others : υ)

/-- What device calls leave of two stores is lifted to the calls that make them. A call that makes
none leaves both as they are. -/
theorem call_leaves (related : τ → υ → Prop) (before : related entries others)
    (moved : ∀ made : DeviceCall, touched call = reached made →
      related (made.run entries).state (made.run others).state) :
    related (call.run entries).state (call.run others).state := by
  cases under : deviceCall? call with
  | none =>
      obtain ⟨_, _, _, unmade⟩ := call_unmade call under
      rw [(unmade entries).2, (unmade others).2]
      exact before
  | some made =>
      rw [(call_made call made under entries).2, (call_made call made under others).2]
      exact moved made (touched_made call made under)

variable [LawfulEntryMap τ] [LawfulEntryMap υ]

theorem call_same
    (same : ∀ key, touched call = some key → find? entries key = find? others key) :
    (call.run entries).answer = (call.run others).answer := by
  cases under : deviceCall? call with
  | none =>
      obtain ⟨_, _, _, unmade⟩ := call_unmade call under
      rw [(unmade entries).1, (unmade others).1]
  | some made =>
      rw [touched_made call made under] at same
      rw [(call_made call made under entries).1, (call_made call made under others).1,
        (run_same made entries others same).1]

theorem call_entry_same
    (same : ∀ key, touched call = some key → find? entries key = find? others key)
    (key : Bytes) (before : find? entries key = find? others key) :
    find? (call.run entries).state key = find? (call.run others).state key := by
  apply call_leaves call entries others (fun left right => find? left key = find? right key) before
  intro made touches
  rw [touches] at same
  exact run_entry_same made entries others same key before

theorem call_frame (key : Bytes) (apart : touched call ≠ some key) :
    find? (call.run entries).state key = find? entries key := by
  apply call_leaves call entries entries (fun left _ => find? left key = find? entries key) rfl
  intro made touches
  rw [touches] at apart
  exact run_frame made entries key apart

theorem call_count_same
    (same : ∀ key, touched call = some key → find? entries key = find? others key) :
    count (call.run entries).state + count others =
      count entries + count (call.run others).state := by
  apply call_leaves call entries others
    (fun left right => count left + count others = count entries + count right) rfl
  intro made touches
  rw [touches] at same
  exact run_count_same made entries others same
end Calls

end FlashStore.CallLocality

/-! What calls log -/

namespace FlashStore.CallEvents
open CallLayers DriveCalls RequestChecks

def cause? : Answer → Option RowError
  | .row (.error cause) | .rowDone (.error cause) => some cause
  | _ => none

def operation : RowCall → String
  | .read _ => "read"
  | .insert _ _ => "insert"
  | .update _ _ => "update"
  | .delete _ => "delete"

def rowKey : RowCall → String
  | .read key | .insert key _ | .update key _ | .delete key => key

def warned (call : RowCall) (answer : Answer) : List Event :=
  match cause? answer with
  | none => []
  | some cause => [Harness.warning (operation call) (rowKey call) cause]

theorem report_events {σ α : Type} (call : RowCall) (told : Except RowError α → Answer)
    (done : ∀ result, cause? (told (.ok result)) = none)
    (failed : ∀ cause, cause? (told (.error cause)) = some cause)
    (reply : Reply σ (Except RowError α)) :
    (Harness.report (operation call) (rowKey call) reply).events =
      reply.events ++ warned call (told reply.answer) := by
  rcases reply with ⟨answer, events, next⟩
  cases answer with
  | ok result => simp [Harness.report, warned, done]
  | error cause => simp [Harness.report, warned, failed]

section Layers
variable {σ : Type} [Device σ]

def RowNote (event : Event) : Prop := event.level = .trace ∧ event.source = .rows

theorem row_note (message key : String) (fields : List (String × EventValue)) :
    ∀ event ∈ [RowStore.event message key fields], RowNote event := by
  intro event member
  cases List.mem_singleton.mp member
  exact ⟨rfl, rfl⟩

theorem read_events (key : String) (store : σ) :
    ∃ notes, (RowStore.read store key).events = (Device.read store (.ofText key)).events ++ notes ∧
      ∀ event ∈ notes, RowNote event := by
  simp only [RowStore.read]
  rcases Device.read store (.ofText key) with ⟨answer, events, next⟩
  cases answer with
  | error failure => exact ⟨[], by simp, by simp⟩
  | ok value =>
      cases decoded : Row.decode value.bytes with
      | error failure => exact ⟨[], by simp [decoded], by simp⟩
      | ok row => exact ⟨_, by simp only [decoded]; rfl, row_note _ _ _⟩

theorem write_events (mode : Device.WriteMode) (key : String) (row : Row) (blob : Bytes)
    (encoded : row.encode = .ok blob) (store : σ) :
    ∃ notes, (RowStore.write mode store key row).events =
        (Device.write mode store (.ofText key) (.ofBytes blob)).events ++ notes ∧
      ∀ event ∈ notes, RowNote event := by
  simp only [RowStore.write, encoded]
  rcases Device.write mode store (.ofText key) (.ofBytes blob) with ⟨answer, events, next⟩
  cases answer with
  | error failure => exact ⟨[], by simp, by simp⟩
  | ok => exact ⟨_, rfl, row_note _ _ _⟩

theorem delete_events (key : String) (store : σ) :
    ∃ notes, (RowStore.delete store key).events =
        (Device.delete store (.ofText key)).events ++ notes ∧
      ∀ event ∈ notes, RowNote event := by
  simp only [RowStore.delete]
  rcases Device.delete store (.ofText key) with ⟨answer, events, next⟩
  cases answer with
  | error failure => exact ⟨[], by simp, by simp⟩
  | ok => exact ⟨_, rfl, row_note _ _ _⟩

theorem row_events (call : RowCall) (made : DeviceCall) (under : underRow call = some made)
    (store : σ) :
    ∃ notes, (call.run store).events = (made.run store).events ++ notes ∧
      ∀ event ∈ notes, RowNote event := by
  cases call with
  | read key =>
      cases under
      exact read_events key store
  | insert key row =>
      obtain ⟨blob, encoded, rfl⟩ := encoded_made row _ made under
      exact write_events .insert key row blob encoded store
  | update key row =>
      obtain ⟨blob, encoded, rfl⟩ := encoded_made row _ made under
      exact write_events .update key row blob encoded store
  | delete key =>
      cases under
      exact delete_events key store

theorem read_reports (table key : String) (names : Option (List String)) (store : σ) :
    (Harness.read store table key names).events =
      (Harness.report "read" key (RowStore.read store key)).events := by
  simp only [Harness.read]
  rcases Harness.report "read" key (RowStore.read store key) with ⟨answer, events, next⟩
  cases answer <;> rfl

/-- A failed row call is warned about once, and no other is. -/
theorem harness_events (call : HarnessCall) (row : RowCall) (under : underHarness call = some row)
    (store : σ) :
    (call.run store).events = (row.run store).events ++ warned row (row.run store).answer := by
  cases call with
  | scan => cases under
  | read table key names =>
      cases under
      refine (read_reports table key names store).trans ?_
      exact report_events (.read key) .row (fun _ => rfl) (fun _ => rfl) (RowStore.read store key)
  | insert table key row =>
      cases under
      exact report_events (.insert key row) .rowDone (fun _ => rfl) (fun _ => rfl)
        (RowStore.insert store key row)
  | update table key row =>
      cases under
      exact report_events (.update key row) .rowDone (fun _ => rfl) (fun _ => rfl)
        (RowStore.update store key row)
  | delete table key =>
      cases under
      exact report_events (.delete key) .rowDone (fun _ => rfl) (fun _ => rfl)
        (RowStore.delete store key)

def UpperNote (event : Event) : Prop := event.source = .rows ∨ event.source = .harness

theorem warned_upper (call : RowCall) (answer : Answer) :
    ∀ event ∈ warned call answer, UpperNote event := by
  intro event member
  simp only [warned] at member
  split at member
  · cases member
  · cases List.mem_singleton.mp member
    exact .inr rfl

/-- A call logs what its device call logs, and the layers above the device add their own. -/
theorem call_events (call : Call) (made : DeviceCall) (under : deviceCall? call = some made)
    (store : σ) :
    ∃ notes, (call.run store).events = (made.run store).events ++ notes ∧
      ∀ event ∈ notes, UpperNote event := by
  cases call with
  | device call =>
      cases under
      exact ⟨[], (List.append_nil _).symm, by simp⟩
  | row call =>
      obtain ⟨notes, logged, noted⟩ := row_events call made under store
      exact ⟨notes, logged, fun event member => .inl (noted event member).2⟩
  | harness call =>
      obtain ⟨row, inner, outer⟩ := Option.bind_eq_some_iff.mp under
      obtain ⟨notes, logged, noted⟩ := row_events row made outer store
      refine ⟨notes ++ warned row (row.run store).answer, ?_, ?_⟩
      · rw [Call.run, harness_events call row inner store, logged, List.append_assoc]
      · intro event member
        rcases List.mem_append.mp member with note | warning
        · exact .inl (noted event note).2
        · exact warned_upper row _ event warning

theorem unmade_events (call : Call) (under : deviceCall? call = none) (store : σ) :
    ∀ event ∈ (call.run store).events, UpperNote event := by
  cases call with
  | device call => cases under
  | row call =>
      obtain ⟨failure, unmade⟩ := row_unmade call under
      simp [Call.run, unmade store]
  | harness call =>
      cases inner : underHarness call with
      | none =>
          cases call with
          | scan =>
              intro event member
              cases member
          | read | insert | update | delete => cases inner
      | some row =>
          have outer : underRow row = none := by simpa [deviceCall?, inner] using under
          obtain ⟨failure, unmade⟩ := row_unmade row outer
          rw [Call.run, harness_events call row inner store, unmade store, List.nil_append]
          exact warned_upper row _
end Layers

def warnings (events : List Event) : List Event := events.filter fun event => event.level = .warn

theorem trace_warnings (events : List Event) (traces : ∀ event ∈ events, event.level = .trace) :
    warnings events = [] := by
  apply List.filter_eq_nil_iff.mpr
  intro event member
  simp [traces event member]

theorem warned_warnings (call : RowCall) (answer : Answer) :
    warnings (warned call answer) = warned call answer := by
  simp only [warned]
  split <;> rfl

section Drives
variable {τ : Type} [EntryMap τ] [LawfulEntryMap τ]

theorem device_traces (call : DeviceCall) (entries : τ) :
    ∀ event ∈ (call.run entries).events,
      event.level = .trace ∧ event.source = EntryMap.source entries := by
  rw [run_exact]
  cases checkRequest (keyOf call) (valueOf call) with
  | error failure => simp
  | ok =>
      cases found : find? entries (content (keyOf call)) <;> cases call <;>
        simp [serve, found, logged, Emulated.event]

theorem row_warnings (call : RowCall) (entries : τ) : warnings (call.run entries).events = [] := by
  cases under : underRow call with
  | none =>
      obtain ⟨failure, unmade⟩ := row_unmade call under
      rw [unmade entries]
      rfl
  | some made =>
      obtain ⟨notes, logged, noted⟩ := row_events call made under entries
      rw [logged]
      apply trace_warnings
      intro event member
      rcases List.mem_append.mp member with trace | note
      · exact (device_traces made entries event trace).1
      · exact (noted event note).1

theorem harness_warnings (call : HarnessCall) (row : RowCall)
    (under : underHarness call = some row) (entries : τ) :
    warnings (call.run entries).events = warned row (row.run entries).answer := by
  have quiet := row_warnings row entries
  rw [warnings] at quiet
  rw [harness_events call row under entries, warnings, List.filter_append, quiet, List.nil_append]
  exact warned_warnings row _
end Drives

end FlashStore.CallEvents
