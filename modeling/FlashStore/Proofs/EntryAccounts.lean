import FlashStore.Proofs.StoredEntries
import Mathlib.Data.Set.Card

/-!
How many entries a drive has, told four ways: by its count, by the keys that can be read, by what the
calls answered, and by what was logged. Two changes move the count, an insert that succeeds and a
delete that does, and a device logs each of them once. Every call of every layer keeps the balance of
the four, so a run from an opening to a closing keeps it.
-/

namespace FlashStore.EntryAccounts
open CallEffects CallEvents CallLayers CallRuns DriveCalls EntryListing RequestChecks StoredEntries

inductive Move where
  | insert
  | delete
  deriving DecidableEq, Repr

namespace Move

def asked : Move → Call → Bool
  | .insert, .device (.insert _ _) | .insert, .row (.insert _ _)
  | .insert, .harness (.insert _ _ _) => true
  | .delete, .device (.delete _) | .delete, .row (.delete _)
  | .delete, .harness (.delete _ _) => true
  | _, _ => false

/-- Whether a call has made the change. -/
def made (move : Move) (call : Call) (answer : Answer) : Bool :=
  move.asked call && (failure? answer).isNone

def successes (move : Move) (history : List (Call × Answer)) : Nat :=
  history.countP fun past => move.made past.1 past.2

/-- How a device writes the change down. A delete is also traced when it misses. -/
def spelled (move : Move) (message : String) (fields : List (String × EventValue)) : Bool :=
  match move with
  | .insert => message = "insert"
  | .delete => message = "delete" && fields.contains ("hit", .flag true)

def traced (move : Move) (event : Event) : Bool :=
  event.level = .trace && (event.source = .singleTable || event.source = .shardedTable) &&
    move.spelled event.message event.fields

def traces (move : Move) (events : List Event) : Nat := events.countP move.traced

theorem traces_append (move : Move) (events others : List Event) :
    move.traces (events ++ others) = move.traces events + move.traces others :=
  List.countP_append

/-- The layers above a device trace their calls too, and those traces do not count. -/
theorem traces_upper (move : Move) (events : List Event)
    (upper : ∀ event ∈ events, UpperNote event) : move.traces events = 0 := by
  apply List.countP_eq_zero.mpr
  intro event member
  rcases upper event member with rows | harness
  · simp [traced, rows]
  · simp [traced, harness]

theorem made_failed (move : Move) (call : Call) (answer : Answer) (failure : Failure)
    (failed : failure? answer = some failure) : move.made call answer = false := by
  simp [made, failed]

theorem made_refused (move : Move) (under : DeviceCall) (failure : ResultCode) :
    move.made (.device under) (refused under failure) = false :=
  move.made_failed _ _ _ (refusal_passed (.device under) under failure)

theorem asked_under (move : Move) (call : Call) (under : DeviceCall)
    (makes : deviceCall? call = some under) : move.asked call = move.asked (.device under) := by
  cases call with
  | device call =>
      cases makes
      rfl
  | row call =>
      cases call with
      | read | delete => cases makes; cases move <;> rfl
      | insert key row | update key row =>
          obtain ⟨blob, encoded, rfl⟩ := encoded_made row _ under makes
          cases move <;> rfl
  | harness call =>
      cases call with
      | scan => cases makes
      | read | delete => cases makes; cases move <;> rfl
      | insert table key row | update table key row =>
          obtain ⟨blob, encoded, rfl⟩ := encoded_made row _ under makes
          cases move <;> rfl

theorem made_under {τ : Type} [EntryMap τ] (move : Move) (call : Call) (under : DeviceCall)
    (makes : deviceCall? call = some under) (entries after : τ) (answer : Answer)
    (effect : Effect entries under answer after) :
    move.made call (answerOf call answer) = move.made (.device under) answer := by
  cases effect with
  | failed _ failure =>
      rw [made_refused, move.made_failed call _ _ (refusal_passed call under failure)]
  | found =>
      rw [made, asked_under move call _ makes]
      cases move <;> rfl
  | inserted | updated | deleted =>
      simp only [made, asked_under move call _ makes, done_passed call]
      rfl
end Move

-- One call.

section Calls
variable {τ : Type} [EntryMap τ] [LawfulEntryMap τ]

theorem effect_balance (entries after : τ) (under : DeviceCall) (answer : Answer)
    (effect : Effect entries under answer after) :
    count after + (Move.delete.made (.device under) answer).toNat =
      count entries + (Move.insert.made (.device under) answer).toNat := by
  cases effect with
  | failed _ failure => rw [Move.made_refused, Move.made_refused]
  | found => rfl
  | inserted key value passed absent =>
      obtain ⟨_, _, grown⟩ := effect_outcome entries _ _ _ (.inserted key value passed absent) rfl
      exact grown
  | updated key value before passed present =>
      obtain ⟨_, _, same⟩ :=
        effect_outcome entries _ _ _ (.updated key value before passed present) rfl
      exact same
  | deleted key before passed present =>
      obtain ⟨_, _, shrunk⟩ := effect_outcome entries _ _ _ (.deleted key before passed present) rfl
      exact shrunk

theorem call_balance (call : Call) (entries : τ) :
    count (call.run entries).state + (Move.delete.made call (call.run entries).answer).toNat =
      count entries + (Move.insert.made call (call.run entries).answer).toNat := by
  have effect := call_effect call entries
  generalize (call.run entries).state = after at effect ⊢
  generalize (call.run entries).answer = answer at effect ⊢
  cases effect with
  | alone _ failure failed =>
      rw [Move.made_failed _ _ _ failure failed, Move.made_failed _ _ _ failure failed]
  | through under told _ makes effect =>
      rw [Move.made_under _ call under makes entries after told effect,
        Move.made_under _ call under makes entries after told effect]
      exact effect_balance entries after under told effect
end Calls

theorem logged_traced (move : Move) (drive : Drive) (message : String) (key : Bytes)
    (fields : List (String × EventValue)) :
    move.traces (logged drive message key fields) =
      (move.spelled message (Emulated.keyLength key :: fields)).toNat := by
  have own : EntryMap.source drive = .singleTable ∨ EntryMap.source drive = .shardedTable := by
    cases drive
    · exact .inl rfl
    · exact .inr rfl
  cases spelled : move.spelled message (Emulated.keyLength key :: fields) <;>
    simp [Move.traces, Move.traced, logged, Emulated.event, own, spelled]

/-- A call leaves its trace on the branch that makes the change, and a delete one on the other too. -/
theorem serve_traced (move : Move) (under : DeviceCall) (drive : Drive) :
    move.traces (serve drive under).events =
      (move.made (.device under) (serve drive under).answer).toNat := by
  cases found : find? drive (content (keyOf under)) <;> cases under <;>
    simp only [serve, found, logged_traced] <;> cases move <;> rfl

theorem device_traced (move : Move) (under : DeviceCall) (drive : Drive) :
    move.traces (under.run drive).events =
      (move.made (.device under) (under.run drive).answer).toNat := by
  rw [run_exact]
  cases checkRequest (keyOf under) (valueOf under) with
  | error failure =>
      show move.traces [] = (move.made (.device under) (refused under failure)).toNat
      rw [move.made_refused]
      rfl
  | ok => exact serve_traced move under drive

theorem call_traced (move : Move) (call : Call) (drive : Drive) :
    move.traces (call.run drive).events = (move.made call (call.run drive).answer).toNat := by
  cases makes : deviceCall? call with
  | none =>
      obtain ⟨answer, failure, failed, unmade⟩ := call_unmade call makes
      rw [(unmade drive).1, move.made_failed call answer failure failed]
      exact move.traces_upper _ (unmade_events call makes drive)
  | some under =>
      obtain ⟨notes, logged, noted⟩ := call_events call under makes drive
      have same := move.made_under call under makes drive _ _ (run_effect under drive)
      rw [logged, move.traces_append, move.traces_upper notes noted, Nat.add_zero, device_traced,
        (call_made call under makes drive).1, same]

-- Runs of calls.

def history (calls : List Call) (drive : Drive) : List (Call × Answer) :=
  calls.zip (answers Call.run calls drive)

theorem successes_cons (move : Move) (call : Call) (calls : List Call) (drive : Drive) :
    move.successes (history (call :: calls) drive) =
      move.successes (history calls (call.run drive).state) +
        (move.made call (call.run drive).answer).toNat := by
  simp only [Move.successes, history, answers, List.zip_cons_cons, List.countP_cons]
  cases move.made call (call.run drive).answer <;> rfl

theorem run_balance (calls : List Call) (drive : Drive) :
    count (leaves Call.run calls drive) + Move.delete.successes (history calls drive) =
      count drive + Move.insert.successes (history calls drive) := by
  induction calls generalizing drive with
  | nil => rfl
  | cons call rest ih =>
      have step := call_balance call drive
      have tail := ih (call.run drive).state
      rw [successes_cons, successes_cons, leaves]
      omega

theorem run_traced (move : Move) (calls : List Call) (drive : Drive) :
    move.traces (log Call.run calls drive) = move.successes (history calls drive) := by
  induction calls generalizing drive with
  | nil => rfl
  | cons call rest ih =>
      rw [log, move.traces_append, call_traced, ih, successes_cons, Nat.add_comm]

def readable (drive : Drive) : Set Bytes :=
  { found | ∃ key value, content key = found ∧ (Device.read drive key).answer = .ok value }

theorem readable_iff (drive : Drive) (upheld : Upheld drive) (found : Bytes) :
    found ∈ readable drive ↔ found ∈ (listed drive).map Prod.fst := by
  simp only [readable, Set.mem_ofPred_eq, read_found_iff, List.mem_map, Prod.exists,
    exists_and_right, exists_eq_right, listed_iff drive upheld.placed]
  constructor
  · rintro ⟨key, value, rfl, _, present⟩
    exact ⟨value, present⟩
  · rintro ⟨value, present⟩
    have sound := upheld.sound found value present
    refine ⟨.ofBytes found, value, content_bytes found, ?_, ?_⟩
    · have long := sound.key_long
      have short := sound.key_short
      have fits : ¬ (found.length < 4 ∨ 255 < found.length) := by omega
      simp only [checkRequest, check_bytes, if_neg fits]
    · rw [content_bytes]
      exact present

/-- No shard holds a key of another and none holds a key twice, so to count entries is to count
keys. -/
theorem readable_count (drive : Drive) (upheld : Upheld drive) :
    (readable drive).encard = count drive := by
  have same : readable drive = ((listed drive).map Prod.fst).toFinset := by
    ext found
    rw [readable_iff drive upheld, List.coe_toFinset, Set.mem_ofPred_eq]
  have nodup : ((listed drive).map Prod.fst).Nodup :=
    keys_nodup (route drive) (tables drive) upheld.placed
  rw [same, Set.encard_coe_eq_coe_finsetCard, List.toFinset_card_of_nodup nodup, List.length_map,
    length_listed]

/-- All that is logged from the opening of a drive to its closing, with some calls in between. -/
def lifetime (opening : Opening) (calls : List Call) : List Event :=
  opening.events ++ log Call.run calls opening.drive ++
    [(leaves Call.run calls opening.drive).closing]

theorem lifetime_traced (move : Move) (opening : Opening) (calls : List Call) :
    move.traces (lifetime opening calls) = move.successes (history calls opening.drive) := by
  have opened : move.traces opening.events = 0 := by
    cases opening <;> cases move <;> rfl
  have closed : move.traces [(leaves Call.run calls opening.drive).closing] = 0 := rfl
  rw [lifetime, move.traces_append, move.traces_append, opened, closed, run_traced, Nat.zero_add,
    Nat.add_zero]

/-- Whatever calls of any layer were made on a fresh drive of either backend, its count is the number
of successful inserts less the successful deletes, which are never more. So many keys can be read, so
many entries are logged as inserted and not deleted, and so many are released when it is closed. -/
theorem entry_accounts (opening : Opening) (calls : List Call) :
    let drive := leaves Call.run calls opening.drive
    let past := history calls opening.drive
    let events := lifetime opening calls
    let entries := Move.insert.successes past - Move.delete.successes past
    Move.delete.successes past ≤ Move.insert.successes past ∧
      Device.count drive = entries ∧
      (readable drive).encard = entries ∧
      (Device.isEmpty drive = true ↔ entries = 0) ∧
      Move.delete.traces events ≤ Move.insert.traces events ∧
      Move.insert.traces events - Move.delete.traces events = entries ∧
      events.getLast? = some ⟨.debug, EntryMap.source drive,
        "Closing " ++ drive.kind ++ " KV-SSD emulation, releasing " ++ toString entries ++
          " entries", []⟩ := by
  intro drive past events entries
  have balance : count drive + Move.delete.successes past = Move.insert.successes past := by
    rw [run_balance calls opening.drive, opening_count, Nat.zero_add]
  have counted : count drive = entries := by
    show count drive = Move.insert.successes past - Move.delete.successes past
    omega
  have upheld : Upheld drive := reached_upheld drive ⟨opening, calls, rfl⟩
  have traced (move : Move) : move.traces events = move.successes past :=
    lifetime_traced move opening calls
  refine ⟨by omega, counted, ?_, ?_, ?_, ?_, ?_⟩
  · rw [readable_count drive upheld, counted]
  · rw [← counted]
    exact beq_iff_eq
  · rw [traced, traced]
    omega
  · rw [traced, traced]
  · rw [← counted]
    exact List.getLast?_concat

end FlashStore.EntryAccounts
