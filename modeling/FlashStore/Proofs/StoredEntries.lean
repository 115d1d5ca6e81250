import FlashStore.Proofs.ComparedRuns
import Mathlib.Data.List.Nodup

/-!
What a call can do to a drive, and what holds of everything that is ever stored.

A device call does one of five things: it fails and changes nothing, or it finds, inserts, updates
or deletes the entry of its key content. A call of a layer above does what its device call does, and
only a read can still fail above the device, when it has changed nothing. So no call of any layer
leaves half of a change behind.

Look-ups never visit a shard that their key does not hash to, so they would miss an entry in a wrong
shard and a second one beside it. The listing is made of all tables there are. Where every key lies
in the table that it is routed to, which opening, writing and erasing see to, the listing holds what
look-ups find, each key once, and is as long as the count says. Only a checked request writes, and
what it writes is the key content and the copy that the check has measured; the invariant has that
beside the place of the keys.
-/

namespace FlashStore.CallEffects
open BackendAgreement CallLayers DriveCalls RequestChecks

section Effects
variable {τ : Type} [EntryMap τ]

/-- A call on the entries, its answer and the entries after it. -/
inductive Effect (entries : τ) : DeviceCall → Answer → τ → Prop where
  | failed (call : DeviceCall) (failure : ResultCode) :
      Effect entries call (refused call failure) entries
  | found (key : KeyRef) (value : StoredValue) (passed : checkRequest key none = .ok ())
      (present : find? entries (content key) = some value) :
      Effect entries (.read key) (.stored (.ok value)) entries
  | inserted (key : KeyRef) (value : ValueRef)
      (passed : checkRequest key (some value) = .ok ())
      (absent : find? entries (content key) = none) :
      Effect entries (.insert key value) (.deviceDone (.ok ()))
        (put entries (content key) (kept value))
  | updated (key : KeyRef) (value : ValueRef) (before : StoredValue)
      (passed : checkRequest key (some value) = .ok ())
      (present : find? entries (content key) = some before) :
      Effect entries (.update key value) (.deviceDone (.ok ()))
        (put entries (content key) (kept value))
  | deleted (key : KeyRef) (before : StoredValue) (passed : checkRequest key none = .ok ())
      (present : find? entries (content key) = some before) :
      Effect entries (.delete key) (.deviceDone (.ok ())) (erase entries (content key))

theorem serve_effect (call : DeviceCall) (entries : τ)
    (passed : checkRequest (keyOf call) (valueOf call) = .ok ()) :
    Effect entries call (serve entries call).answer (serve entries call).state := by
  cases call with
  | read key =>
      simp only [serve, keyOf]
      cases present : find? entries (content key) with
      | none => exact .failed (.read key) .keyNotExist
      | some value => exact .found key value passed present
  | insert key value =>
      simp only [serve, keyOf]
      cases absent : find? entries (content key) with
      | none => exact .inserted key value passed absent
      | some before => exact .failed (.insert key value) .keyAlreadyExists
  | update key value =>
      simp only [serve, keyOf]
      cases present : find? entries (content key) with
      | none => exact .failed (.update key value) .keyNotExist
      | some before => exact .updated key value before passed present
  | delete key =>
      simp only [serve, keyOf]
      cases present : find? entries (content key) with
      | none => exact .failed (.delete key) .keyNotExist
      | some before => exact .deleted key before passed present

variable [LawfulEntryMap τ]

theorem run_effect (call : DeviceCall) (entries : τ) :
    Effect entries call (call.run entries).answer (call.run entries).state := by
  rw [run_exact]
  cases passed : checkRequest (keyOf call) (valueOf call) with
  | error failure => exact .failed call failure
  | ok => exact serve_effect call entries passed

/-- One entry becomes `value`, or goes if there is none, and no other entry is touched. -/
structure Moved (before after : τ) (key : Bytes) (value : Option StoredValue) : Prop where
  here : find? after key = value
  elsewhere : ∀ other, other ≠ key → find? after other = find? before other

def Outcome (before : τ) (call : DeviceCall) (after : τ) : Prop :=
  match call with
  | .read _ => after = before
  | .insert key value =>
      find? before (content key) = none ∧
        Moved before after (content key) (some (kept value)) ∧ count after = count before + 1
  | .update key value =>
      (find? before (content key)).isSome = true ∧
        Moved before after (content key) (some (kept value)) ∧ count after = count before
  | .delete key =>
      (find? before (content key)).isSome = true ∧
        Moved before after (content key) none ∧ count after + 1 = count before

theorem put_moved (entries : τ) (key : Bytes) (value : StoredValue) :
    Moved entries (put entries key value) key (some value) where
  here := by simp [LawfulEntryMap.find?_put]
  elsewhere other apart := by simp [LawfulEntryMap.find?_put, apart.symm]

theorem erase_moved (entries : τ) (key : Bytes) : Moved entries (erase entries key) key none where
  here := by simp [LawfulEntryMap.find?_erase]
  elsewhere other apart := by simp [LawfulEntryMap.find?_erase, apart.symm]

theorem effect_outcome (entries after : τ) (call : DeviceCall) (answer : Answer)
    (effect : Effect entries call answer after) (done : failure? answer = none) :
    Outcome entries call after := by
  cases effect with
  | failed call failure => cases call <;> cases done
  | found => rfl
  | inserted key value passed absent =>
      refine ⟨absent, put_moved entries (content key) (kept value), ?_⟩
      simp [LawfulEntryMap.count_put, absent]
  | updated key value before passed present =>
      refine ⟨by simp [present], put_moved entries (content key) (kept value), ?_⟩
      simp [LawfulEntryMap.count_put, present]
  | deleted key before passed present =>
      have positive := LawfulEntryMap.count_pos entries (content key) (by simp [present])
      refine ⟨by simp [present], erase_moved entries (content key), ?_⟩
      simp [LawfulEntryMap.count_erase, present, Nat.sub_add_cancel positive]
end Effects

-- Calls of all layers, and what becomes of a device call's answer in the layer that made the call.

def passedOn : Call → ResultCode → Failure
  | .device _, failure => .code failure
  | .row _, failure => .cause (.device failure)
  | .harness _, failure => .status (.ofRowError (.device failure))

theorem refusal_passed (call : Call) (made : DeviceCall) (failure : ResultCode) :
    failure? (answerOf call (refused made failure)) = some (passedOn call failure) := by
  cases call <;> cases made <;> rfl

theorem done_passed (call : Call) : failure? (answerOf call (.deviceDone (.ok ()))) = none := by
  cases call <;> rfl

/-- A call fails without a device call, or has the effect of the device call that it makes. -/
inductive CallEffect {τ : Type} [EntryMap τ] (entries : τ) (call : Call) : Answer → τ → Prop where
  | alone (answer : Answer) (failure : Failure) (failed : failure? answer = some failure) :
      CallEffect entries call answer entries
  | through (made : DeviceCall) (answer : Answer) (after : τ) (under : deviceCall? call = some made)
      (effect : Effect entries made answer after) :
      CallEffect entries call (answerOf call answer) after

section Calls
variable {τ : Type} [EntryMap τ] (call : Call) (entries after : τ) (answer : Answer)

theorem failed_keeps (effect : CallEffect entries call answer after) (failure : Failure)
    (failed : failure? answer = some failure) : after = entries := by
  cases effect with
  | alone => rfl
  | through made told _ under effect =>
      -- A write that the device has done is done in every layer.
      cases effect with
      | failed | found => rfl
      | inserted | updated | deleted => cases (done_passed call).symm.trans failed

variable [LawfulEntryMap τ]

theorem call_effect :
    CallEffect entries call (call.run entries).answer (call.run entries).state := by
  cases under : deviceCall? call with
  | none =>
      obtain ⟨answer, failure, failed, unmade⟩ := call_unmade call under
      rw [(unmade entries).1, (unmade entries).2]
      exact .alone answer failure failed
  | some made =>
      rw [(call_made call made under entries).1, (call_made call made under entries).2]
      exact .through made _ _ under (run_effect made entries)

theorem done_outcome (effect : CallEffect entries call answer after)
    (done : failure? answer = none) :
    ∃ made, deviceCall? call = some made ∧ Outcome entries made after := by
  cases effect with
  | alone _ failure failed => cases done.symm.trans failed
  | through made told _ under effect =>
      refine ⟨made, under, effect_outcome entries after made told effect ?_⟩
      cases effect with
      | failed _ failure => cases done.symm.trans (refusal_passed call made failure)
      | found | inserted | updated | deleted => rfl

theorem refused_alike (made : DeviceCall) (under : deviceCall? call = some made)
    (failure : ResultCode)
    (refusal : checkRequest (keyOf made) (valueOf made) = .error failure) :
    failure? (call.run entries).answer = some (passedOn call failure) := by
  obtain ⟨answered, _⟩ := call_made call made under entries
  rw [answered, run_exact, refusal]
  exact refusal_passed call made failure
end Calls

def looks : Call → Bool
  | .device (.read _) | .row (.read _) | .harness (.read _ _ _) | .harness (.scan _ _ _ _) => true
  | _ => false

theorem looks_made (call : Call) (made : DeviceCall) (look : looks call = true)
    (under : deviceCall? call = some made) : ∃ key, made = .read key := by
  cases call with
  | device call =>
      cases under
      cases made with
      | read key => exact ⟨key, rfl⟩
      | insert | update | delete => cases look
  | row call =>
      cases call with
      | read key => exact ⟨.ofText key, (Option.some.inj under).symm⟩
      | insert | update | delete => cases look
  | harness call =>
      cases call with
      | read table key names => exact ⟨.ofText key, (Option.some.inj under).symm⟩
      | scan => cases under
      | insert | update | delete => cases look

theorem look_keeps {τ : Type} [EntryMap τ] [LawfulEntryMap τ] (call : Call) (entries : τ)
    (look : looks call = true) : (call.run entries).state = entries := by
  have effect := call_effect call entries
  cases told : failure? (call.run entries).answer with
  | some failure => exact failed_keeps call entries _ _ effect failure told
  | none =>
      obtain ⟨made, under, outcome⟩ := done_outcome call entries _ _ effect told
      obtain ⟨key, rfl⟩ := looks_made call made look under
      exact outcome

/-- What a client may rely on. A call that fails leaves the drive as it was, at whatever point it
failed, and one that succeeds moves the entry of its own key content only. A request that fails its
check fails alike on every drive, and so does a call that never gets as far as a request. -/
structure Atomic (drive : Drive) (call : Call) : Prop where
  failed : ∀ failure, failure? (call.run drive).answer = some failure →
    (call.run drive).state = drive
  looked : looks call = true → (call.run drive).state = drive
  done : failure? (call.run drive).answer = none →
    ∃ made, deviceCall? call = some made ∧ Outcome drive made (call.run drive).state
  refused : ∀ made failure, deviceCall? call = some made →
    checkRequest (keyOf made) (valueOf made) = .error failure →
    ∀ other : Drive, failure? (call.run other).answer = some (passedOn call failure)
  unmade : deviceCall? call = none →
    ∃ failure, ∀ other : Drive, failure? (call.run other).answer = some failure

/-- Calls of all layers are atomic on drives of both backends, and asking how much a drive holds
changes nothing. -/
theorem call_atomic (drive : Drive) :
    (∀ call, Atomic drive call) ∧
      (Request.count.respond drive).state = drive ∧
      (Request.isEmpty.respond drive).state = drive := by
  refine ⟨fun call => ?_, rfl, rfl⟩
  constructor
  case failed => exact failed_keeps call drive _ _ (call_effect call drive)
  case looked => exact look_keeps call drive
  case done => exact done_outcome call drive _ _ (call_effect call drive)
  case refused =>
    intro made failure under refusal other
    exact refused_alike call other made under failure refusal
  case unmade =>
    intro under
    obtain ⟨answer, failure, failed, unmade⟩ := call_unmade call under
    refine ⟨failure, fun other => ?_⟩
    rw [(unmade other).1]
    exact failed

end FlashStore.CallEffects

/-! Entries as a list -/

namespace FlashStore.EntryListing
open DriveCalls

/-- All entries of some tables, table by table. -/
def listing (tables : List Table) : List (Bytes × StoredValue) := tables.flatMap Std.HashMap.toList

/-- Every key lies in the table that `route` sends it to. -/
def Placed (route : Bytes → Nat) (tables : List Table) : Prop :=
  ∀ (i : Nat) (within : i < tables.length) (key : Bytes), key ∈ tables[i] → route key = i

theorem listed_in (tables : List Table) (key : Bytes) (value : StoredValue) :
    (key, value) ∈ listing tables ↔
      ∃ (i : Nat) (within : i < tables.length), tables[i][key]? = some value := by
  simp only [listing, List.mem_flatMap, Std.HashMap.mem_toList_iff_getElem?_eq_some]
  constructor
  · rintro ⟨table, member, found⟩
    obtain ⟨i, within, rfl⟩ := List.getElem_of_mem member
    exact ⟨i, within, found⟩
  · rintro ⟨i, within, found⟩
    exact ⟨tables[i], List.getElem_mem within, found⟩

section Placement
variable (route : Bytes → Nat) (tables : List Table) (placed : Placed route tables)
include placed

theorem listed_routed (key : Bytes) (value : StoredValue) (within : route key < tables.length) :
    (key, value) ∈ listing tables ↔ tables[route key][key]? = some value := by
  rw [listed_in]
  constructor
  · rintro ⟨i, inside, found⟩
    have here := placed i inside key (Std.HashMap.mem_iff_isSome_getElem?.mpr (by simp [found]))
    subst here
    exact found
  · intro found
    exact ⟨route key, within, found⟩

theorem keys_nodup : ((listing tables).map Prod.fst).Nodup := by
  rw [listing, List.map_flatMap, List.nodup_flatMap]
  simp only [Std.HashMap.map_fst_toList_eq_keys]
  refine ⟨fun table _ => Std.HashMap.nodup_keys, ?_⟩
  rw [List.pairwise_iff_getElem]
  intro i j first second before key here there
  -- A key in two tables would be routed to both.
  have at_i := placed i first key (Std.HashMap.mem_keys.mp here)
  have at_j := placed j second key (Std.HashMap.mem_keys.mp there)
  omega
end Placement

theorem length_listing (tables : List Table) :
    (listing tables).length = ShardedTable.total Std.HashMap.size tables := by
  induction tables with
  | nil => rfl
  | cons table rest ih =>
      simp only [listing, List.flatMap_cons, List.length_append, Std.HashMap.length_toList]
      rw [ShardedTable.total, List.foldr_cons]
      exact congrArg (table.size + ·) ih

-- The tables of a drive.

def tables : Drive → List Table
  | .single entries => [entries]
  | .sharded entries => entries.shards.toList

def route : Drive → Bytes → Nat
  | .single _, _ => 0
  | .sharded entries, key => entries.route key

def listed (drive : Drive) : List (Bytes × StoredValue) := listing (tables drive)

def InPlace (drive : Drive) : Prop := Placed (route drive) (tables drive)

theorem single_in_place (entries : Table) : InPlace (.single entries) := by
  intro i within key _
  have only : i < 1 := within
  show 0 = i
  omega

theorem change_in_place (entries : ShardedTable) (key : Bytes) (change : Table → Table)
    (only : ∀ table other, other ∈ change table → other = key ∨ other ∈ table)
    (placed : InPlace (.sharded entries)) : InPlace (.sharded (entries.change key change)) := by
  intro i within other member
  have inside : i < entries.shards.size := by
    simpa [tables, ShardedTable.change] using within
  show (entries.change key change).route other = i
  rw [ShardedTable.route_change]
  have before : other ∈ entries.shards[i] → entries.route other = i :=
    placed i (by simpa [tables] using inside) other
  simp only [tables, ShardedTable.change, Array.getElem_toList, Array.getElem_modify] at member
  split at member
  · next here =>
    rcases only _ _ member with rfl | stood
    · exact here
    · exact before stood
  · exact before member

theorem put_in_place (drive : Drive) (key : Bytes) (value : StoredValue) (placed : InPlace drive) :
    InPlace (put drive key value) := by
  cases drive with
  | single entries => exact single_in_place (put entries key value)
  | sharded entries =>
      apply change_in_place entries key _ _ placed
      intro table other member
      have either : key = other ∨ other ∈ table := by
        simpa using Std.HashMap.mem_insert.mp member
      exact either.imp_left Eq.symm

theorem erase_in_place (drive : Drive) (key : Bytes) (placed : InPlace drive) :
    InPlace (erase drive key) := by
  cases drive with
  | single entries => exact single_in_place (erase entries key)
  | sharded entries =>
      apply change_in_place entries key _ _ placed
      intro table other member
      exact .inr (Std.HashMap.mem_erase.mp member).2

theorem opening_in_place (opening : Opening) : InPlace opening.drive := by
  cases opening with
  | single capacity => exact single_in_place _
  | sharded asked place =>
      intro i within key member
      simp [tables, Opening.drive, Drive.openSharded, ShardedTable.ofAmount] at member

theorem listed_iff (drive : Drive) (placed : InPlace drive) (key : Bytes) (value : StoredValue) :
    (key, value) ∈ listed drive ↔ find? drive key = some value := by
  cases drive with
  | single entries => exact listed_routed _ _ placed key value (Nat.zero_lt_one)
  | sharded entries => exact listed_routed _ _ placed key value (entries.route_lt key)

theorem length_listed (drive : Drive) : (listed drive).length = count drive := by
  rw [listed, length_listing]
  cases drive <;> rfl

end FlashStore.EntryListing

/-! The invariant -/

namespace FlashStore.StoredEntries
open CallEffects CallRuns DriveCalls EntryListing RequestChecks

structure Sound (key : Bytes) (value : StoredValue) : Prop where
  key_long : 4 ≤ key.length
  key_short : key.length ≤ 255
  value_short : value.bytes.length ≤ 2097152
  actual_exact : value.actual.toNat = value.bytes.length
  length_exact : value.length.toNat = value.bytes.length
  aligned : value.offset.toNat % 512 = 0

theorem checked_sound (key : KeyRef) (value : ValueRef)
    (passed : checkRequest key (some value) = .ok ()) : Sound (content key) (kept value) := by
  obtain ⟨keyPassed, given⟩ := (request_passed_iff key (some value)).mp passed
  have valuePassed := given value rfl
  obtain ⟨named, long, short⟩ := checked_key_length key keyPassed
  obtain ⟨small, aligned⟩ := checked_value_limits value valuePassed
  have measured := checked_value_length value valuePassed
  have fits : (kept value).bytes.length ≤ 2097152 := by omega
  exact {
    key_long := by omega
    key_short := by omega
    value_short := fits
    actual_exact := measured.symm
    length_exact := saturated_exact (kept value).bytes fits
    aligned := aligned }

structure Upheld (drive : Drive) : Prop where
  placed : InPlace drive
  sound : ∀ key value, find? drive key = some value → Sound key value

theorem opening_upheld (opening : Opening) : Upheld opening.drive where
  placed := opening_in_place opening
  sound key value found := by simp [opening_empty] at found

section Steps
variable (drive : Drive) (upheld : Upheld drive)
include upheld

theorem put_upheld (key : Bytes) (value : StoredValue) (sound : Sound key value) :
    Upheld (put drive key value) where
  placed := put_in_place drive key value upheld.placed
  sound other stored found := by
    rw [LawfulEntryMap.find?_put] at found
    split at found
    · next same =>
      cases found
      exact same ▸ sound
    · exact upheld.sound other stored found

theorem erase_upheld (key : Bytes) : Upheld (erase drive key) where
  placed := erase_in_place drive key upheld.placed
  sound other stored found := by
    rw [LawfulEntryMap.find?_erase] at found
    split at found
    · cases found
    · exact upheld.sound other stored found

theorem effect_upheld (after : Drive) (call : DeviceCall) (answer : Answer)
    (effect : Effect drive call answer after) : Upheld after := by
  cases effect with
  | failed | found => exact upheld
  | inserted key value passed absent =>
      exact put_upheld drive upheld _ _ (checked_sound key value passed)
  | updated key value before passed present =>
      exact put_upheld drive upheld _ _ (checked_sound key value passed)
  | deleted key before passed present => exact erase_upheld drive upheld _

theorem call_upheld (after : Drive) (call : Call) (answer : Answer)
    (effect : CallEffect drive call answer after) : Upheld after := by
  cases effect with
  | alone => exact upheld
  | through made told _ under effect => exact effect_upheld drive upheld after made told effect
end Steps

/-- A drive of either backend behind some calls of any layer since it was opened. -/
def Reached (drive : Drive) : Prop :=
  ∃ (opening : Opening) (calls : List Call), drive = leaves Call.run calls opening.drive

theorem reached_upheld (drive : Drive) (reached : Reached drive) : Upheld drive := by
  obtain ⟨opening, calls, rfl⟩ := reached
  apply leaves_keeps Call.run Upheld _ calls opening.drive (opening_upheld opening)
  intro call before kept
  exact call_upheld before kept _ call _ (call_effect call before)

/-- Whatever calls of any layer were made on a drive of either backend since it was opened, its
entries have different keys and are sound, and they are the entries that look-ups find. -/
theorem reached_entries_sound (opening : Opening) (calls : List Call) :
    let drive := leaves Call.run calls opening.drive
    ((listed drive).map Prod.fst).Nodup ∧
      (∀ key value, (key, value) ∈ listed drive → Sound key value) ∧
      (∀ key value, (key, value) ∈ listed drive ↔ find? drive key = some value) ∧
      (listed drive).length = count drive := by
  intro drive
  have upheld : Upheld drive := by
    apply leaves_keeps Call.run Upheld _ calls opening.drive (opening_upheld opening)
    intro call before kept
    exact call_upheld before kept _ call _ (call_effect call before)
  have seen := listed_iff drive upheld.placed
  refine ⟨keys_nodup (route drive) (tables drive) upheld.placed, ?_, seen, length_listed drive⟩
  intro key value member
  exact upheld.sound key value ((seen key value).mp member)

end FlashStore.StoredEntries
