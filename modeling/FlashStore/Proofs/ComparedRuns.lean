import FlashStore.Proofs.CallLayers
import Mathlib.Algebra.BigOperators.Group.Finset.Basic
import Mathlib.Data.Fin.VecNotation
import Mathlib.Data.Fintype.Basic

/-!
Runs that cannot be told apart by their clients.

Two fresh drives, one of each backend, give every request of a run the same response, log the same
events for it but for their source, and hold as many entries after it; when they are closed they
report the same number. The invariant is that the two agree on the entry of every key content and on
their count. Databases are alike in the same way, whatever properties they were opened with and on
whatever tables the calls are made: properties decide only whether there is a database at all.

Threads that share a store but no key content do not notice each other. A step of a thread is one
call, and a call reaches the drive through one device call at most, so a schedule that says whose
turn it is describes every interleaving of atomic device calls. The invariant compares the shared
store with one store for each thread, on which the thread has made the same calls alone: under the
contents of a thread the two hold the same, under all others the shared store holds nothing, and its
count is the sum of the counts.
-/

namespace FlashStore.BackendAgreement
open CallLocality CallRuns DriveCalls RequestChecks

inductive Request where
  | call (made : DeviceCall)
  | count
  | isEmpty
  deriving DecidableEq, Repr

inductive Response where
  | answered (answer : Answer)
  | counted (entries : Nat)
  | empty (verdict : Bool)

/-- All that a client sees of a request: its response, what its events tell, and the number of
entries after it. -/
structure Turn where
  response : Response
  events : List (Level × String × List (String × EventValue))
  count : Nat

section Requests
variable {σ : Type} [Device σ]

def Request.respond (request : Request) (device : σ) : Reply σ Response :=
  match request with
  | .call made => (made.run device).map .answered
  | .count => ⟨.counted (Device.count device), [], device⟩
  | .isEmpty => ⟨.empty (Device.isEmpty device), [], device⟩

def Request.turn (request : Request) (device : σ) : Reply σ Turn :=
  let reply := request.respond device
  { reply with answer := ⟨reply.answer, reply.events.map shown, Device.count reply.state⟩ }
end Requests

section Agreement
variable {τ υ : Type} [EntryMap τ] [EntryMap υ]

structure Agree (entries : τ) (others : υ) : Prop where
  found : ∀ key, find? entries key = find? others key
  counted : count entries = count others

variable [LawfulEntryMap τ] [LawfulEntryMap υ]

theorem call_agrees (call : DeviceCall) (entries : τ) (others : υ) (agree : Agree entries others) :
    Agree (call.run entries).state (call.run others).state := by
  have same : ∀ key, reached call = some key → find? entries key = find? others key :=
    fun key _ => agree.found key
  constructor
  · intro key
    exact run_entry_same call entries others same key (agree.found key)
  · have moved := run_count_same call entries others same
    have before := agree.counted
    omega

theorem turn_agrees (request : Request) (entries : τ) (others : υ) (agree : Agree entries others) :
    (request.turn entries).answer = (request.turn others).answer ∧
      Agree (request.turn entries).state (request.turn others).state := by
  cases request with
  | call call =>
      have next := call_agrees call entries others agree
      obtain ⟨answer, events⟩ := run_same call entries others fun key _ => agree.found key
      have counted : Device.count (call.run entries).state = Device.count (call.run others).state :=
        next.counted
      refine ⟨?_, next⟩
      simp only [Request.turn, Request.respond, Reply.map, answer, events, counted]
  | count | isEmpty =>
      have counted : Device.count entries = Device.count others := agree.counted
      refine ⟨?_, agree⟩
      simp only [Request.turn, Request.respond, Device.isEmpty, counted, List.map_nil]
end Agreement

section Closing

theorem put_kind (drive : Drive) (key : Bytes) (value : StoredValue) :
    (put drive key value).kind = drive.kind := by
  cases drive <;> rfl

theorem erase_kind (drive : Drive) (key : Bytes) : (erase drive key).kind = drive.kind := by
  cases drive <;> rfl

theorem call_kind (call : DeviceCall) (drive : Drive) : (call.run drive).state.kind = drive.kind := by
  rw [run_exact]
  cases checkRequest (keyOf call) (valueOf call) with
  | error failure => rfl
  | ok =>
      cases found : find? drive (content (keyOf call)) <;> cases call <;>
        simp [serve, found, put_kind, erase_kind]

theorem turn_kind (request : Request) (drive : Drive) :
    (request.turn drive).state.kind = drive.kind := by
  cases request with
  | call call => exact call_kind call drive
  | count | isEmpty => rfl

structure Twins (single sharded : Drive) : Prop where
  agree : Agree single sharded
  single_kind : single.kind = "hashmap"
  sharded_kind : sharded.kind = "sharded"

theorem turn_twins (request : Request) (single sharded : Drive) (twins : Twins single sharded) :
    (request.turn single).answer = (request.turn sharded).answer ∧
      Twins (request.turn single).state (request.turn sharded).state := by
  obtain ⟨same, agree⟩ := turn_agrees request single sharded twins.agree
  refine ⟨same, agree, ?_, ?_⟩
  · rw [turn_kind, twins.single_kind]
  · rw [turn_kind, twins.sharded_kind]
end Closing

theorem opening_twins (capacity : Option Nat) (asked : Nat) (place : UInt64 → Nat) :
    Twins (Opening.single capacity).drive (Opening.sharded asked place).drive where
  agree :=
    { found := fun key => by rw [opening_empty, opening_empty]
      counted := by rw [opening_count, opening_count] }
  single_kind := rfl
  sharded_kind := rfl

/-- No run of requests tells a fresh drive of one table from a fresh drive of any number of shards,
nor does the number of entries that the two release when they are closed behind it. -/
theorem backends_agree (capacity : Option Nat) (asked : Nat) (place : UInt64 → Nat)
    (requests : List Request) :
    answers Request.turn requests (Opening.single capacity).drive =
        answers Request.turn requests (Opening.sharded asked place).drive ∧
      ∃ released : Nat,
        (leaves Request.turn requests (Opening.single capacity).drive).closing.message =
            "Closing hashmap KV-SSD emulation, releasing " ++ toString released ++ " entries" ∧
          (leaves Request.turn requests (Opening.sharded asked place).drive).closing.message =
            "Closing sharded KV-SSD emulation, releasing " ++ toString released ++ " entries" := by
  obtain ⟨same, last⟩ := runs_agree Request.turn Request.turn Twins turn_twins requests _ _
    (opening_twins capacity asked place)
  -- The closing text is made of the kind, which no request changes, and of the count, which agrees.
  refine ⟨same, count (leaves Request.turn requests (Opening.single capacity).drive), ?_, ?_⟩
  · simp [Drive.closing, last.single_kind]
  · simp [Drive.closing, last.sharded_kind, last.agree.counted]

end FlashStore.BackendAgreement

/-! Databases -/

namespace FlashStore.DatabaseTwins
open CallEvents CallLayers CallLocality CallRuns DriveCalls

-- Opening.

theorem refused_settings (settings : Settings) (failure : SettingsError)
    (refused : settings.check = .error failure) : Drive.openWith settings = .error failure := by
  simp only [Drive.openWith, refused]

theorem checked_settings (settings : Settings) (checked : settings.check = .ok ()) :
    ∃ (opened : Drive.Opened) (opening : Opening),
      Drive.openWith settings = .ok opened ∧ opened.drive = opening.drive := by
  cases backend : settings.backend with
  | singleTable =>
      refine ⟨Drive.openSingle none, .single none, ?_, rfl⟩
      simp only [Drive.openWith, checked, backend]
  | sharded =>
      refine ⟨Drive.openSharded settings.shardAmount.toNat,
        .sharded settings.shardAmount.toNat UInt64.toNat, ?_, rfl⟩
      simp only [Drive.openWith, checked, backend]
  | physical => simp [Settings.check, backend] at checked

section Opening
variable (properties : Properties)

theorem open_verdict :
    ((∃ opened, Harness.openDatabase properties = .ok opened) ↔
        ∃ settings, Settings.ofProperties properties = .ok settings ∧ settings.check = .ok ()) ∧
      ∀ failure, Harness.openDatabase properties = .error failure ↔
        Settings.ofProperties properties = .error failure ∨
          ∃ settings, Settings.ofProperties properties = .ok settings ∧
            settings.check = .error failure := by
  cases read : Settings.ofProperties properties with
  | error failure => simp [Harness.openDatabase, read]
  | ok settings =>
      cases checked : settings.check with
      | error failure =>
          have refused := refused_settings settings failure checked
          simp [Harness.openDatabase, read, checked, refused]
      | ok =>
          obtain ⟨opened, opening, opens, _⟩ := checked_settings settings checked
          simp [Harness.openDatabase, read, checked, opens]

theorem opened_fresh (opened : Drive.Opened)
    (opens : Harness.openDatabase properties = .ok opened) :
    ∃ opening : Opening, opened.drive = opening.drive := by
  obtain ⟨settings, read, checked⟩ := (open_verdict properties).1.mp ⟨opened, opens⟩
  obtain ⟨found, opening, openedWith, fresh⟩ := checked_settings settings checked
  simp only [Harness.openDatabase, read, openedWith] at opens
  cases opens
  exact ⟨opening, fresh⟩
end Opening

def onTable (table : String) : HarnessCall → HarnessCall
  | .read _ key names => .read table key names
  | .scan _ start count names => .scan table start count names
  | .insert _ key row => .insert table key row
  | .update _ key row => .update table key row
  | .delete _ key => .delete table key

/-- What a client sees of a call: its result and the warnings that it logged. -/
structure Seen where
  answer : Answer
  warnings : List Event

def seen {σ : Type} [Device σ] (call : HarnessCall) (store : σ) : Reply σ Seen :=
  let reply := call.run store
  { reply with answer := ⟨reply.answer, warnings reply.events⟩ }

theorem table_ignored {σ : Type} [Device σ] (table : String) (call : HarnessCall) (store : σ) :
    seen (onTable table call) store = seen call store := by
  cases call <;> rfl

/-- A call with the tables on which two runs make it. -/
structure Paired where
  call : HarnessCall
  here : String
  there : String

def Paired.first {σ : Type} [Device σ] (paired : Paired) : σ → Reply σ Seen :=
  seen (onTable paired.here paired.call)

def Paired.second {σ : Type} [Device σ] (paired : Paired) : σ → Reply σ Seen :=
  seen (onTable paired.there paired.call)

section Twins
variable {τ υ : Type} [EntryMap τ] [EntryMap υ]

def Alike (entries : τ) (others : υ) : Prop := ∀ key, find? entries key = find? others key

variable [LawfulEntryMap τ] [LawfulEntryMap υ]
variable (call : HarnessCall) (entries : τ) (others : υ) (alike : Alike entries others)
include alike

theorem warnings_alike :
    warnings (call.run entries).events = warnings (call.run others).events := by
  cases under : underHarness call with
  | none =>
      cases call with
      | scan => rfl
      | read | insert | update | delete => cases under
  | some row =>
      rw [harness_warnings call row under, harness_warnings call row under]
      have answered := call_same (.row row) entries others fun key _ => alike key
      exact congrArg (warned row) answered

theorem seen_alike :
    (seen call entries).answer = (seen call others).answer ∧
      Alike (seen call entries).state (seen call others).state := by
  have same : ∀ key, touched (.harness call) = some key → find? entries key = find? others key :=
    fun key _ => alike key
  constructor
  · have answered : (call.run entries).answer = (call.run others).answer :=
      call_same (.harness call) entries others same
    simp only [seen, answered, warnings_alike call entries others alike]
  · intro key
    exact call_entry_same (.harness call) entries others same key (alike key)
end Twins

/-- Fresh drives of any backend, with any number of shards and any placement of keys in them, show
the same to every run. -/
theorem openings_alike (opening other : Opening) (calls : List Paired) :
    answers Paired.first calls opening.drive = answers Paired.second calls other.drive := by
  have step : ∀ (paired : Paired) (drive twin : Drive), Alike drive twin →
      (paired.first drive).answer = (paired.second twin).answer ∧
        Alike (paired.first drive).state (paired.second twin).state := by
    intro paired drive twin alike
    simp only [Paired.first, Paired.second, table_ignored]
    exact seen_alike paired.call drive twin alike
  have start : Alike opening.drive other.drive := by
    intro key
    rw [opening_empty, opening_empty]
  exact (runs_agree Paired.first Paired.second Alike step calls _ _ start).1

/-- Properties open a database if and only if they spell settings that pass their check, and the
first of the two to fail gives the error. Beyond that neither they nor the tables of the calls show in
what a run of calls returns and warns of. -/
theorem databases_alike (properties others : Properties) :
    ((∃ opened, Harness.openDatabase properties = .ok opened) ↔
        ∃ settings, Settings.ofProperties properties = .ok settings ∧ settings.check = .ok ()) ∧
      (∀ failure, Harness.openDatabase properties = .error failure ↔
        Settings.ofProperties properties = .error failure ∨
          ∃ settings, Settings.ofProperties properties = .ok settings ∧
            settings.check = .error failure) ∧
      ∀ opened twin, Harness.openDatabase properties = .ok opened →
        Harness.openDatabase others = .ok twin →
        ∀ calls : List Paired,
          answers Paired.first calls opened.drive = answers Paired.second calls twin.drive := by
  obtain ⟨accepted, refused⟩ := open_verdict properties
  refine ⟨accepted, refused, ?_⟩
  intro opened twin opens twinOpens calls
  obtain ⟨opening, fresh⟩ := opened_fresh properties opened opens
  obtain ⟨other, otherFresh⟩ := opened_fresh others twin twinOpens
  rw [fresh, otherFresh]
  exact openings_alike opening other calls

def padded : Properties :=
  [("kvssd.shard_amount", " +0016\n"), ("kvssd.backend", "\u00a0sharded"), ("table", "t")]

-- The last two calls fail: a key that is gone, and one that is too short.
def probe : List Paired :=
  [⟨.insert "" "user" [⟨"a", "b"⟩], "t", "u"⟩, ⟨.delete "" "user", "v", "t"⟩,
    ⟨.read "" "user" none, "t", "t"⟩, ⟨.update "" "abc" [], "", "t"⟩]

theorem databases_alike_padded :
    ∃ opened twin, Harness.openDatabase padded = .ok opened ∧
      Harness.openDatabase [] = .ok twin ∧
      answers Paired.first probe opened.drive = answers Paired.second probe twin.drive := by
  obtain ⟨accepted, _, alike⟩ := databases_alike padded []
  obtain ⟨opened, opens⟩ := accepted.mpr ⟨⟨.sharded, 16⟩, rfl, rfl⟩
  obtain ⟨twin, twinOpens⟩ := (databases_alike [] padded).1.mpr ⟨{}, rfl, rfl⟩
  exact ⟨opened, twin, opens, twinOpens, alike opened twin opens twinOpens probe⟩

end FlashStore.DatabaseTwins

/-! Threads -/

namespace FlashStore.DisjointThreads
open CallLocality CallRuns DriveCalls

/-- Threads over one store: what each has still to do and what it was answered so far. -/
structure System (n : Nat) (σ : Type) where
  store : σ
  left : Fin n → List Call
  received : Fin n → List Answer

section Machine
variable {n : Nat} {σ : Type} [Device σ]

def start (threads : Fin n → List Call) (store : σ) : System n σ :=
  ⟨store, threads, fun _ => []⟩

def turn (system : System n σ) (thread : Fin n) : System n σ :=
  match system.left thread with
  | [] => system
  | call :: rest =>
    let reply := call.run system.store
    { store := reply.state
      left := Function.update system.left thread rest
      received :=
        Function.update system.received thread (system.received thread ++ [reply.answer]) }

def play : List (Fin n) → System n σ → System n σ
  | [], system => system
  | thread :: schedule, system => play schedule (turn system thread)

/-- The schedule gives each thread a turn for each of its calls. -/
def Interleaves (threads : Fin n → List Call) (schedule : List (Fin n)) : Prop :=
  ∀ thread, schedule.count thread = (threads thread).length

instance (threads : Fin n → List Call) (schedule : List (Fin n)) :
    Decidable (Interleaves threads schedule) :=
  inferInstanceAs (Decidable (∀ thread, schedule.count thread = (threads thread).length))

theorem turn_next (system : System n σ) (thread : Fin n) (call : Call) (rest : List Call)
    (next : system.left thread = call :: rest) :
    turn system thread =
      { store := (call.run system.store).state
        left := Function.update system.left thread rest
        received := Function.update system.received thread
          (system.received thread ++ [(call.run system.store).answer]) } := by
  simp only [turn, next]

theorem turn_left (system : System n σ) (thread other : Fin n) :
    (turn system thread).left other =
      if thread = other then (system.left other).drop 1 else system.left other := by
  unfold turn
  split
  · next finished =>
    by_cases same : thread = other
    · subst same
      simp [finished]
    · simp [same]
  · next call rest next =>
    by_cases same : thread = other
    · subst same
      simp [next]
    · simp [same, Function.update_of_ne (Ne.symm same)]

theorem play_left (schedule : List (Fin n)) (system : System n σ) (thread : Fin n) :
    (play schedule system).left thread = (system.left thread).drop (schedule.count thread) := by
  induction schedule generalizing system with
  | nil => rfl
  | cons first rest ih =>
      rw [play, ih, turn_left, List.count_cons]
      by_cases same : first = thread
      · simp [same]
      · simp [same]
end Machine

/-- The key contents that calls reach. -/
def contents (calls : List Call) : List Bytes := calls.filterMap touched

/-- No key content is used by two threads. -/
def Apart {n : Nat} (threads : Fin n → List Call) : Prop :=
  ∀ one other, ∀ key ∈ contents (threads one), key ∈ contents (threads other) → one = other

instance {n : Nat} (threads : Fin n → List Call) : Decidable (Apart threads) :=
  inferInstanceAs (Decidable (∀ one other, ∀ key ∈ contents (threads one),
    key ∈ contents (threads other) → one = other))

theorem touched_contents (call : Call) (calls : List Call) (member : call ∈ calls) (key : Bytes)
    (touches : touched call = some key) : key ∈ contents calls :=
  List.mem_filterMap.mpr ⟨call, member, touches⟩

section Alone
variable {τ : Type} [EntryMap τ] [LawfulEntryMap τ]

theorem leaves_frame (calls : List Call) (entries : τ) (key : Bytes)
    (apart : key ∉ contents calls) :
    find? (leaves Call.run calls entries) key = find? entries key := by
  induction calls generalizing entries with
  | nil => rfl
  | cons call rest ih =>
      have untouched : touched call ≠ some key :=
        fun touches => apart (touched_contents call _ List.mem_cons_self key touches)
      have elsewhere : key ∉ contents rest := by
        intro member
        obtain ⟨later, within, touches⟩ := List.mem_filterMap.mp member
        exact apart (touched_contents later _ (List.mem_cons_of_mem call within) key touches)
      rw [leaves, ih _ elsewhere, call_frame call entries key untouched]
end Alone

theorem sum_moved {n : Nat} (before after : Fin n → Nat) (thread : Fin n)
    (others : ∀ other, other ≠ thread → after other = before other) :
    ∑ other, after other + before thread = ∑ other, before other + after thread := by
  have same : ∑ other ∈ Finset.univ.erase thread, after other =
      ∑ other ∈ Finset.univ.erase thread, before other :=
    Finset.sum_congr rfl fun other member => others other (Finset.ne_of_mem_erase member)
  rw [← Finset.add_sum_erase Finset.univ after (Finset.mem_univ thread),
    ← Finset.add_sum_erase Finset.univ before (Finset.mem_univ thread), same]
  omega

section Sharing
variable {n : Nat} {τ : Type} [EntryMap τ]

/-- The threads together are where each is alone after the same calls. -/
structure Together (fresh : τ) (threads made : Fin n → List Call) (system : System n τ) : Prop where
  split : ∀ thread, threads thread = made thread ++ system.left thread
  received : ∀ thread, system.received thread = answers Call.run (made thread) fresh
  owned : ∀ thread, ∀ key ∈ contents (threads thread),
    find? system.store key = find? (leaves Call.run (made thread) fresh) key
  unowned : ∀ key, (∀ thread, key ∉ contents (threads thread)) → find? system.store key = none
  counted : count system.store = ∑ thread, count (leaves Call.run (made thread) fresh)

variable (fresh : τ) (threads made : Fin n → List Call) (system : System n τ)

theorem start_together (empty : ∀ key, find? fresh key = none) (zero : count fresh = 0) :
    Together fresh threads (fun _ => []) (start threads fresh) where
  split _ := rfl
  received _ := rfl
  owned _ _ _ := rfl
  unowned key _ := empty key
  counted := by simp [start, leaves, zero]

variable [LawfulEntryMap τ] (apart : Apart threads) (together : Together fresh threads made system)
include apart together

/-- A thread's call is answered as it is alone, because all it looks at is the thread's own; and it
leaves the other threads what is theirs. -/
theorem call_together (thread : Fin n) (call : Call) (rest : List Call)
    (next : system.left thread = call :: rest) :
    Together fresh threads (Function.update made thread (made thread ++ [call]))
      (turn system thread) := by
  have member : call ∈ threads thread := by simp [together.split thread, next]
  have mine : ∀ key, touched call = some key → key ∈ contents (threads thread) :=
    touched_contents call (threads thread) member
  have same : ∀ key, touched call = some key →
      find? system.store key = find? (leaves Call.run (made thread) fresh) key :=
    fun key touches => together.owned thread key (mine key touches)
  rw [turn_next system thread call rest next]
  refine { split := ?split, received := ?received, owned := ?owned, unowned := ?unowned,
           counted := ?counted }
  case split =>
    intro other
    rcases eq_or_ne other thread with rfl | different
    · simp [together.split other, next]
    · simp [Function.update_of_ne different, together.split other]
  case received =>
    intro other
    rcases eq_or_ne other thread with rfl | different
    · simp [answers_snoc, together.received other, call_same call _ _ same]
    · simp [Function.update_of_ne different, together.received other]
  case owned =>
    intro other key owned
    rcases eq_or_ne other thread with rfl | different
    · rw [Function.update_self, leaves_snoc]
      exact call_entry_same call _ _ same key (together.owned other key owned)
    · have untouched : touched call ≠ some key :=
        fun touches => different (apart other thread key owned (mine key touches))
      rw [Function.update_of_ne different, call_frame call _ key untouched]
      exact together.owned other key owned
  case unowned =>
    intro key nobody
    have untouched : touched call ≠ some key := fun touches => nobody thread (mine key touches)
    rw [call_frame call _ key untouched]
    exact together.unowned key nobody
  case counted =>
    -- The shared count and the thread's own move by the same amount, and no other count moves.
    have shared := call_count_same call system.store _ same
    have sums := sum_moved (fun other => count (leaves Call.run (made other) fresh))
      (fun other => count (leaves Call.run
        (Function.update made thread (made thread ++ [call]) other) fresh)) thread
      (fun other different => by simp only [Function.update_of_ne different])
    have before := together.counted
    simp only [Function.update_self, leaves_snoc] at sums
    show count (call.run system.store).state = _
    omega

theorem turn_together (thread : Fin n) :
    ∃ later, Together fresh threads later (turn system thread) := by
  cases next : system.left thread with
  | nil =>
      refine ⟨made, ?_⟩
      simpa only [turn, next] using together
  | cons call rest =>
      exact ⟨_, call_together fresh threads made system apart together thread call rest next⟩

theorem play_together (schedule : List (Fin n)) :
    ∃ later, Together fresh threads later (play schedule system) := by
  induction schedule generalizing made system with
  | nil => exact ⟨made, together⟩
  | cons thread rest ih =>
      obtain ⟨later, next⟩ := turn_together fresh threads made system apart together thread
      exact ih later _ next
end Sharing

/-- Whatever the schedule, threads on disjoint key contents are answered as each would be alone, and
they leave in the shared store what each would leave alone, entry by entry and in number. -/
theorem threads_as_alone (opening : Opening) (n : Nat) (threads : Fin n → List Call)
    (schedule : List (Fin n)) (apart : Apart threads) (interleaves : Interleaves threads schedule) :
    (∀ thread, (play schedule (start threads opening.drive)).received thread =
        answers Call.run (threads thread) opening.drive) ∧
      (∀ key value, find? (play schedule (start threads opening.drive)).store key = some value ↔
        ∃ thread, find? (leaves Call.run (threads thread) opening.drive) key = some value) ∧
      (∀ one other key, (find? (leaves Call.run (threads one) opening.drive) key).isSome →
        (find? (leaves Call.run (threads other) opening.drive) key).isSome → one = other) ∧
      count (play schedule (start threads opening.drive)).store =
        ∑ thread, count (leaves Call.run (threads thread) opening.drive) := by
  obtain ⟨made, together⟩ := play_together opening.drive threads _ _ apart
    (start_together opening.drive threads (opening_empty opening) (opening_count opening)) schedule
  -- Every thread has had a turn for each of its calls, so it has made all of them.
  have finished : made = threads := by
    funext thread
    have nothing_left : (play schedule (start threads opening.drive)).left thread = [] := by
      rw [play_left, interleaves thread]
      exact List.drop_length
    rw [together.split thread, nothing_left, List.append_nil]
  subst finished
  -- The drive was fresh, so a thread alone holds nothing but under its own contents.
  have owner : ∀ thread key, (find? (leaves Call.run (made thread) opening.drive) key).isSome →
      key ∈ contents (made thread) := by
    intro thread key present
    by_contra elsewhere
    rw [leaves_frame _ _ key elsewhere, opening_empty] at present
    cases present
  refine ⟨together.received, ?_, ?_, together.counted⟩
  · intro key value
    constructor
    · intro found
      by_cases nobody : ∀ thread, key ∉ contents (made thread)
      · rw [together.unowned key nobody] at found
        cases found
      · obtain ⟨thread, owned⟩ := not_forall_not.mp nobody
        exact ⟨thread, (together.owned thread key owned).symm.trans found⟩
    · rintro ⟨thread, found⟩
      have owned := owner thread key (by rw [found]; rfl)
      exact (together.owned thread key owned).trans found
  · intro one other key oneHolds otherHolds
    exact apart one other key (owner one key oneHolds) (owner other key otherHolds)

def twoThreads : Fin 2 → List Call :=
  ![[.row (.insert "user" [⟨"a", "b"⟩]), .harness (.delete "" "abc")],
    [.row (.read "abc"), .harness (.insert "" "user1" []), .device (.delete (.ofText "user1"))]]

theorem threads_as_alone_mixed :
    Apart twoThreads ∧ Interleaves twoThreads [1, 0, 1, 1, 0] ∧
      (∀ thread, (play [1, 0, 1, 1, 0] (start twoThreads
          (Opening.sharded 4 UInt64.toNat).drive)).received thread =
        answers Call.run (twoThreads thread) (Opening.sharded 4 UInt64.toNat).drive) ∧
      count (play [1, 0, 1, 1, 0] (start twoThreads (Opening.sharded 4 UInt64.toNat).drive)).store =
        ∑ thread, count (leaves Call.run (twoThreads thread) (Opening.sharded 4 UInt64.toNat).drive) := by
  obtain ⟨received, _, _, counted⟩ := threads_as_alone (.sharded 4 UInt64.toNat) 2 twoThreads
    [1, 0, 1, 1, 0] (by decide) (by decide)
  exact ⟨by decide, by decide, received, counted⟩

end FlashStore.DisjointThreads
