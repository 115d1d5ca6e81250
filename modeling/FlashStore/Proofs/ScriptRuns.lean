import FlashStore.Proofs.RowCalls
import Mathlib.Logic.Function.Basic

/-!
Runs of scripts. A script passes from one state to another if each of its steps goes as it must on
the state that the one before left. A run that passes reports every step; a run whose front passes
and whose next step deviates ends there, with that step's deviation and the state behind it. A round
is a script with one step for each index below a bound. Which device is behind the steps does not
matter to that. On an emulated drive a step goes as it must exactly by what stands under its key,
and then changes nothing but the entry of this key.

The literal run starts on entries that may hold anything. If its two keys are free, every step
passes; at the end the first key holds the second version of the row, and the second key is free
again. A key that is taken stops the run at its insert, which is the first or the second step, and
what was there stays as it was.
-/

namespace FlashStore.ScriptRuns
open DriveCalls RequestChecks RowCalls Smoke

section Scripts
variable {σ : Type} [Device σ] {narration : Narration}

inductive Passes (narration : Narration) : List Step → σ → σ → Prop where
  | nil (store : σ) : Passes narration [] store store
  | cons {step : Step} {script : List Step} {store last : σ}
      (expected : (step.run narration store).answer = .ok ())
      (rest : Passes narration script (step.run narration store).state last) :
      Passes narration (step :: script) store last

theorem passes_append {front back : List Step} {first middle last : σ}
    (one : Passes narration front first middle) (other : Passes narration back middle last) :
    Passes narration (front ++ back) first last := by
  induction one with
  | nil => exact other
  | cons expected _ ih => exact .cons expected (ih other)

theorem passes_one (step : Step) (store : σ)
    (expected : (step.run narration store).answer = .ok ()) :
    Passes narration [step] store (step.run narration store).state :=
  .cons expected (.nil _)

/-- A round passes if each of its steps turns what stands at its own index into something new. What
is shown of a state may depend on the number of steps made. -/
theorem round_turns {α : Type} (step : Nat → Step) (old new : Nat → α)
    (shown : Nat → (Nat → α) → σ → Prop) (rows : Nat) (store : σ) (start : shown 0 old store)
    (turns : ∀ index < rows, ∀ held store, shown index held store → held index = old index →
      ((step index).run narration store).answer = .ok () ∧
        shown (index + 1) (Function.update held index (new index))
          ((step index).run narration store).state) :
    ∃ last, Passes narration ((List.range rows).map step) store last ∧
      shown rows (fun index => if index < rows then new index else old index) last := by
  -- The induction is on the number of steps made; what stands at the later indexes is still old.
  induction rows with
  | zero => exact ⟨store, .nil store, by simpa using start⟩
  | succ made ih =>
      obtain ⟨middle, passes, begun⟩ :=
        ih fun index below => turns index (Nat.lt_succ_of_lt below)
      obtain ⟨passed, next⟩ := turns made (Nat.lt_succ_self made) _ middle begun (by simp)
      refine ⟨((step made).run narration middle).state, ?_, ?_⟩
      · rw [List.range_succ, List.map_append]
        exact passes_append passes (passes_one (step made) middle passed)
      · have grown : Function.update (fun index => if index < made then new index else old index)
            made (new made) = fun index => if index < made + 1 then new index else old index := by
          funext index
          rcases Nat.lt_trichotomy index made with before | rfl | after
          · simp [Function.update_of_ne (Nat.ne_of_lt before), before, Nat.lt_succ_of_lt before]
          · simp
          · have later : ¬ index < made + 1 := by omega
            simp [Function.update_of_ne (Nat.ne_of_gt after), Nat.not_lt_of_gt after, later]
        rw [← grown]
        exact next

theorem round_split (step : Nat → Step) (rows index : Nat) (within : index < rows) :
    ∃ back, (List.range rows).map step = (List.range index).map step ++ step index :: back := by
  obtain ⟨more, rfl⟩ : ∃ more, rows = index + (more + 1) := ⟨rows - index - 1, by omega⟩
  exact ⟨_, by rw [List.range_add, List.map_append, List.range_succ_eq_map]; rfl⟩

theorem playFrom_cons (report : Report) (logged : List Event) (step : Step) (script : List Step)
    (store : σ) (expected : (step.run narration store).answer = .ok ()) :
    playFrom narration report logged (step :: script) store =
      playFrom narration (report.count step)
        ((step.run narration store).events.reverseAux logged) script
        (step.run narration store).state := by
  rw [playFrom]
  rcases same : step.run narration store with ⟨answer, events, next⟩
  rw [same] at expected
  cases expected
  rfl

theorem playFrom_passes (front back : List Step) (store middle : σ)
    (passes : Passes narration front store middle) (report : Report) (logged : List Event) :
    ∃ told, playFrom narration report logged (front ++ back) store =
      playFrom narration (front.foldl Report.count report) told back middle := by
  -- What is logged on the way is carried along and decides nothing, hence the existential.
  induction passes generalizing report logged with
  | nil => exact ⟨logged, rfl⟩
  | cons expected _ ih =>
      rw [List.cons_append, playFrom_cons report logged _ _ _ expected]
      exact ih _ _

theorem play_passes (script : List Step) (store last : σ)
    (passes : Passes narration script store last) :
    (play narration script store).answer = .ok (script.foldl Report.count {}) ∧
      (play narration script store).state = last := by
  obtain ⟨told, played⟩ := playFrom_passes script [] store last passes {} []
  rw [List.append_nil] at played
  rw [play, played]
  exact ⟨rfl, rfl⟩

theorem play_stops (front back : List Step) (step : Step) (store middle : σ) (deviation : Deviation)
    (passes : Passes narration front store middle)
    (stopped : (step.run narration middle).answer = .error deviation) :
    (play narration (front ++ step :: back) store).answer = .error deviation ∧
      (play narration (front ++ step :: back) store).state = (step.run narration middle).state := by
  obtain ⟨told, played⟩ := playFrom_passes front (step :: back) store middle passes {} []
  rw [play, played, playFrom]
  rcases same : step.run narration middle with ⟨answer, events, next⟩
  rw [same] at stopped
  cases stopped
  exact ⟨rfl, rfl⟩

/-- There is no third way for a run to go. -/
theorem passes_or_deviates (narration : Narration) (script : List Step) (store : σ) :
    (∃ last, Passes narration script store last) ∨
      ∃ front step back middle deviation, script = front ++ step :: back ∧
        Passes narration front store middle ∧
        (step.run narration middle).answer = .error deviation := by
  induction script generalizing store with
  | nil => exact .inl ⟨store, .nil store⟩
  | cons step rest ih =>
      cases outcome : (step.run narration store).answer with
      | error deviation =>
          exact .inr ⟨[], step, rest, store, deviation, rfl, .nil store, outcome⟩
      | ok =>
          rcases ih (step.run narration store).state with
            ⟨last, passes⟩ | ⟨front, later, back, middle, deviation, rfl, passes, deviates⟩
          · exact .inl ⟨last, .cons outcome passes⟩
          · exact .inr ⟨step :: front, later, back, middle, deviation, rfl,
              .cons outcome passes, deviates⟩

theorem playBulk_play (store : σ) (rows : Nat) :
    (playBulk store rows).answer = (play .silent (bulkScript rows) store).answer ∧
      (playBulk store rows).state = (play .silent (bulkScript rows) store).state := by
  rw [playBulk]
  rcases play .silent (bulkScript rows) store with ⟨answer, events, last⟩
  cases answer <;> exact ⟨rfl, rfl⟩
end Scripts

def failing : Step → Bool
  | .missing _ => true
  | _ => false

theorem count_script (script : List Step) (report : Report) :
    script.foldl Report.count report =
      { operations := report.operations + script.length
        expectedFailures := report.expectedFailures + script.countP failing } := by
  induction script generalizing report with
  | nil => rfl
  | cons step rest ih =>
      rw [List.foldl_cons, ih]
      cases step <;>
        simp [Report.count, failing, List.countP_cons, Nat.add_comm, Nat.add_left_comm]

section Steps
variable {τ : Type} [EntryMap τ] (narration : Narration) (entries : τ) (key : String)

theorem expect_passes (row : Row) (value : StoredValue) (fits : KeyFits key)
    (found : find? entries (Bytes.ofText key) = some value)
    (decoded : Row.decode value.bytes = .ok row) :
    ((Step.expect key row).run narration entries).answer = .ok () ∧
      ((Step.expect key row).run narration entries).state = entries := by
  simp [Step.run, read_row_exact, fits, found, decoded]

theorem expect_deviates (row actual : Row) (value : StoredValue) (fits : KeyFits key)
    (found : find? entries (Bytes.ofText key) = some value)
    (decoded : Row.decode value.bytes = .ok actual) (wrong : actual ≠ row) :
    ((Step.expect key row).run narration entries).answer =
      .error (.mismatch ("read " ++ key) row actual) := by
  simp [Step.run, read_row_exact, fits, found, decoded, wrong, Step.name]

theorem missing_passes (fits : KeyFits key) (absent : find? entries (Bytes.ofText key) = none) :
    ((Step.missing key).run narration entries).answer = .ok () ∧
      ((Step.missing key).run narration entries).state = entries := by
  simp [Step.run, read_row_exact, fits, absent, RowError.message]

theorem delete_passes (fits : KeyFits key)
    (present : (find? entries (Bytes.ofText key)).isSome = true) :
    ((Step.delete key).run narration entries).answer = .ok () ∧
      ((Step.delete key).run narration entries).state = erase entries (Bytes.ofText key) := by
  simp [Step.run, Step.demand, delete_row_exact, fits, present]

variable [LawfulEntryMap τ] (row : Row) (blob : Bytes)

theorem insert_passes (fits : KeyFits key) (encoded : row.encode = .ok blob)
    (small : blob.length ≤ 2097152) (absent : find? entries (Bytes.ofText key) = none) :
    ((Step.insert key row).run narration entries).answer = .ok () ∧
      ((Step.insert key row).run narration entries).state =
        put entries (Bytes.ofText key) (kept (.ofBytes blob)) := by
  simp [Step.run, Step.demand, RowStore.insert,
    fitting_write_exact .insert entries key row blob encoded fits small, absent, admits]

theorem insert_stops (fits : KeyFits key) (encoded : row.encode = .ok blob)
    (small : blob.length ≤ 2097152) (present : (find? entries (Bytes.ofText key)).isSome = true) :
    ((Step.insert key row).run narration entries).answer =
        .error (.failed ("insert " ++ key) (.device .keyAlreadyExists)) ∧
      ((Step.insert key row).run narration entries).state = entries := by
  simp [Step.run, Step.demand, RowStore.insert,
    fitting_write_exact .insert entries key row blob encoded fits small, present, admits, conflict,
    Step.name]

theorem update_passes (fits : KeyFits key) (encoded : row.encode = .ok blob)
    (small : blob.length ≤ 2097152) (present : (find? entries (Bytes.ofText key)).isSome = true) :
    ((Step.update key row).run narration entries).answer = .ok () ∧
      ((Step.update key row).run narration entries).state =
        put entries (Bytes.ofText key) (kept (.ofBytes blob)) := by
  simp [Step.run, Step.demand, RowStore.update,
    fitting_write_exact .update entries key row blob encoded fits small, present, admits]
end Steps

end FlashStore.ScriptRuns

/-! The literal run -/

namespace FlashStore.LiteralRuns
open DriveCalls RequestChecks RowBlobs RowCalls ScriptRuns Smoke

def firstKey : Bytes := Bytes.ofText "key1"
def secondKey : Bytes := Bytes.ofText "key2"

theorem keys_differ : firstKey ≠ secondKey := by decide

structure Written (row : Row) (blob : Bytes) : Prop where
  encoded : row.encode = .ok blob
  decoded : Row.decode blob = .ok row
  small : blob.length ≤ 2097152

theorem version_written (version : Nat) (known : version = 1 ∨ version = 2) :
    ∃ blob, Written (literalRow version) blob := by
  have fits : Fits (literalRow version) := by
    rcases known with rfl | rfl <;> decide
  rcases encode_spells (literalRow version) fits with ⟨blob, encoded, spelled⟩
  refine ⟨blob, encoded, spelled_decodes _ blob spelled, ?_⟩
  rw [length_spelled _ blob spelled]
  rcases known with rfl | rfl <;> decide

section Runs
variable {τ : Type} [EntryMap τ]

/-- The entries are those of `base`, but for the two keys, which hold the blobs that are given. -/
structure Stands (base : τ) (one two : Option Bytes) (entries : τ) : Prop where
  first : find? entries firstKey = one.map fun blob => kept (.ofBytes blob)
  second : find? entries secondKey = two.map fun blob => kept (.ofBytes blob)
  others : ∀ key, firstKey ≠ key → secondKey ≠ key → find? entries key = find? base key
  counted : count entries = count base + one.toList.length + two.toList.length

variable (base entries : τ) (one two : Option Bytes) (blob : Bytes) (narration : Narration)

theorem base_stands (firstFree : find? base firstKey = none)
    (secondFree : find? base secondKey = none) : Stands base none none base :=
  ⟨firstFree, secondFree, fun _ _ _ => rfl, rfl⟩

structure Gains (base : τ) (key : Bytes) (value : StoredValue) (entries : τ) : Prop where
  entry : ∀ other, find? entries other = if key = other then some value else find? base other
  counted : count entries = count base + 1

theorem stands_gains (secondFree : find? base secondKey = none)
    (stands : Stands base (some blob) none entries) :
    Gains base firstKey (kept (.ofBytes blob)) entries where
  entry other := by
    by_cases first : firstKey = other
    · rw [if_pos first, ← first, stands.first, Option.map_some]
    · rw [if_neg first]
      by_cases second : secondKey = other
      · rw [← second, stands.second, secondFree, Option.map_none]
      · exact stands.others other first second
  counted := stands.counted

section Moves
variable [LawfulEntryMap τ] (stands : Stands base one two entries)
include stands

theorem first_put :
    Stands base (some blob) two (put entries firstKey (kept (.ofBytes blob))) where
  first := by rw [LawfulEntryMap.find?_put, if_pos rfl, Option.map_some]
  second := by rw [LawfulEntryMap.find?_put, if_neg keys_differ, stands.second]
  others key notFirst notSecond := by
    rw [LawfulEntryMap.find?_put, if_neg notFirst, stands.others key notFirst notSecond]
  counted := by
    rw [LawfulEntryMap.count_put, stands.first, stands.counted]
    cases one with
    | none =>
        simp
        omega
    | some old => simp

theorem second_put :
    Stands base one (some blob) (put entries secondKey (kept (.ofBytes blob))) where
  first := by rw [LawfulEntryMap.find?_put, if_neg keys_differ.symm, stands.first]
  second := by rw [LawfulEntryMap.find?_put, if_pos rfl, Option.map_some]
  others key notFirst notSecond := by
    rw [LawfulEntryMap.find?_put, if_neg notSecond, stands.others key notFirst notSecond]
  counted := by
    rw [LawfulEntryMap.count_put, stands.second, stands.counted]
    cases two <;> simp

theorem second_erased : Stands base one none (erase entries secondKey) where
  first := by rw [LawfulEntryMap.find?_erase, if_neg keys_differ.symm, stands.first]
  second := by rw [LawfulEntryMap.find?_erase, if_pos rfl, Option.map_none]
  others key notFirst notSecond := by
    rw [LawfulEntryMap.find?_erase, if_neg notSecond, stands.others key notFirst notSecond]
  counted := by
    rw [LawfulEntryMap.count_erase, stands.second, stands.counted]
    cases two <;> simp
end Moves

theorem passes_then {script : List Step} {last : τ} (step : Step) (next : τ)
    (passed : (step.run narration entries).answer = .ok () ∧
      (step.run narration entries).state = next)
    (rest : Passes narration script next last) : Passes narration (step :: script) entries last := by
  rcases passed with ⟨expected, rfl⟩
  exact .cons expected rest

theorem read_passes (key : String) (row : Row) (fits : KeyFits key) (written : Written row blob)
    (holds : find? entries (Bytes.ofText key) = some (kept (.ofBytes blob))) :
    ((Step.expect key row).run narration entries).answer = .ok () ∧
      ((Step.expect key row).run narration entries).state = entries := by
  apply expect_passes narration entries key row _ fits holds
  rw [kept_bytes blob written.small]
  exact written.decoded

variable [LawfulEntryMap τ]

theorem literal_passes (firstFree : find? base firstKey = none)
    (secondFree : find? base secondKey = none) :
    ∃ last blob, Passes narration literalScript base last ∧ Written (literalRow 2) blob ∧
      Stands base (some blob) none last := by
  rcases version_written 1 (.inl rfl) with ⟨old, oldWritten⟩
  rcases version_written 2 (.inr rfl) with ⟨new, newWritten⟩
  have firstFits : KeyFits "key1" := by decide
  have secondFits : KeyFits "key2" := by decide
  -- What is left by the two inserts, the update and the delete; a read leaves what it finds.
  have start := base_stands base firstFree secondFree
  have first := first_put base base none none old start
  have second := second_put base _ _ _ new first
  have updated := first_put base _ _ _ new second
  have deleted := second_erased base _ _ _ updated
  refine ⟨_, new, ?_, newWritten, deleted⟩
  apply passes_then
  · exact insert_passes narration _ "key1" _ old firstFits oldWritten.encoded oldWritten.small
      start.first
  apply passes_then
  · exact insert_passes narration _ "key2" _ new secondFits newWritten.encoded newWritten.small
      first.second
  apply passes_then
  · exact read_passes _ old narration "key1" _ firstFits oldWritten second.first
  apply passes_then
  · exact read_passes _ new narration "key2" _ secondFits newWritten second.second
  apply passes_then
  · exact update_passes narration _ "key1" _ new firstFits newWritten.encoded newWritten.small
      (congrArg Option.isSome second.first)
  apply passes_then
  · exact read_passes _ new narration "key1" _ firstFits newWritten updated.first
  apply passes_then
  · exact read_passes _ new narration "key2" _ secondFits newWritten updated.second
  apply passes_then
  · exact delete_passes narration _ "key2" secondFits
      (congrArg Option.isSome updated.second)
  apply passes_then
  · exact read_passes _ new narration "key1" _ firstFits newWritten deleted.first
  apply passes_then
  · exact missing_passes narration _ "key2" secondFits deleted.second
  exact .nil _

theorem literal_ends (firstFree : find? base firstKey = none)
    (secondFree : find? base secondKey = none) :
    (playLiteral base).answer = .ok ⟨10, 1⟩ ∧
      ∃ blob, Written (literalRow 2) blob ∧ Stands base (some blob) none (playLiteral base).state := by
  obtain ⟨last, blob, passes, written, stands⟩ := literal_passes base .full firstFree secondFree
  obtain ⟨reported, ended⟩ := play_passes literalScript base last passes
  rw [playLiteral, reported, ended, count_script]
  exact ⟨rfl, blob, written, stands⟩

theorem first_stops (taken : (find? base firstKey).isSome = true) :
    (playLiteral base).answer = .error (.failed "insert key1" (.device .keyAlreadyExists)) ∧
      (playLiteral base).state = base := by
  obtain ⟨blob, written⟩ := version_written 1 (.inl rfl)
  obtain ⟨stopped, stays⟩ := insert_stops .full base "key1" (literalRow 1) blob (by decide)
    written.encoded written.small taken
  obtain ⟨answered, ended⟩ := play_stops [] literalScript.tail _ base base _ (.nil base) stopped
  exact ⟨answered, ended.trans stays⟩

theorem second_stops (firstFree : find? base firstKey = none)
    (taken : (find? base secondKey).isSome = true) :
    (playLiteral base).answer = .error (.failed "insert key2" (.device .keyAlreadyExists)) ∧
      ∃ blob, Written (literalRow 1) blob ∧
        (playLiteral base).state = put base firstKey (kept (.ofBytes blob)) := by
  obtain ⟨old, oldWritten⟩ := version_written 1 (.inl rfl)
  obtain ⟨new, newWritten⟩ := version_written 2 (.inr rfl)
  obtain ⟨passed, next⟩ := insert_passes .full base "key1" (literalRow 1) old (by decide)
    oldWritten.encoded oldWritten.small firstFree
  have passes : Passes .full [.insert "key1" (literalRow 1)] base
      (put base firstKey (kept (.ofBytes old))) := by
    have one := passes_one (.insert "key1" (literalRow 1)) base passed
    rwa [next] at one
  -- The first row stands under the other key, so what was under the second is still there.
  have still : (find? (put base firstKey (kept (.ofBytes old))) secondKey).isSome = true := by
    rw [LawfulEntryMap.find?_put, if_neg keys_differ]
    exact taken
  obtain ⟨stopped, stays⟩ := insert_stops .full _ "key2" (literalRow 2) new (by decide)
    newWritten.encoded newWritten.small still
  obtain ⟨answered, ended⟩ := play_stops _ literalScript.tail.tail _ base _ _ passes stopped
  exact ⟨answered, old, oldWritten, ended.trans stays⟩

theorem put_gains (key : Bytes) (value : StoredValue) (free : find? base key = none) :
    Gains base key value (put base key value) where
  entry other := LawfulEntryMap.find?_put base key other value
  counted := by simp [LawfulEntryMap.count_put, free]
end Runs

/-- Whatever a drive holds, values that are no rows included, a literal run passes exactly if both of
its keys are free, and then adds the second version of the row under the first key. If that key is
taken the run stops at its insert and changes nothing; if only the second key is taken, the run stops
at that insert and leaves the first version under the first key. -/
theorem literal_run_exact (drive : Drive) :
    (∀ report, (playLiteral drive).answer = .ok report ↔
      report = ⟨10, 1⟩ ∧ find? drive firstKey = none ∧ find? drive secondKey = none) ∧
    (find? drive firstKey = none → find? drive secondKey = none →
      ∃ blob, (literalRow 2).encode = .ok blob ∧
        Gains drive firstKey ⟨blob, saturatedLength blob, 0⟩ (playLiteral drive).state) ∧
    ((find? drive firstKey).isSome →
      (playLiteral drive).answer = .error (.failed "insert key1" (.device .keyAlreadyExists)) ∧
        (playLiteral drive).state = drive) ∧
    (find? drive firstKey = none → (find? drive secondKey).isSome →
      (playLiteral drive).answer = .error (.failed "insert key2" (.device .keyAlreadyExists)) ∧
        ∃ blob, (literalRow 1).encode = .ok blob ∧
          Gains drive firstKey ⟨blob, saturatedLength blob, 0⟩ (playLiteral drive).state) := by
  refine ⟨?_, ?_, first_stops drive, ?_⟩
  · intro report
    constructor
    · intro passed
      cases first : find? drive firstKey with
      | some value =>
          obtain ⟨stopped, _⟩ := first_stops drive (congrArg Option.isSome first)
          cases stopped.symm.trans passed
      | none =>
          cases second : find? drive secondKey with
          | some value =>
              obtain ⟨stopped, _⟩ := second_stops drive first (congrArg Option.isSome second)
              cases stopped.symm.trans passed
          | none =>
              cases (literal_ends drive first second).1.symm.trans passed
              exact ⟨rfl, rfl, rfl⟩
    · rintro ⟨rfl, first, second⟩
      exact (literal_ends drive first second).1
  · intro first second
    obtain ⟨_, blob, written, stands⟩ := literal_ends drive first second
    have gains := stands_gains drive _ blob second stands
    rw [kept_whole blob written.small] at gains
    exact ⟨blob, written.encoded, gains⟩
  · intro first second
    obtain ⟨stopped, blob, written, left⟩ := second_stops drive first second
    have gains := put_gains drive firstKey (kept (.ofBytes blob)) first
    rw [← left, kept_whole blob written.small] at gains
    exact ⟨stopped, blob, written.encoded, gains⟩

def stray : Drive := put (Opening.sharded 4 UInt64.toNat).drive secondKey ⟨[9], 1, 0⟩

theorem literal_run_exact_stray :
    find? stray firstKey = none ∧ (find? stray secondKey).isSome ∧
      (playLiteral stray).answer = .error (.failed "insert key2" (.device .keyAlreadyExists)) ∧
      find? (playLiteral stray).state secondKey = some ⟨[9], 1, 0⟩ ∧
      count (playLiteral stray).state = 2 := by
  have first : find? stray firstKey = none := by
    rw [stray, LawfulEntryMap.find?_put, if_neg keys_differ.symm, opening_empty]
  have second : find? stray secondKey = some ⟨[9], 1, 0⟩ := by
    rw [stray, LawfulEntryMap.find?_put, if_pos rfl]
  have one : count stray = 1 := by
    rw [stray, LawfulEntryMap.count_put, opening_empty, opening_count]
    rfl
  have taken : (find? stray secondKey).isSome := congrArg Option.isSome second
  obtain ⟨_, _, _, stops⟩ := literal_run_exact stray
  obtain ⟨stopped, _, _, gains⟩ := stops first taken
  refine ⟨first, taken, stopped, ?_, ?_⟩
  · rw [gains.entry, if_neg keys_differ, second]
  · rw [gains.counted, one]

end FlashStore.LiteralRuns
