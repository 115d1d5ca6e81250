import FlashStore.Device.FaultSchedule
import FlashStore.Proofs.BulkRuns
import FlashStore.Proofs.CallLayers
import FlashStore.Proofs.ErrorTexts
import Mathlib.Data.List.Forall2

/-!
Smoke runs against any device at all.

Each step of a script makes one device call. Which response the step needs, and which deviation any
other is reported as, is said without the runner; whatever the device answers, a step goes by
exactly one of the two. A read of a missing key compares texts, and no other row error has the text
of a missing key.

A device with a journal passes every call on to the device behind it and takes down the call with
its answer. A client cannot tell the difference, so what a run reports is a matter of its script and
the journal alone. A run succeeds when every call of the journal got the response that its step
needs. Otherwise the journal breaks off at the first call that did not, and the deviation is that
call's.
-/

namespace FlashStore.StepVerdicts
open CallLayers ErrorTexts Smoke

def rowCall : Step → RowCall
  | .insert key row => .insert key row
  | .update key row => .update key row
  | .delete key => .delete key
  | .expect key _ | .missing key => .read key

def asked (step : Step) : Option DeviceCall := underRow (rowCall step)

def alters : Step → Bool
  | .insert _ _ | .update _ _ | .delete _ => true
  | .expect _ _ | .missing _ => false

/-- The response that a step needs. -/
inductive Expected : Step → Answer → Prop where
  | done {step : Step} (altering : alters step = true) : Expected step (.deviceDone (.ok ()))
  | same {key : String} {row : Row} {value : StoredValue}
      (decoded : Row.decode value.bytes = .ok row) :
      Expected (.expect key row) (.stored (.ok value))
  | gone {key : String} : Expected (.missing key) (.stored (.error .keyNotExist))

/-- The deviation that any other response is reported as. -/
inductive Reported : Step → Answer → Deviation → Prop where
  | refused {step : Step} {failure : ResultCode} (altering : alters step = true) :
      Reported step (.deviceDone (.error failure)) (.failed step.name (.device failure))
  | unread {key : String} {row : Row} {failure : ResultCode} :
      Reported (.expect key row) (.stored (.error failure))
        (.failed ("read " ++ key) (.device failure))
  | undecoded {key : String} {row : Row} {value : StoredValue} {failure : BlobError}
      (faulty : Row.decode value.bytes = .error failure) :
      Reported (.expect key row) (.stored (.ok value)) (.failed ("read " ++ key) (.blob failure))
  | different {key : String} {row actual : Row} {value : StoredValue}
      (decoded : Row.decode value.bytes = .ok actual) (wrong : actual ≠ row) :
      Reported (.expect key row) (.stored (.ok value)) (.mismatch ("read " ++ key) row actual)
  | otherwise {key : String} {failure : ResultCode} (other : failure ≠ .keyNotExist) :
      Reported (.missing key) (.stored (.error failure))
        (.wrongOutcome ("read " ++ key) "Key does not exist" ("error '" ++ failure.message ++ "'"))
  | unreadable {key : String} {value : StoredValue} {failure : BlobError}
      (faulty : Row.decode value.bytes = .error failure) :
      Reported (.missing key) (.stored (.ok value))
        (.wrongOutcome ("read " ++ key) "Key does not exist" ("error '" ++ failure.message ++ "'"))
  | present {key : String} {row : Row} {value : StoredValue}
      (decoded : Row.decode value.bytes = .ok row) :
      Reported (.missing key) (.stored (.ok value))
        (.wrongOutcome ("read " ++ key) "Key does not exist" (toString row.length ++ " fields"))

theorem reported_unexpected (step : Step) (response : Answer) (deviation : Deviation)
    (reported : Reported step response deviation) : ¬ Expected step response := by
  intro expected
  cases reported with
  | refused | unread => cases expected
  | undecoded faulty =>
      cases expected with
      | same decoded => cases faulty.symm.trans decoded
  | different decoded wrong =>
      cases expected with
      | same other =>
          cases decoded.symm.trans other
          exact wrong rfl
  | otherwise other =>
      cases expected
      exact other rfl
  | unreadable | present => cases expected

inductive Verdict (step : Step) (response : Answer) : Except Deviation Unit → Prop where
  | passed (expected : Expected step response) : Verdict step response (.ok ())
  | deviated {deviation : Deviation} (reported : Reported step response deviation) :
      Verdict step response (.error deviation)

theorem reported_unique (step : Step) (response : Answer) (one other : Deviation)
    (reported : Reported step response one) (again : Reported step response other) :
    one = other := by
  cases reported with
  | refused | unread | otherwise =>
      cases again
      rfl
  | undecoded faulty =>
      cases again with
      | undecoded same =>
          cases faulty.symm.trans same
          rfl
      | different decoded => cases faulty.symm.trans decoded
  | different decoded =>
      cases again with
      | undecoded faulty => cases decoded.symm.trans faulty
      | different same =>
          cases decoded.symm.trans same
          rfl
  | unreadable faulty =>
      cases again with
      | unreadable same =>
          cases faulty.symm.trans same
          rfl
      | present decoded => cases faulty.symm.trans decoded
  | present decoded =>
      cases again with
      | unreadable faulty => cases decoded.symm.trans faulty
      | present same =>
          cases decoded.symm.trans same
          rfl

theorem verdict_unique (step : Step) (response : Answer) (one other : Except Deviation Unit)
    (verdict : Verdict step response one) (again : Verdict step response other) : one = other := by
  cases verdict with
  | passed expected =>
      cases again with
      | passed => rfl
      | deviated reported => exact absurd expected (reported_unexpected step response _ reported)
  | deviated reported =>
      cases again with
      | passed expected => exact absurd expected (reported_unexpected step response _ reported)
      | deviated same => rw [reported_unique step response _ _ reported same]

theorem verdict_ok_iff (step : Step) (response : Answer) :
    Verdict step response (.ok ()) ↔ Expected step response := by
  constructor
  · intro verdict
    cases verdict with
    | passed expected => exact expected
  · exact .passed

theorem verdict_error_iff (step : Step) (response : Answer) (deviation : Deviation) :
    Verdict step response (.error deviation) ↔ Reported step response deviation := by
  constructor
  · intro verdict
    cases verdict with
    | deviated reported => exact reported
  · exact .deviated

theorem done_carried (outcome : Except RowError Unit) (answer : Except ResultCode Unit)
    (same : Answer.rowDone outcome = rowAnswer (.deviceDone answer)) :
    outcome = answer.mapError .device := by
  cases answer <;> cases same <;> rfl

def readOutcome : Except ResultCode StoredValue → Except RowError Row
  | .error failure => .error (.device failure)
  | .ok value =>
    match Row.decode value.bytes with
    | .error failure => .error (.blob failure)
    | .ok row => .ok row

theorem row_carried (outcome : Except RowError Row) (answer : Except ResultCode StoredValue)
    (same : Answer.row outcome = rowAnswer (.stored answer)) : outcome = readOutcome answer := by
  cases answer with
  | error failure =>
      cases same
      rfl
  | ok value =>
      cases same
      simp only [readOutcome]
      cases Row.decode value.bytes <;> rfl

section Steps
variable {σ : Type} (narration : Narration)

theorem demand_verdict (step : Step) (altering : alters step = true) (done : String)
    (reply : Reply σ (Except RowError Unit)) (answer : Except ResultCode Unit)
    (same : Answer.rowDone reply.answer = rowAnswer (.deviceDone answer)) :
    Verdict step (.deviceDone answer) (step.demand done narration reply).answer ∧
      (step.demand done narration reply).state = reply.state := by
  obtain ⟨outcome, events, store⟩ := reply
  obtain rfl := done_carried outcome answer same
  cases answer with
  | error failure => exact ⟨.deviated (.refused altering), rfl⟩
  | ok => exact ⟨.passed (.done altering), rfl⟩

variable [Device σ]

theorem expect_verdict (key : String) (row : Row) (store : σ)
    (answer : Except ResultCode StoredValue)
    (same : Answer.row (RowStore.read store key).answer = rowAnswer (.stored answer)) :
    Verdict (.expect key row) (.stored answer) ((Step.expect key row).run narration store).answer ∧
      ((Step.expect key row).run narration store).state = (RowStore.read store key).state := by
  have carried := row_carried _ answer same
  simp only [Step.run]
  rcases told : RowStore.read store key with ⟨outcome, events, next⟩
  rw [told] at carried
  cases answer with
  | error failure =>
      cases carried
      exact ⟨.deviated .unread, rfl⟩
  | ok value =>
      cases decoded : Row.decode value.bytes with
      | error failure =>
          simp only [readOutcome, decoded] at carried
          cases carried
          exact ⟨.deviated (.undecoded decoded), rfl⟩
      | ok actual =>
          simp only [readOutcome, decoded] at carried
          cases carried
          by_cases equal : actual = row
          · subst equal
            simp only [if_true, and_true]
            exact .passed (.same decoded)
          · simp only [equal, if_false, and_true]
            exact .deviated (.different decoded equal)

theorem missing_verdict (key : String) (store : σ) (answer : Except ResultCode StoredValue)
    (same : Answer.row (RowStore.read store key).answer = rowAnswer (.stored answer)) :
    Verdict (.missing key) (.stored answer) ((Step.missing key).run narration store).answer ∧
      ((Step.missing key).run narration store).state = (RowStore.read store key).state := by
  have carried := row_carried _ answer same
  simp only [Step.run]
  rcases told : RowStore.read store key with ⟨outcome, events, next⟩
  rw [told] at carried
  cases answer with
  | error failure =>
      cases carried
      simp only [missing_message_iff, RowError.device.injEq]
      by_cases gone : failure = .keyNotExist
      · subst gone
        simp only [if_true, and_true]
        exact .passed .gone
      · simp only [gone, if_false, and_true]
        exact .deviated (.otherwise gone)
  | ok value =>
      cases decoded : Row.decode value.bytes with
      | error failure =>
          simp only [readOutcome, decoded] at carried
          cases carried
          simp only [missing_message_iff, reduceCtorEq, if_false, and_true]
          exact .deviated (.unreadable decoded)
      | ok row =>
          simp only [readOutcome, decoded] at carried
          cases carried
          exact ⟨.deviated (.present decoded), rfl⟩

/-- A step leaves the state that its device call leaves, and goes by the response. -/
theorem step_verdict (step : Step) (call : DeviceCall) (asks : asked step = some call) (store : σ) :
    Verdict step (call.run store).answer (step.run narration store).answer ∧
      (step.run narration store).state = (call.run store).state := by
  obtain ⟨answered, left⟩ := row_made (rowCall step) call asks store
  rw [← left]
  cases step with
  | insert key row =>
      obtain ⟨blob, encoded, rfl⟩ := encoded_made row _ call asks
      exact demand_verdict narration (.insert key row) rfl _ _ _ answered
  | update key row =>
      obtain ⟨blob, encoded, rfl⟩ := encoded_made row _ call asks
      exact demand_verdict narration (.update key row) rfl _ _ _ answered
  | delete key =>
      cases asks
      exact demand_verdict narration (.delete key) rfl _ _ _ answered
  | expect key row =>
      cases asks
      exact expect_verdict narration key row store _ answered
  | missing key =>
      cases asks
      exact missing_verdict narration key store _ answered
end Steps

end FlashStore.StepVerdicts

/-! Journals -/

namespace FlashStore.DeviceJournal

abbrev Journal := List (DeviceCall × Answer)

structure Journaled (σ : Type) where
  device : σ
  journal : Journal

variable {σ α : Type}

def Journaled.opened (device : σ) : Journaled σ := ⟨device, []⟩

def Journaled.note (journaled : Journaled σ) (call : DeviceCall) (told : α → Answer)
    (reply : Reply σ α) : Reply (Journaled σ) α :=
  ⟨reply.answer, reply.events,
    ⟨reply.state, journaled.journal ++ [(call, told reply.answer)]⟩⟩

variable [Device σ]

instance : Device (Journaled σ) where
  read journaled key :=
    journaled.note (.read key) .stored (Device.read journaled.device key)
  insert journaled key value :=
    journaled.note (.insert key value) .deviceDone (Device.insert journaled.device key value)
  update journaled key value :=
    journaled.note (.update key value) .deviceDone (Device.update journaled.device key value)
  delete journaled key :=
    journaled.note (.delete key) .deviceDone (Device.delete journaled.device key)
  count journaled := Device.count journaled.device

theorem run_noted (call : DeviceCall) (device : σ) (journal : Journal) :
    call.run (Journaled.mk device journal) =
      ⟨(call.run device).answer, (call.run device).events,
        ⟨(call.run device).state, journal ++ [(call, (call.run device).answer)]⟩⟩ := by
  cases call <;> rfl

end FlashStore.DeviceJournal

/-! Runs and their journals -/

namespace FlashStore.SmokeRuns
open DeviceJournal DriveCalls RowBlobs RowTable SampleRows ScriptRuns Smoke StepVerdicts

/-- The step's call was made and got the response that the step needs. -/
structure Met (step : Step) (turn : DeviceCall × Answer) : Prop where
  asks : asked step = some turn.1
  expected : Expected step turn.2

/-- The calls before the last were met, the last one was not, and none followed it. -/
inductive BreaksOff : List Step → Journal → Deviation → Prop where
  | first {front back : List Step} {step : Step} {met : Journal} {call : DeviceCall}
      {response : Answer} {deviation : Deviation} (before : List.Forall₂ Met front met)
      (asks : asked step = some call) (reported : Reported step response deviation) :
      BreaksOff (front ++ step :: back) (met ++ [(call, response)]) deviation

theorem met_expected (script : List Step) (journal : Journal)
    (met : List.Forall₂ Met script journal) :
    ∀ turn ∈ script.zip journal, Expected turn.1 turn.2.2 := by
  induction met with
  | nil => simp
  | cons first _ ih =>
      intro turn member
      rcases List.mem_cons.mp member with rfl | later
      · exact first.expected
      · exact ih turn later

theorem broken_unexpected (script : List Step) (journal : Journal) (deviation : Deviation)
    (breaks : BreaksOff script journal deviation) :
    ¬ ∀ turn ∈ script.zip journal, Expected turn.1 turn.2.2 := by
  cases breaks with
  | @first front back step met call response _ before asks reported =>
      intro all
      have last : (step, (call, response)) ∈
          (front ++ step :: back).zip (met ++ [(call, response)]) := by
        rw [List.zip_append before.length_eq]
        simp
      exact reported_unexpected step response deviation reported (all _ last)

section Journals
variable {σ : Type} [Device σ] (narration : Narration)

theorem step_noted (step : Step) (call : DeviceCall) (asks : asked step = some call) (device : σ)
    (journal : Journal) :
    (step.run narration (Journaled.mk device journal)).answer = (step.run narration device).answer ∧
      (step.run narration (Journaled.mk device journal)).state =
        ⟨(step.run narration device).state, journal ++ [(call, (call.run device).answer)]⟩ := by
  obtain ⟨verdict, left⟩ := step_verdict narration step call asks device
  obtain ⟨noted, leftNoted⟩ := step_verdict narration step call asks (Journaled.mk device journal)
  rw [run_noted] at noted leftNoted
  exact ⟨verdict_unique step _ _ _ noted verdict, by rw [leftNoted, left]⟩

theorem passes_noted (front : List Step) (device middle : σ)
    (encodable : ∀ step ∈ front, (asked step).isSome)
    (passes : Passes narration front device middle) (journal : Journal) :
    ∃ met, List.Forall₂ Met front met ∧
      Passes narration front (Journaled.mk device journal)
        (Journaled.mk middle (journal ++ met)) := by
  induction passes generalizing journal with
  | nil device => exact ⟨[], .nil, by simpa using Passes.nil _⟩
  | @cons step script device last expected _ ih =>
      obtain ⟨call, asks⟩ := Option.isSome_iff_exists.mp (encodable step List.mem_cons_self)
      obtain ⟨alike, noted⟩ := step_noted narration step call asks device journal
      obtain ⟨met, all, rest⟩ := ih
        (fun later member => encodable later (List.mem_cons_of_mem step member))
        (journal ++ [(call, (call.run device).answer)])
      have verdict := (step_verdict narration step call asks device).1
      rw [expected] at verdict
      refine ⟨(call, (call.run device).answer) :: met, .cons ⟨asks, ?_⟩ all, ?_⟩
      · exact (verdict_ok_iff step _).mp verdict
      · refine .cons (alike.trans expected) ?_
        rw [noted]
        simpa using rest

/-- What a run answers, as its script and its journal have it. -/
inductive Judged (script : List Step) (journal : Journal) : Except Deviation Report → Prop where
  | completed (met : List.Forall₂ Met script journal) :
      Judged script journal (.ok ⟨journal.length, script.countP failing⟩)
  | broken {deviation : Deviation} (breaks : BreaksOff script journal deviation) :
      Judged script journal (.error deviation)

theorem play_judged (script : List Step) (encodable : ∀ step ∈ script, (asked step).isSome)
    (device : σ) :
    (play narration script (Journaled.opened device)).answer =
        (play narration script device).answer ∧
      (play narration script (Journaled.opened device)).state.device =
        (play narration script device).state ∧
      Judged script (play narration script (Journaled.opened device)).state.journal
        (play narration script device).answer := by
  rcases passes_or_deviates narration script device with
    ⟨last, passes⟩ | ⟨front, step, back, middle, deviation, rfl, passes, deviates⟩
  · obtain ⟨met, all, noted⟩ := passes_noted narration script device last encodable passes []
    obtain ⟨answered, left⟩ := play_passes script device last passes
    obtain ⟨answeredNoted, leftNoted⟩ := play_passes script _ _ noted
    rw [Journaled.opened, answered, left, answeredNoted, leftNoted, count_script]
    refine ⟨rfl, rfl, ?_⟩
    simpa [all.length_eq] using Judged.completed all
  · obtain ⟨met, all, noted⟩ := passes_noted narration front device middle
      (fun early member => encodable early (List.mem_append_left _ member)) passes []
    obtain ⟨call, asks⟩ := Option.isSome_iff_exists.mp (encodable step (by simp))
    obtain ⟨alike, taken⟩ := step_noted narration step call asks middle met
    have verdict := (step_verdict narration step call asks middle).1
    obtain ⟨answered, left⟩ := play_stops front back step device middle deviation passes deviates
    obtain ⟨answeredNoted, leftNoted⟩ :=
      play_stops front back step _ _ deviation noted (alike.trans deviates)
    rw [deviates] at verdict
    rw [Journaled.opened, answered, left, answeredNoted, leftNoted, List.nil_append, taken]
    exact ⟨rfl, rfl, .broken (.first all asks ((verdict_error_iff step _ _).mp verdict))⟩
end Journals

inductive Scenario where
  | literal
  | bulk (rows : Nat)
  deriving DecidableEq, Repr

def Scenario.script : Scenario → List Step
  | .literal => literalScript
  | .bulk rows => bulkScript rows

def Scenario.narration : Scenario → Narration
  | .literal => .full
  | .bulk _ => .silent

def Scenario.run {σ : Type} [Device σ] (scenario : Scenario) (device : σ) :
    Reply σ (Except Deviation Report) :=
  match scenario with
  | .literal => playLiteral device
  | .bulk rows => playBulk device rows

/-- No index of a generated row overflows. -/
def Scenario.RowsInRange : Scenario → Prop
  | .literal => True
  | .bulk rows => ∀ index < rows, InRange index

theorem run_play {σ : Type} [Device σ] (scenario : Scenario) (device : σ) :
    (scenario.run device).answer = (play scenario.narration scenario.script device).answer ∧
      (scenario.run device).state = (play scenario.narration scenario.script device).state := by
  cases scenario with
  | literal => exact ⟨rfl, rfl⟩
  | bulk rows => exact playBulk_play device rows

theorem asked_fits (step : Step) (fits : CallFits (rowCall step)) : (asked step).isSome := by
  cases step with
  | insert key row | update key row =>
      obtain ⟨blob, encoded, _⟩ := encode_spells row fits
      simp [asked, rowCall, CallLayers.underRow, encoded, Except.toOption]
  | delete key | expect key row | missing key => rfl

theorem sample_fits (index : Nat) (inRange : InRange index) : Fits (sampleRow index) :=
  fits_small _ (Nat.lt_of_le_of_lt (size_row index inRange) (by decide))

theorem script_asks (scenario : Scenario) (inRange : scenario.RowsInRange) :
    ∀ step ∈ scenario.script, (asked step).isSome := by
  intro step member
  apply asked_fits
  cases scenario with
  | literal =>
      have all : ∀ step ∈ literalScript, CallFits (rowCall step) := by decide
      exact all step member
  | bulk rows =>
      simp only [Scenario.script, bulkScript, List.mem_append, List.mem_map, List.mem_range]
        at member
      rcases member with ((((⟨index, within, rfl⟩ | ⟨index, within, rfl⟩) | ⟨index, within, rfl⟩) |
        ⟨index, within, rfl⟩) | ⟨index, within, rfl⟩) | ⟨index, within, rfl⟩
      · exact sample_fits index (inRange index within)
      · trivial
      · exact sample_fits _ (inRange _ (shifted_lt rows index within))
      · trivial
      · trivial
      · trivial

/-- Whatever the device does, a smoke run succeeds exactly if every call it made got the response
that its step needs. It then made one call for each step of its script and counted them all. If it
does not succeed, it made no call after the first that went wrong, and it reports that one. -/
theorem smoke_run_sound {σ : Type} [Device σ] (device : σ) (scenario : Scenario)
    (inRange : scenario.RowsInRange) :
    (scenario.run (Journaled.opened device)).answer = (scenario.run device).answer ∧
      (scenario.run (Journaled.opened device)).state.device = (scenario.run device).state ∧
      ((∃ report, (scenario.run device).answer = .ok report) ↔
        ∀ turn ∈ scenario.script.zip (scenario.run (Journaled.opened device)).state.journal,
          Expected turn.1 turn.2.2) ∧
      (∀ report, (scenario.run device).answer = .ok report →
        List.Forall₂ Met scenario.script (scenario.run (Journaled.opened device)).state.journal ∧
          report = ⟨(scenario.run (Journaled.opened device)).state.journal.length,
            scenario.script.countP failing⟩) ∧
      (∀ deviation, (scenario.run device).answer = .error deviation →
        BreaksOff scenario.script (scenario.run (Journaled.opened device)).state.journal
          deviation) := by
  obtain ⟨answered, left⟩ := run_play scenario device
  obtain ⟨answeredNoted, leftNoted⟩ := run_play scenario (Journaled.opened device)
  obtain ⟨alike, behind, judged⟩ := play_judged scenario.narration scenario.script
    (script_asks scenario inRange) device
  rw [answered, left, answeredNoted, leftNoted]
  refine ⟨alike, behind, ?_⟩
  generalize (play scenario.narration scenario.script device).answer = outcome at judged ⊢
  cases judged with
  | completed met =>
      refine ⟨⟨fun _ => met_expected _ _ met, fun _ => ⟨_, rfl⟩⟩, ?_, ?_⟩
      · rintro report ⟨⟩
        exact ⟨met, rfl⟩
      · rintro deviation ⟨⟩
  | broken breaks =>
      refine ⟨⟨?_, fun all => absurd all (broken_unexpected _ _ _ breaks)⟩, ?_, ?_⟩
      · rintro ⟨report, ⟨⟩⟩
      · rintro report ⟨⟩
      · rintro deviation ⟨⟩
        exact breaks

def lying : FaultSchedule Drive where
  device := (Opening.sharded 4 UInt64.toNat).drive
  faults := [(0, .pretend []), (1, .pretend []), (2, .fail .keyNotExist)]

theorem smoke_run_sound_lying :
    (Scenario.bulk 2).RowsInRange ∧
      ((Scenario.bulk 2).run lying).answer =
        .error (.failed "read key0" (.device .keyNotExist)) ∧
      BreaksOff (bulkScript 2) ((Scenario.bulk 2).run (Journaled.opened lying)).state.journal
        (.failed "read key0" (.device .keyNotExist)) := by
  have inRange : ∀ index < 2, InRange index := by decide
  have answered : ((Scenario.bulk 2).run lying).answer =
      .error (.failed "read key0" (.device .keyNotExist)) := by rfl
  obtain ⟨_, _, _, _, breaks⟩ := smoke_run_sound lying (.bulk 2) inRange
  exact ⟨inRange, answered, breaks _ answered⟩

end FlashStore.SmokeRuns
