import FlashStore.Proofs.SmokeRuns
import Mathlib.Data.Finset.Max
import Mathlib.Data.Nat.ModEq

/-!
The bulk run on a device that loses updates: it reports those of some keys as done and keeps the old
values, and is a drive in everything else. The update round writes to each key the row of another one,
no two keys get the same row, and no two rows are equal; so the round after it reads the old row under
the first key whose update was lost, and the run ends there.
-/

namespace FlashStore.LostUpdates
open BulkRuns DriveCalls RequestChecks RowCalls SampleRows ScriptRuns Smoke StepVerdicts

theorem shifted_ne (rows index : Nat) (several : 2 ≤ rows) (within : index < rows) :
    shifted rows index ≠ index := by
  simp only [shifted]
  by_cases wraps : index + rows / 2 < rows
  · rw [Nat.mod_eq_of_lt wraps]
    omega
  · rw [Nat.mod_eq_sub_mod (by omega), Nat.mod_eq_of_lt (by omega)]
    omega

theorem shifted_injOn (rows : Nat) : Set.InjOn (shifted rows) (Finset.range rows) := by
  intro one oneWithin other otherWithin same
  have oneBelow : one < rows := by simpa using oneWithin
  have otherBelow : other < rows := by simpa using otherWithin
  have congruent : one ≡ other [MOD rows] := Nat.ModEq.add_right_cancel' (rows / 2) same
  exact congruent.eq_of_lt_of_lt oneBelow otherBelow

theorem shifted_bijOn (rows : Nat) :
    Set.BijOn (shifted rows) (Finset.range rows) (Finset.range rows) := by
  have inside : Set.MapsTo (shifted rows) (Finset.range rows) (Finset.range rows) := by
    intro index within
    simpa using shifted_lt rows index (by simpa using within)
  exact ⟨inside, shifted_injOn rows,
    Finset.surjOn_of_injOn_of_card_le _ inside (shifted_injOn rows) (Nat.le_refl _)⟩

def updateRounds (rows : Nat) : List Step :=
  ((List.range rows).map fun i => Step.insert (sampleKey i) (sampleRow i)) ++
    ((List.range rows).map fun i => Step.expect (sampleKey i) (sampleRow i)) ++
    (List.range rows).map fun i => Step.update (sampleKey i) (sampleRow (shifted rows i))

def reread (rows index : Nat) : Step :=
  .expect (sampleKey index) (sampleRow (shifted rows index))

theorem script_rereads (rows index : Nat) (within : index < rows) :
    ∃ back, bulkScript rows =
      (updateRounds rows ++ (List.range index).map (reread rows)) ++ reread rows index :: back := by
  obtain ⟨back, split⟩ := round_split (reread rows) rows index within
  refine ⟨back ++ ((List.range rows).map fun i => Step.delete (sampleKey i)) ++
    (List.range rows).map fun i => Step.missing (sampleKey i), ?_⟩
  show updateRounds rows ++ (List.range rows).map (reread rows) ++ _ ++ _ = _
  rw [split]
  simp only [List.append_assoc, List.cons_append]

def Updates (lost : Bytes → Prop) : DeviceCall → Prop
  | .update key _ => lost (content key)
  | .read _ | .insert _ _ | .delete _ => False

/-- The device answers as the drive that `holds` sees in it, but for the updates of lost keys: what
the drive would make of them is reported and not made. -/
structure Forgets {σ : Type} [Device σ] (lost : Bytes → Prop) (holds : σ → Drive → Prop) : Prop where
  alike : ∀ device drive call, holds device drive → ¬ Updates lost call →
    (DeviceCall.run call device).answer = (call.run drive).answer ∧
      holds (call.run device).state (call.run drive).state
  forgotten : ∀ device drive key value, holds device drive → lost (content key) →
    (Device.update drive key value).answer = .ok () →
      (Device.update device key value).answer = .ok () ∧
        holds (Device.update device key value).state drive

section Steps
variable {σ : Type} [Device σ] {lost : Bytes → Prop} {holds : σ → Drive → Prop}
variable (forgets : Forgets lost holds) (narration : Narration)
variable (device : σ) (drive : Drive) (held : holds device drive)
include forgets held

/-- A step whose call is no lost update goes as it goes on the drive. -/
theorem step_followed (step : Step) (call : DeviceCall) (asks : asked step = some call)
    (spared : ¬ Updates lost call) :
    (step.run narration device).answer = (step.run narration drive).answer ∧
      holds (step.run narration device).state (step.run narration drive).state := by
  obtain ⟨verdict, left⟩ := step_verdict narration step call asks device
  obtain ⟨verdictDrive, leftDrive⟩ := step_verdict narration step call asks drive
  obtain ⟨same, next⟩ := forgets.alike device drive call held spared
  rw [same] at verdict
  rw [left, leftDrive]
  exact ⟨verdict_unique step _ _ _ verdict verdictDrive, next⟩

theorem update_forgotten (key : String) (row : Row) (call : DeviceCall)
    (asks : asked (.update key row) = some call) (gone : lost (Bytes.ofText key))
    (passes : ((Step.update key row).run narration drive).answer = .ok ()) :
    ((Step.update key row).run narration device).answer = .ok () ∧
      holds ((Step.update key row).run narration device).state drive := by
  obtain ⟨verdict, left⟩ := step_verdict narration (.update key row) call asks device
  obtain ⟨verdictDrive, _⟩ := step_verdict narration (.update key row) call asks drive
  obtain ⟨blob, _, rfl⟩ := CallLayers.encoded_made row _ call asks
  have made : (Device.update drive (.ofText key) (.ofBytes blob)).answer = .ok () := by
    rw [passes] at verdictDrive
    have expected := (verdict_ok_iff _ _).mp verdictDrive
    simp only [DeviceCall.run, Reply.map] at expected
    cases told : (Device.update drive (.ofText key) (.ofBytes blob)).answer with
    | error failure =>
        rw [told] at expected
        cases expected
    | ok => rfl
  obtain ⟨reported, stays⟩ :=
    forgets.forgotten device drive _ _ held (by rwa [content_row]) made
  have answered : (DeviceCall.run (.update (.ofText key) (.ofBytes blob)) device).answer =
      .deviceDone (.ok ()) := congrArg Answer.deviceDone reported
  rw [answered] at verdict
  rw [left]
  exact ⟨verdict_unique _ _ _ _ verdict (.passed (.done rfl)), stays⟩
end Steps

def KeysOf (lost : Finset Nat) (key : Bytes) : Prop := ∃ index ∈ lost, keyBytes index = key

theorem keys_of_iff (lost : Finset Nat) (index : Nat) :
    KeysOf lost (keyBytes index) ↔ index ∈ lost := by
  simp [KeysOf, keyBytes_inj]

section Rounds
variable {σ : Type} [Device σ] (holds : σ → Drive → Prop) (base : Drive) (rows : Nat)

def Shown (held : Nat → Option Nat) (device : σ) : Prop :=
  ∃ drive, holds device drive ∧ Stands base rows held drive

def Turns (step : Step) (index : Nat) (old new : Option Nat) : Prop :=
  ∀ held (device : σ), Shown holds base rows held device → held index = old →
    (step.run .silent device).answer = .ok () ∧
      Shown holds base rows (Function.update held index new) (step.run .silent device).state

variable {holds} {lost : Finset Nat} (forgets : Forgets (KeysOf lost) holds)

section Turning
include forgets

theorem moves_turn (step : Step) (call : DeviceCall) (asks : asked step = some call)
    (spared : ¬ Updates (KeysOf lost) call) (index gone come : Nat) (old new : Option Nat)
    (moves : Moves base rows step index old new gone come) :
    Turns holds base rows step index old new := by
  rintro held device ⟨drive, inside, stands⟩ standing
  obtain ⟨alike, follows⟩ := step_followed forgets .silent device drive inside step call asks spared
  obtain ⟨passed, next, _⟩ := moves held drive stands standing
  exact ⟨alike.trans passed, _, follows, next⟩

variable (index source : Nat) (within : index < rows) (inRange : InRange index)
include within inRange

theorem insert_turns (sourceInRange : InRange source) :
    Turns holds base rows (.insert (sampleKey index) (sampleRow source)) index none
      (some source) := by
  obtain ⟨blob, encoded, _⟩ := row_blob source sourceInRange
  have asks : asked (.insert (sampleKey index) (sampleRow source)) =
      some (.insert (.ofText (sampleKey index)) (.ofBytes blob)) := by
    simp [asked, rowCall, CallLayers.underRow, encoded, Except.toOption]
  exact moves_turn base rows forgets _ _ asks id index _ _ _ _
    (insert_moves base rows index source within inRange sourceInRange)

theorem expect_turns (sourceInRange : InRange source) :
    Turns holds base rows (.expect (sampleKey index) (sampleRow source)) index (some source)
      (some source) :=
  moves_turn base rows forgets _ (.read _) rfl id index _ _ _ _
    (expect_moves base rows index source within inRange sourceInRange)

theorem update_turns (old : Nat) (sourceInRange : InRange source) :
    Turns holds base rows (.update (sampleKey index) (sampleRow source)) index (some old)
      (some (if index ∈ lost then old else source)) := by
  obtain ⟨blob, encoded, _⟩ := row_blob source sourceInRange
  have asks : asked (.update (sampleKey index) (sampleRow source)) =
      some (.update (.ofText (sampleKey index)) (.ofBytes blob)) := by
    simp [asked, rowCall, CallLayers.underRow, encoded, Except.toOption]
  have moves := update_moves base rows index source within inRange old sourceInRange
  by_cases gone : index ∈ lost
  · rw [if_pos gone]
    rintro held device ⟨drive, inside, stands⟩ standing
    obtain ⟨passed, _⟩ := moves held drive stands standing
    obtain ⟨reported, stays⟩ := update_forgotten forgets .silent device drive inside _ _ _ asks
      ((keys_of_iff lost index).mpr gone) passed
    rw [← standing, Function.update_eq_self]
    exact ⟨reported, drive, stays, stands⟩
  · rw [if_neg gone]
    have spared : ¬ Updates (KeysOf lost)
        (.update (.ofText (sampleKey index)) (.ofBytes blob)) := by
      simp only [Updates, content_row]
      exact fun member => gone ((keys_of_iff lost index).mp member)
    exact moves_turn base rows forgets _ _ asks spared index _ _ _ _ moves

theorem expect_mismatches (other : Nat) (sourceInRange : InRange other) (wrong : other ≠ source)
    (held : Nat → Option Nat) (device : σ) (shown : Shown holds base rows held device)
    (standing : held index = some other) :
    ((Step.expect (sampleKey index) (sampleRow source)).run .silent device).answer =
      .error (.mismatch ("read " ++ sampleKey index) (sampleRow source) (sampleRow other)) := by
  obtain ⟨drive, inside, stands⟩ := shown
  have shows := stands.mine index within
  rw [standing] at shows
  obtain ⟨blob, encoded, found⟩ := shows
  obtain ⟨sameBlob, sameEncoded, decoded, _⟩ := row_blob other sourceInRange
  cases encoded.symm.trans sameEncoded
  have deviates := expect_deviates .silent drive (sampleKey index) (sampleRow source)
    (sampleRow other) _ (key_fits index inRange) found decoded
    (fun same => wrong ((row_inj other source).mp same))
  obtain ⟨alike, _⟩ := step_followed forgets .silent device drive inside
    (.expect (sampleKey index) (sampleRow source)) _ rfl id
  exact alike.trans deviates
end Turning

theorem round_shown (step : Nat → Step) (old new : Nat → Option Nat) (made : Nat) (device : σ)
    (shown : Shown holds base rows old device)
    (turns : ∀ index < made, Turns holds base rows (step index) index (old index) (new index))
    (later : ∀ index < rows, made ≤ index → old index = new index) :
    ∃ last, Passes .silent ((List.range made).map step) device last ∧
      Shown holds base rows new last := by
  obtain ⟨last, passes, drive, inside, stands⟩ :=
    round_turns step old new (fun _ => Shown holds base rows) made device shown
      fun index below held store begun standing => turns index below held store begun standing
  refine ⟨last, passes, drive, inside, ?_, stands.others⟩
  intro index within
  have shows := stands.mine index within
  by_cases below : index < made
  · simpa [below] using shows
  · simpa [below, later index within (Nat.le_of_not_lt below)] using shows

variable (inRange : ∀ index < rows, InRange index)
include forgets inRange

/-- Three rounds pass. Then each key holds the row that the update round wrote, unless its update was
lost; it then holds the row that was inserted. -/
theorem updates_pass (device : σ) (shown : Shown holds base rows (fun _ => none) device) :
    ∃ last, Passes .silent (updateRounds rows) device last ∧
      Shown holds base rows
        (fun index => some (if index ∈ lost then index else shifted rows index)) last := by
  obtain ⟨inserted, one, shown⟩ := round_shown base rows _ _ some rows device shown
    (fun index within => insert_turns base rows forgets index index within (inRange index within)
      (inRange index within)) (by omega)
  obtain ⟨read, two, shown⟩ := round_shown base rows _ _ some rows inserted shown
    (fun index within => expect_turns base rows forgets index index within (inRange index within)
      (inRange index within)) (by omega)
  obtain ⟨last, three, shown⟩ := round_shown base rows _ _
    (fun index => some (if index ∈ lost then index else shifted rows index)) rows read shown
    (fun index within => update_turns base rows forgets index _ within (inRange index within) index
      (inRange _ (shifted_lt rows index within))) (by omega)
  exact ⟨last, passes_append (passes_append one two) three, shown⟩

theorem lost_deviates (device : σ) (shown : Shown holds base rows (fun _ => none) device)
    (several : 2 ≤ rows) (least : Nat) (gone : least ∈ lost) (within : least < rows)
    (first : ∀ index < least, index ∉ lost) :
    (play .silent (bulkScript rows) device).answer =
      .error (.mismatch ("read " ++ sampleKey least) (sampleRow (shifted rows least))
        (sampleRow least)) := by
  obtain ⟨updated, front, shown⟩ := updates_pass base rows forgets inRange device shown
  obtain ⟨middle, reads, shown⟩ := round_shown base rows (reread rows) _
    (fun index => some (if index ∈ lost then index else shifted rows index)) least updated shown
    (fun index below => by
      have before : index < rows := Nat.lt_trans below within
      rw [if_neg (first index below)]
      exact expect_turns base rows forgets index _ before (inRange index before)
        (inRange _ (shifted_lt rows index before)))
    (fun _ _ _ => rfl)
  have deviates := expect_mismatches base rows forgets least (shifted rows least) within
    (inRange least within) least (inRange least within)
    (shifted_ne rows least several within).symm _ middle shown (by simp [gone])
  obtain ⟨back, split⟩ := script_rereads rows least within
  rw [split]
  exact (play_stops _ back _ device middle _ (passes_append front reads) deviates).1
end Rounds

/-- On a device that behaves as an empty drive but loses the updates of the generated keys of some
indexes, a bulk run ends at the first of these keys: it is read in the round after the updates and
still holds the row that was inserted. This is so because the shift is a permutation of the indexes
that keeps none of them in its place, and because different indexes have different rows. -/
theorem lost_update_caught {σ : Type} [Device σ] (device : σ) (drive : Drive)
    (holds : σ → Drive → Prop) (rows : Nat) (lost : Finset Nat) (several : 2 ≤ rows)
    (inRange : ∀ index < rows, InRange index) (nonempty : lost.Nonempty)
    (within : ∀ index ∈ lost, index < rows) (forgets : Forgets (KeysOf lost) holds)
    (inside : holds device drive) (empty : ∀ key, find? drive key = none) :
    (playBulk device rows).answer =
        .error (.mismatch ("read " ++ sampleKey (lost.min' nonempty))
          (sampleRow (shifted rows (lost.min' nonempty))) (sampleRow (lost.min' nonempty))) ∧
      Set.BijOn (shifted rows) (Finset.range rows) (Finset.range rows) ∧
      (∀ index < rows, shifted rows index ≠ index) ∧
      ∀ one other, sampleRow one = sampleRow other → one = other := by
  refine ⟨?_, shifted_bijOn rows, fun index below => shifted_ne rows index several below,
    fun one other => (row_inj one other).mp⟩
  rw [(playBulk_play device rows).1]
  have least := lost.min'_mem nonempty
  apply lost_deviates drive rows forgets inRange device _ several _ least (within _ least)
  · intro index below member
    exact Nat.not_lt_of_le (lost.min'_le index member) below
  · exact ⟨drive, inside, base_stands drive rows fun index _ => empty (keyBytes index)⟩

/-- A drive that reports the updates of these indexes' keys and does not make them. -/
structure Forgetful where
  drive : Drive
  lost : Finset Nat

def Forgetful.carry {α : Type} (forgetful : Forgetful) (reply : Reply Drive α) :
    Reply Forgetful α :=
  ⟨reply.answer, reply.events, { forgetful with drive := reply.state }⟩

instance (lost : Finset Nat) (key : Bytes) : Decidable (KeysOf lost key) :=
  inferInstanceAs (Decidable (∃ index ∈ lost, keyBytes index = key))

instance : Device Forgetful where
  read forgetful key := forgetful.carry (Device.read forgetful.drive key)
  insert forgetful key value := forgetful.carry (Device.insert forgetful.drive key value)
  update forgetful key value :=
    if KeysOf forgetful.lost (content key) then ⟨.ok (), [], forgetful⟩
    else forgetful.carry (Device.update forgetful.drive key value)
  delete forgetful key := forgetful.carry (Device.delete forgetful.drive key)
  count forgetful := Device.count forgetful.drive

theorem forgetful_forgets (lost : Finset Nat) :
    Forgets (KeysOf lost) fun (forgetful : Forgetful) drive => forgetful = ⟨drive, lost⟩ where
  alike := by
    rintro _ drive call rfl spared
    cases call with
    | read | insert | delete => exact ⟨rfl, rfl⟩
    | update key value =>
        have kept : Device.update (Forgetful.mk drive lost) key value =
            (Forgetful.mk drive lost).carry (Device.update drive key value) := if_neg spared
        simp only [DeviceCall.run, kept]
        exact ⟨rfl, rfl⟩
  forgotten := by
    rintro _ drive key value rfl gone _
    have told : Device.update (Forgetful.mk drive lost) key value =
        ⟨.ok (), [], Forgetful.mk drive lost⟩ := if_pos gone
    rw [told]
    exact ⟨rfl, rfl⟩

-- Of five rows the second and the fourth stay as inserted. The second is read first.
theorem lost_update_caught_second :
    (∀ index < 5, InRange index) ∧ ({3, 1} : Finset Nat).Nonempty ∧
      (∀ index ∈ ({3, 1} : Finset Nat), index < 5) ∧
      Forgets (KeysOf {3, 1}) (fun (forgetful : Forgetful) drive => forgetful = ⟨drive, {3, 1}⟩) ∧
      (∀ key, find? (Opening.sharded 4 UInt64.toNat).drive key = none) ∧
      (playBulk (Forgetful.mk (Opening.sharded 4 UInt64.toNat).drive {3, 1}) 5).answer =
        .error (.mismatch "read key1" (sampleRow 3) (sampleRow 1)) := by
  have inRange : ∀ index < 5, InRange index := by decide
  have nonempty : ({3, 1} : Finset Nat).Nonempty := ⟨1, by decide⟩
  have within : ∀ index ∈ ({3, 1} : Finset Nat), index < 5 := by decide
  have forgets := forgetful_forgets {3, 1}
  have empty := opening_empty (.sharded 4 UInt64.toNat)
  obtain ⟨caught, _⟩ := lost_update_caught (Forgetful.mk (Opening.sharded 4 UInt64.toNat).drive {3, 1})
    _ _ 5 {3, 1} (by decide) inRange nonempty within forgets rfl empty
  have second : ({3, 1} : Finset Nat).min' nonempty = 1 := rfl
  rw [second] at caught
  exact ⟨inRange, nonempty, within, forgets, empty, caught⟩

end FlashStore.LostUpdates
