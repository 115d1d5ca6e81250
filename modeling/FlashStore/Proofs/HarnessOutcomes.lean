import FlashStore.Proofs.CallLayers
import FlashStore.Proofs.RowCalls

/-!
Which status a harness call gives. Three statuses stand for all that can go wrong below, so each is
said here in terms of the drive: the bytes of the key, the size of the encoded row, what is stored
under the key and whether it is a row. Only a missing key is reported as not found, and only where a
key has to be there. What a status loses is in the warning that goes with it.
-/

namespace FlashStore.HarnessOutcomes
open CallEvents CallLayers DriveCalls RawRows RequestChecks RowBlobs RowCalls

/-- The fields that names select: in the row's order, as often as the row has them, and all of those
that have one of the names. Without names, the whole row. -/
def Selected (names : Option (List String)) (row kept : Row) : Prop :=
  match names with
  | none => kept = row
  | some names =>
    kept.Sublist row ∧
      ∀ field, kept.count field = if field.name ∈ names then row.count field else 0

theorem count_pick (row : Row) (names : List String) (field : Field) :
    (row.pick names).count field = if field.name ∈ names then row.count field else 0 := by
  by_cases named : field.name ∈ names
  · rw [if_pos named, Row.pick]
    exact List.count_filter (by simpa using named)
  · rw [if_neg named]
    apply List.count_eq_zero.mpr
    intro member
    exact named (by simpa using (List.mem_filter.mp member).2)

theorem selected_iff (names : List String) (row kept : Row) :
    Selected (some names) row kept ↔ kept = row.pick names := by
  constructor
  · rintro ⟨part, counts⟩
    have same : kept.Perm (row.pick names) := by
      apply List.perm_iff_count.mpr
      intro field
      rw [counts field, count_pick]
    have allNamed : ∀ field ∈ kept, names.contains field.name = true := by
      intro field member
      exact (List.mem_filter.mp (same.mem_iff.mp member)).2
    have within : kept.Sublist (row.pick names) := by
      have filtered := part.filter fun field => names.contains field.name
      rwa [List.filter_eq_self.mpr allNamed] at filtered
    exact within.eq_of_length same.length_eq
  · rintro rfl
    exact ⟨List.filter_sublist, count_pick row names⟩

theorem wanted_iff (table key : String) (names : Option (List String)) (row kept : Row) :
    wanted (.read table key names) row = kept ↔ Selected names row kept := by
  cases names with
  | none => exact eq_comm
  | some names => exact eq_comm.trans (selected_iff names row kept).symm

theorem pick_names (row : Row) (names others : List String)
    (same : ∀ name, name ∈ names ↔ name ∈ others) : row.pick names = row.pick others := by
  apply List.filter_congr
  intro field _
  exact Bool.eq_iff_iff.mpr (by simpa using same field.name)

-- Statuses on an emulated drive.

section Statuses
variable {τ : Type} [EntryMap τ] (entries : τ) (table key : String)

theorem read_status (names : Option (List String)) :
    (Harness.read entries table key names).answer =
      if ¬ KeyFits key then .error .error
      else
        match find? entries (Bytes.ofText key) with
        | none => .error .notFound
        | some value =>
          match Row.decode value.bytes with
          | .error _ => .error .error
          | .ok row => .ok (wanted (.read table key names) row) := by
  simp only [Harness.read, read_row_exact]
  by_cases fits : KeyFits key
  · cases found : find? entries (Bytes.ofText key) with
    | none => simp [fits, Harness.report, Status.ofRowError]
    | some value =>
        cases decoded : Row.decode value.bytes with
        | error failure => simp [fits, decoded, Harness.report, Status.ofRowError]
        | ok row => cases names <;> simp [fits, decoded, Harness.report, wanted]
  · simp [fits, Harness.report, Status.ofRowError]

/-- What a write needs before it matters whether the key is present. -/
def Writable (key : String) (size : Nat) : Prop := KeyFits key ∧ size ≤ 2097152

instance (key : String) (size : Nat) : Decidable (Writable key size) :=
  inferInstanceAs (Decidable (_ ∧ _))

theorem write_status [LawfulEntryMap τ] (mode : Device.WriteMode) (row : Row) (blob : Bytes)
    (encoded : row.encode = .ok blob) :
    (Harness.report (writeName mode) key (RowStore.write mode entries key row)).answer =
      if ¬ Writable key blob.length then .error .error
      else if admits mode (find? entries (Bytes.ofText key)).isSome then .ok ()
      else .error (.ofRowError (.device (conflict mode))) := by
  rw [write_row_exact mode entries key row blob encoded]
  by_cases fits : KeyFits key
  · by_cases large : 2097152 < blob.length
    · have unwritable : ¬ Writable key blob.length := fun both => Nat.not_lt.mpr both.2 large
      simp [fits, large, unwritable, Harness.report, Status.ofRowError]
    · have writable : Writable key blob.length := ⟨fits, by omega⟩
      by_cases admitted : admits mode (find? entries (Bytes.ofText key)).isSome = true <;>
        simp [fits, large, writable, admitted, Harness.report]
  · have unwritable : ¬ Writable key blob.length := fun both => fits both.1
    simp [fits, unwritable, Harness.report, Status.ofRowError]

theorem delete_status :
    (Harness.delete entries table key).answer =
      if ¬ KeyFits key then .error .error
      else if (find? entries (Bytes.ofText key)).isSome then .ok ()
      else .error .notFound := by
  rw [Harness.delete, delete_row_exact]
  by_cases fits : KeyFits key
  · by_cases present : (find? entries (Bytes.ofText key)).isSome = true <;>
      simp [fits, present, Harness.report, Status.ofRowError]
  · simp [fits, Harness.report, Status.ofRowError]
end Statuses

section Outcomes
variable (drive : Drive) (table key : String)

def Absent : Prop := find? drive (Bytes.ofText key) = none

structure ReadOutcome (names : Option (List String)) (answer : Except Status Row) : Prop where
  notFound : answer = .error .notFound ↔ KeyFits key ∧ Absent drive key
  error : answer = .error .error ↔
    ¬ KeyFits key ∨ ∃ value, find? drive (Bytes.ofText key) = some value ∧ NoRow value.bytes
  done : ∀ kept, answer = .ok kept ↔ KeyFits key ∧ ∃ value row,
    find? drive (Bytes.ofText key) = some value ∧ row.encode = .ok value.bytes ∧
      Selected names row kept

/-- An insert needs the key to be absent, so it never says not found. -/
structure InsertOutcome (size : Nat) (answer : Except Status Unit) : Prop where
  notFound : answer ≠ .error .notFound
  error : answer = .error .error ↔ ¬ (Writable key size ∧ Absent drive key)
  done : answer = .ok () ↔ Writable key size ∧ Absent drive key

structure UpdateOutcome (size : Nat) (answer : Except Status Unit) : Prop where
  notFound : answer = .error .notFound ↔ Writable key size ∧ Absent drive key
  error : answer = .error .error ↔ ¬ Writable key size
  done : answer = .ok () ↔ Writable key size ∧ ¬ Absent drive key

structure DeleteOutcome (answer : Except Status Unit) : Prop where
  notFound : answer = .error .notFound ↔ KeyFits key ∧ Absent drive key
  error : answer = .error .error ↔ ¬ KeyFits key
  done : answer = .ok () ↔ KeyFits key ∧ ¬ Absent drive key

theorem read_outcome (names : Option (List String)) :
    ReadOutcome drive key names (Harness.read drive table key names).answer := by
  rw [read_status]
  by_cases fits : KeyFits key
  · cases found : find? drive (Bytes.ofText key) with
    | none => constructor <;> simp [fits, found, Absent]
    | some value =>
        cases decoded : Row.decode value.bytes with
        | error failure =>
            have noRow : NoRow value.bytes := (undecoded_iff _).mp ⟨failure, decoded⟩
            constructor <;> simp [fits, found, decoded, noRow, noRow _, Absent]
        | ok row =>
            have encoded := (decoded_iff _ row).mp decoded
            have someRow : ¬ NoRow value.bytes := fun none => none row encoded
            constructor
            case notFound => simp [fits, found, decoded, Absent]
            case error => simp [fits, found, decoded, someRow]
            case done =>
              intro kept
              simp only [fits, not_true_eq_false, if_false, decoded, Except.ok.injEq, true_and,
                wanted_iff]
              constructor
              · intro selected
                exact ⟨value, row, found, encoded, selected⟩
              · rintro ⟨_, other, again, otherEncoded, selected⟩
                cases found.symm.trans again
                cases decoded.symm.trans ((decoded_iff _ other).mpr otherEncoded)
                exact selected
  · constructor <;> simp [fits]

theorem delete_outcome :
    DeleteOutcome drive key (Harness.delete drive table key).answer := by
  rw [delete_status]
  by_cases fits : KeyFits key
  · cases found : find? drive (Bytes.ofText key) <;> constructor <;> simp [fits, found, Absent]
  · constructor <;> simp [fits]

variable (row : Row) (blob : Bytes) (encoded : row.encode = .ok blob)
include encoded

theorem insert_outcome :
    InsertOutcome drive key blob.length (Harness.insert drive table key row).answer := by
  have status : (Harness.insert drive table key row).answer = _ :=
    write_status drive key .insert row blob encoded
  rw [status]
  by_cases writable : Writable key blob.length
  · cases found : find? drive (Bytes.ofText key) <;> constructor <;>
      simp [writable, found, Absent, admits, conflict, Status.ofRowError]
  · constructor <;> simp [writable]

theorem update_outcome :
    UpdateOutcome drive key blob.length (Harness.update drive table key row).answer := by
  have status : (Harness.update drive table key row).answer = _ :=
    write_status drive key .update row blob encoded
  rw [status]
  by_cases writable : Writable key blob.length
  · cases found : find? drive (Bytes.ofText key) <;> constructor <;>
      simp [writable, found, Absent, admits, conflict, Status.ofRowError]
  · constructor <;> simp [writable]
end Outcomes

/-- The warning of a harness call: one if it failed, about the row error that its status stands for,
and none if it did not. -/
structure Warned (drive : Drive) (call : HarnessCall) (row : RowCall) : Prop where
  failed : ∀ status, failure? (call.run drive).answer = some (.status status) →
    ∃ cause, cause? (row.run drive).answer = some cause ∧ status = .ofRowError cause ∧
      warnings (call.run drive).events =
        [⟨.warn, .harness, cause.message,
          [("op", .text (operation row)), ("key", .text (rowKey row)),
            ("status", .word status.name)]⟩]
  done : failure? (call.run drive).answer = none → warnings (call.run drive).events = []

theorem harness_fails {σ : Type} [Device σ] (call : HarnessCall) (row : RowCall) (store : σ) :
    failure? (harnessAnswer call (row.run store).answer) =
      (cause? (row.run store).answer).map fun cause => .status (.ofRowError cause) := by
  cases row with
  | read key =>
      simp only [RowCall.run, Reply.map]
      cases (RowStore.read store key).answer <;> rfl
  | insert key fields =>
      simp only [RowCall.run, Reply.map]
      cases (RowStore.insert store key fields).answer <;> rfl
  | update key fields =>
      simp only [RowCall.run, Reply.map]
      cases (RowStore.update store key fields).answer <;> rfl
  | delete key =>
      simp only [RowCall.run, Reply.map]
      cases (RowStore.delete store key).answer <;> rfl

theorem harness_warned (drive : Drive) (call : HarnessCall) (row : RowCall)
    (under : underHarness call = some row) : Warned drive call row := by
  have fate := harness_fails call row drive
  have logged := harness_warnings call row under drive
  rw [← (harness_made call row under drive).1] at fate
  cases told : cause? (row.run drive).answer with
  | none =>
      rw [told] at fate
      simp only [warned, told] at logged
      constructor
      case failed =>
        intro status failed
        cases fate.symm.trans failed
      case done => exact fun _ => logged
  | some cause =>
      rw [told] at fate
      simp only [warned, told] at logged
      constructor
      case failed =>
        intro status failed
        cases fate.symm.trans failed
        exact ⟨cause, told, rfl, logged⟩
      case done =>
        intro done
        cases fate.symm.trans done

/-- On any drive, whatever calls made it what it is, every harness call on any table gives the status
that key, size and stored bytes decide, a filter counts as a set of names, and a failed call warns
once. -/
theorem harness_outcomes (drive : Drive) (table key : String) (row : Row) (fits : Fits row) :
    (∀ names, ReadOutcome drive key names (Harness.read drive table key names).answer) ∧
      (∀ names others : List String, (∀ name, name ∈ names ↔ name ∈ others) →
        (Harness.read drive table key (some names)).answer =
          (Harness.read drive table key (some others)).answer) ∧
      (∃ blob, row.encode = .ok blob ∧
        InsertOutcome drive key blob.length (Harness.insert drive table key row).answer ∧
        UpdateOutcome drive key blob.length (Harness.update drive table key row).answer) ∧
      DeleteOutcome drive key (Harness.delete drive table key).answer ∧
      ∀ call made, underHarness call = some made → Warned drive call made := by
  refine ⟨read_outcome drive table key, ?independent, ?written, delete_outcome drive table key,
    harness_warned drive⟩
  case independent =>
    intro names others same
    simp only [read_status, wanted, pick_names _ names others same]
  case written =>
    obtain ⟨blob, encoded, _⟩ := encode_spells row fits
    exact ⟨blob, encoded, insert_outcome drive table key row blob encoded,
      update_outcome drive table key row blob encoded⟩

def sample : Row := [⟨"b", "1"⟩, ⟨"\u00e9", ""⟩, ⟨"b", "1"⟩]

def stocked : Drive := (RowStore.insert (Opening.sharded 2 UInt64.toNat).drive "user" sample).state

theorem stocked_found (blob : Bytes) (encoded : sample.encode = .ok blob)
    (short : ¬ 2097152 < blob.length) :
    find? stocked (Bytes.ofText "user") = some (kept (.ofBytes blob)) := by
  have fits : KeyFits "user" := by decide
  simp [stocked, RowStore.insert, write_row_exact .insert _ _ _ blob encoded, fits, short,
    opening_empty, admits, LawfulEntryMap.find?_put]

theorem harness_outcomes_stocked :
    Fits sample ∧
      (Harness.read stocked "t" "user" (some ["b", "c", "b"])).answer =
        .ok [⟨"b", "1"⟩, ⟨"b", "1"⟩] ∧
      (Harness.insert stocked "t" "user" sample).answer = .error .error := by
  have fits : Fits sample := by decide
  obtain ⟨reads, _, ⟨blob, encoded, inserted, _⟩, _⟩ :=
    harness_outcomes stocked "t" "user" sample fits
  have short : ¬ 2097152 < blob.length := by
    have spelled := BlobImage.encoded_spelled sample blob encoded
    rw [length_spelled sample blob spelled]
    decide
  have found := stocked_found blob encoded short
  refine ⟨fits, ?_, ?_⟩
  · apply ((reads _).done _).mpr
    refine ⟨by decide, _, sample, found, ?_, (selected_iff _ _ _).mpr rfl⟩
    rw [kept_bytes blob (by omega)]
    exact encoded
  · apply inserted.error.mpr
    rintro ⟨_, absent⟩
    cases found.symm.trans absent

end FlashStore.HarnessOutcomes
