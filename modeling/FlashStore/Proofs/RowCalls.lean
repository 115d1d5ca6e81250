import FlashStore.Proofs.BlobFaults
import FlashStore.Proofs.DriveCalls

/-!
What the row calls do to an emulated drive, in the words of rows: whether the key has a length that
a drive accepts, whether the blob is small enough, and what is stored under the key's UTF-8 bytes.

What is stored under a key need not be a row, so a read has three outcomes: the key is absent, the
bytes are a row's encoding, or they are no row's. Each outcome says exactly what is stored, and
bytes that are no row stay in their place until an update or a delete of the key takes them away.

As long as only rows are written, rows on a fresh drive answer as a plain map from keys to rows
does. The map knows three limits (the bytes of a key, the bytes of a row, presence) and nothing of
blobs, descriptors or shards. The invariant is that under every text key the drive holds a blob that
spells the map's row, which also rules blob errors out.
-/

namespace FlashStore.RowCalls
open DriveCalls RequestChecks

/-- A drive takes keys of 4 to 255 bytes; a key's bytes are counted, not its characters. -/
def KeyFits (key : String) : Prop := 4 ≤ key.utf8ByteSize ∧ key.utf8ByteSize ≤ 255

instance (key : String) : Decidable (KeyFits key) := inferInstanceAs (Decidable (_ ∧ _))

theorem row_key_verdict (key : String) :
    (KeyRef.ofText key).check = if KeyFits key then .ok () else .error .keyLengthInvalid := by
  rw [KeyRef.ofText, check_bytes, Bytes.length_ofText]
  by_cases fits : KeyFits key
  · have inside : ¬ (key.utf8ByteSize < 4 ∨ 255 < key.utf8ByteSize) := by
      unfold KeyFits at fits
      omega
    rw [if_pos fits, if_neg inside]
  · have outside : key.utf8ByteSize < 4 ∨ 255 < key.utf8ByteSize := by
      unfold KeyFits at fits
      omega
    rw [if_neg fits, if_pos outside]

theorem check_row_key (key : String) :
    checkRequest (.ofText key) none =
      if KeyFits key then .ok () else .error .keyLengthInvalid := by
  by_cases fits : KeyFits key <;> simp [checkRequest, row_key_verdict, fits]

-- The key is looked at before the value, and the value's length is all that is left to look at.
theorem check_row_write (key : String) (blob : Bytes) :
    checkRequest (.ofText key) (some (.ofBytes blob)) =
      if ¬ KeyFits key then .error .keyLengthInvalid
      else if 2097152 < blob.length then .error .valueLengthInvalid
      else .ok () := by
  by_cases fits : KeyFits key <;> simp [checkRequest, row_key_verdict, check_bytes_value, fits]

theorem content_row (key : String) : content (.ofText key) = Bytes.ofText key :=
  content_bytes (Bytes.ofText key)

section Calls
variable {τ : Type} [EntryMap τ]

theorem read_row_exact (entries : τ) (key : String) :
    RowStore.read entries key =
      if ¬ KeyFits key then ⟨.error (.device .keyLengthInvalid), [], entries⟩
      else
        let found := find? entries (Bytes.ofText key)
        let events := logged entries "read" (Bytes.ofText key) [Emulated.hit found]
        match found with
        | none => ⟨.error (.device .keyNotExist), events, entries⟩
        | some value =>
          match Row.decode value.bytes with
          | .error failure => ⟨.error (.blob failure), events, entries⟩
          | .ok row =>
            ⟨.ok row, events ++ [RowStore.event "read row" key [("fields", .number row.length)]],
              entries⟩ := by
  simp only [RowStore.read, read_exact, check_row_key, content_row]
  by_cases fits : KeyFits key
  · cases found : find? entries (Bytes.ofText key) with
    | none => simp [fits]
    | some value => cases verdict : Row.decode value.bytes <;> simp [fits, verdict]
  · simp [fits]

theorem write_row_exact [LawfulEntryMap τ] (mode : Device.WriteMode) (entries : τ) (key : String)
    (row : Row) (blob : Bytes) (encoded : row.encode = .ok blob) :
    RowStore.write mode entries key row =
      if ¬ KeyFits key then ⟨.error (.device .keyLengthInvalid), [], entries⟩
      else if 2097152 < blob.length then ⟨.error (.device .valueLengthInvalid), [], entries⟩
      else if admits mode (find? entries (Bytes.ofText key)).isSome then
        ⟨.ok (), logged entries (writeName mode) (Bytes.ofText key) [] ++
            [RowStore.event (writeName mode ++ " row") key [("bytes", .number blob.length)]],
          put entries (Bytes.ofText key) (kept (.ofBytes blob))⟩
      else ⟨.error (.device (conflict mode)), [], entries⟩ := by
  simp only [RowStore.write, encoded, write_exact, check_row_write, content_row]
  by_cases fits : KeyFits key
  · by_cases large : 2097152 < blob.length
    · simp [fits, large]
    · cases mode <;> by_cases present : (find? entries (Bytes.ofText key)).isSome <;>
        simp [fits, large, present, admits, writeName]
  · simp [fits]

theorem fitting_write_exact [LawfulEntryMap τ] (mode : Device.WriteMode) (entries : τ)
    (key : String) (row : Row) (blob : Bytes) (encoded : row.encode = .ok blob) (fits : KeyFits key)
    (small : blob.length ≤ 2097152) :
    RowStore.write mode entries key row =
      if admits mode (find? entries (Bytes.ofText key)).isSome then
        ⟨.ok (), logged entries (writeName mode) (Bytes.ofText key) [] ++
            [RowStore.event (writeName mode ++ " row") key [("bytes", .number blob.length)]],
          put entries (Bytes.ofText key) (kept (.ofBytes blob))⟩
      else ⟨.error (.device (conflict mode)), [], entries⟩ := by
  have within : ¬ 2097152 < blob.length := by omega
  rw [write_row_exact mode entries key row blob encoded, if_neg (not_not_intro fits), if_neg within]

theorem write_done_iff [LawfulEntryMap τ] (mode : Device.WriteMode) (entries : τ) (key : String)
    (row : Row) (blob : Bytes) (encoded : row.encode = .ok blob) (fits : KeyFits key) :
    (RowStore.write mode entries key row).answer = .ok () ↔
      blob.length ≤ 2097152 ∧ admits mode (find? entries (Bytes.ofText key)).isSome = true := by
  by_cases small : blob.length ≤ 2097152
  · rw [fitting_write_exact mode entries key row blob encoded fits small]
    by_cases admitted : admits mode (find? entries (Bytes.ofText key)).isSome = true
    · simp [small, admitted]
    · simp [admitted]
  · have large : 2097152 < blob.length := by omega
    simp [write_row_exact mode entries key row blob encoded, fits, large, small]

theorem write_too_long_iff [LawfulEntryMap τ] (mode : Device.WriteMode) (entries : τ) (key : String)
    (row : Row) (blob : Bytes) (encoded : row.encode = .ok blob) (fits : KeyFits key) :
    (RowStore.write mode entries key row).answer = .error (.device .valueLengthInvalid) ↔
      2097152 < blob.length := by
  by_cases large : 2097152 < blob.length
  · simp [write_row_exact mode entries key row blob encoded, fits, large]
  · -- What else is refused is refused for what the key's entry is.
    rw [fitting_write_exact mode entries key row blob encoded fits (by omega)]
    by_cases admitted : admits mode (find? entries (Bytes.ofText key)).isSome = true
    · simp [large, admitted]
    · cases mode <;> simp [large, admitted, conflict]

theorem delete_row_exact (entries : τ) (key : String) :
    RowStore.delete entries key =
      if ¬ KeyFits key then ⟨.error (.device .keyLengthInvalid), [], entries⟩
      else
        let found := find? entries (Bytes.ofText key)
        let events := logged entries "delete" (Bytes.ofText key) [Emulated.hit found]
        if found.isSome then
          ⟨.ok (), events ++ [RowStore.event "delete row" key []],
            erase entries (Bytes.ofText key)⟩
        else ⟨.error (.device .keyNotExist), events, entries⟩ := by
  simp only [RowStore.delete, delete_exact, check_row_key, content_row]
  by_cases fits : KeyFits key
  · by_cases present : (find? entries (Bytes.ofText key)).isSome <;> simp [fits, present]
  · simp [fits]
end Calls

end FlashStore.RowCalls

/-! Values that need not be rows -/

namespace FlashStore.RawRows
open BlobImage DriveCalls RequestChecks RowBlobs RowCalls

theorem decoded_iff (b : Bytes) (row : Row) : Row.decode b = .ok row ↔ row.encode = .ok b :=
  ⟨fun decoded => spelled_encodes row b (decoded_spelled b row decoded),
    fun encoded => spelled_decodes row b (encoded_spelled row b encoded)⟩

/-- Bytes that no row is encoded in. -/
def NoRow (b : Bytes) : Prop := ∀ row : Row, row.encode ≠ .ok b

theorem undecoded_iff (b : Bytes) : (∃ failure, Row.decode b = .error failure) ↔ NoRow b := by
  constructor
  · rintro ⟨failure, faulty⟩ row encoded
    cases faulty.symm.trans ((decoded_iff b row).mpr encoded)
  · intro none
    cases decoded : Row.decode b with
    | error failure => exact ⟨failure, rfl⟩
    | ok row => exact absurd ((decoded_iff b row).mp decoded) (none row)

section Reads
variable {τ : Type} [EntryMap τ] (entries : τ) (key : String)

theorem read_keeps : (RowStore.read entries key).state = entries := by
  rw [read_row_exact]
  by_cases fits : KeyFits key
  · cases found : find? entries (Bytes.ofText key) with
    | none => simp [fits]
    | some value => cases verdict : Row.decode value.bytes <;> simp [fits, verdict]
  · simp [fits]

variable (fits : KeyFits key)
include fits

theorem read_absent_iff :
    (RowStore.read entries key).answer = .error (.device .keyNotExist) ↔
      find? entries (Bytes.ofText key) = none := by
  rw [read_row_exact]
  cases found : find? entries (Bytes.ofText key) with
  | none => simp [fits]
  | some value => cases verdict : Row.decode value.bytes <;> simp [fits, verdict]

theorem read_row_iff (row : Row) :
    (RowStore.read entries key).answer = .ok row ↔
      ∃ value, find? entries (Bytes.ofText key) = some value ∧ row.encode = .ok value.bytes := by
  rw [read_row_exact]
  cases found : find? entries (Bytes.ofText key) with
  | none => simp [fits]
  | some value =>
      simp only [Option.some.injEq, exists_eq_left', ← decoded_iff]
      cases Row.decode value.bytes <;> simp [fits]

theorem read_corrupt_iff :
    (∃ failure, (RowStore.read entries key).answer = .error (.blob failure)) ↔
      ∃ value, find? entries (Bytes.ofText key) = some value ∧ NoRow value.bytes := by
  rw [read_row_exact]
  cases found : find? entries (Bytes.ofText key) with
  | none => simp [fits]
  | some value =>
      simp only [Option.some.injEq, exists_eq_left', ← undecoded_iff]
      cases Row.decode value.bytes <;> simp [fits]
end Reads

section Writes
variable {τ : Type} [EntryMap τ] [LawfulEntryMap τ] (entries : τ) (key : String)
variable (present : (find? entries (Bytes.ofText key)).isSome = true)
include present

theorem insert_stays (row : Row) :
    (∃ cause, (RowStore.insert entries key row).answer = .error cause) ∧
      (RowStore.insert entries key row).state = entries := by
  rw [RowStore.insert]
  cases encoded : row.encode with
  | error failure => simp [RowStore.write, encoded]
  | ok blob =>
      rw [write_row_exact .insert entries key row blob encoded]
      split
      · simp
      · split <;> simp [present, admits]

variable (fits : KeyFits key)
include fits

theorem delete_clears :
    (RowStore.delete entries key).answer = .ok () ∧
      find? (RowStore.delete entries key).state (Bytes.ofText key) = none := by
  simp [delete_row_exact, fits, present, LawfulEntryMap.find?_erase]

variable (row : Row) (blob : Bytes) (encoded : row.encode = .ok blob)
variable (small : blob.length ≤ 2097152)
include encoded small

theorem insert_conflicts :
    (RowStore.insert entries key row).answer = .error (.device .keyAlreadyExists) := by
  simp [RowStore.insert, fitting_write_exact .insert entries key row blob encoded fits small,
    present, admits, conflict]

theorem update_replaces :
    (RowStore.update entries key row).answer = .ok () ∧
      (RowStore.read (RowStore.update entries key row).state key).answer = .ok row := by
  have written := fitting_write_exact .update entries key row blob encoded fits small
  simp only [present, admits, if_true] at written
  rw [RowStore.update, written]
  refine ⟨rfl, (read_row_iff _ key fits row).mpr ⟨kept (.ofBytes blob), ?_, ?_⟩⟩
  · simp [LawfulEntryMap.find?_put]
  · rw [kept_bytes blob small]
    exact encoded
end Writes

/-- Whatever calls and raw writes made the drive what it is, a row's read tells absence, a row and
bytes that are no row apart, and changes nothing. Bytes that are no row can be updated and deleted,
and an insert leaves them alone. -/
theorem raw_rows_exact (drive : Drive) (key : String) (fits : KeyFits key) :
    ((∃ failure, (RowStore.read drive key).answer = .error (.blob failure)) ↔
        ∃ value, find? drive (Bytes.ofText key) = some value ∧ NoRow value.bytes) ∧
      (∀ row, (RowStore.read drive key).answer = .ok row ↔
        ∃ value, find? drive (Bytes.ofText key) = some value ∧ row.encode = .ok value.bytes) ∧
      ((RowStore.read drive key).answer = .error (.device .keyNotExist) ↔
        find? drive (Bytes.ofText key) = none) ∧
      (RowStore.read drive key).state = drive ∧
      ∀ value, find? drive (Bytes.ofText key) = some value → NoRow value.bytes →
        (∀ row blob, row.encode = .ok blob → blob.length ≤ 2097152 →
          (RowStore.update drive key row).answer = .ok () ∧
            (RowStore.read (RowStore.update drive key row).state key).answer = .ok row ∧
            (RowStore.insert drive key row).answer = .error (.device .keyAlreadyExists)) ∧
          (∀ row, (∃ cause, (RowStore.insert drive key row).answer = .error cause) ∧
            (RowStore.insert drive key row).state = drive) ∧
          (RowStore.delete drive key).answer = .ok () ∧
          find? (RowStore.delete drive key).state (Bytes.ofText key) = none := by
  refine ⟨read_corrupt_iff drive key fits, read_row_iff drive key fits,
    read_absent_iff drive key fits, read_keeps drive key, ?_⟩
  intro value found _
  have present : (find? drive (Bytes.ofText key)).isSome = true := by rw [found]; rfl
  refine ⟨?_, insert_stays drive key present, delete_clears drive key present fits⟩
  intro row blob encoded small
  obtain ⟨updated, back⟩ := update_replaces drive key present fits row blob encoded small
  exact ⟨updated, back, insert_conflicts drive key present fits row blob encoded small⟩

def scribble : Bytes := [9, 0, 0, 0, 0x78]

def scribbled : Drive :=
  (Device.write .insert (Opening.single none).drive (.ofText "rawkey") (.ofBytes scribble)).state

theorem raw_rows_exact_scribbled :
    KeyFits "rawkey" ∧
      (∃ failure, (RowStore.read scribbled "rawkey").answer = .error (.blob failure)) ∧
      (RowStore.insert scribbled "rawkey" []).answer = .error (.device .keyAlreadyExists) ∧
      (RowStore.read (RowStore.update scribbled "rawkey" []).state "rawkey").answer = .ok [] := by
  have fits : KeyFits "rawkey" := by decide
  have found : find? scribbled (Bytes.ofText "rawkey") = some (kept (.ofBytes scribble)) := by
    have short : ¬ 2097152 < scribble.length := by decide
    simp [scribbled, write_exact, check_row_write, content_row, fits, short, opening_empty,
      admits, LawfulEntryMap.find?_put]
  have noRow : NoRow (kept (.ofBytes scribble)).bytes :=
    (undecoded_iff _).mp ⟨.truncated 0, by cbv⟩
  obtain ⟨corrupt, _, _, _, repair⟩ := raw_rows_exact scribbled "rawkey" fits
  obtain ⟨written, _⟩ := repair _ found noRow
  obtain ⟨_, back, conflicts⟩ := written [] [] rfl (by decide)
  exact ⟨fits, corrupt.mpr ⟨_, found, noRow⟩, conflicts, back⟩

end FlashStore.RawRows

/-! The map of rows -/

namespace FlashStore.RowTable
open CallRuns DriveCalls FieldRecords RequestChecks RowBlobs RowCalls

abbrev Rows := String → Option Row

def assign (rows : Rows) (key : String) (row : Option Row) : Rows :=
  fun other => if key = other then row else rows other

def failed (failure : ResultCode) : Answer := .rowDone (.error (.device failure))

/-- The reference: one row call on a map of rows. -/
def refer (call : RowCall) (rows : Rows) : Answer × Rows :=
  match call with
  | .read key =>
    if ¬ KeyFits key then (.row (.error (.device .keyLengthInvalid)), rows)
    else
      match rows key with
      | none => (.row (.error (.device .keyNotExist)), rows)
      | some row => (.row (.ok row), rows)
  | .insert key row =>
    if ¬ KeyFits key then (failed .keyLengthInvalid, rows)
    else if 2097152 < spelledSize row then (failed .valueLengthInvalid, rows)
    else if (rows key).isSome then (failed .keyAlreadyExists, rows)
    else (.rowDone (.ok ()), assign rows key (some row))
  | .update key row =>
    if ¬ KeyFits key then (failed .keyLengthInvalid, rows)
    else if 2097152 < spelledSize row then (failed .valueLengthInvalid, rows)
    else if (rows key).isSome then (.rowDone (.ok ()), assign rows key (some row))
    else (failed .keyNotExist, rows)
  | .delete key =>
    if ¬ KeyFits key then (failed .keyLengthInvalid, rows)
    else if (rows key).isSome then (.rowDone (.ok ()), assign rows key none)
    else (failed .keyNotExist, rows)

def CallFits : RowCall → Prop
  | .read _ | .delete _ => True
  | .insert _ row | .update _ row => Fits row

instance : DecidablePred CallFits
  | .read _ | .delete _ => inferInstanceAs (Decidable True)
  | .insert _ row | .update _ row => inferInstanceAs (Decidable (Fits row))

/-- A stored value that spells the row; neither is there without the other. -/
def Matches : Option Row → Option StoredValue → Prop
  | none, none => True
  | some row, some value => Spells row value.bytes
  | _, _ => False

theorem matches_present (row : Option Row) (value : Option StoredValue)
    (both : Matches row value) : row.isSome = value.isSome := by
  cases row with
  | none =>
      cases value with
      | none => rfl
      | some _ => cases both
  | some _ =>
      cases value with
      | none => cases both
      | some _ => rfl

section Step
variable {τ : Type} [EntryMap τ]

def Holds (rows : Rows) (entries : τ) : Prop :=
  ∀ key, Matches (rows key) (find? entries (Bytes.ofText key))

/-- The drive answers the call as the map does, and both go on in agreement. -/
def InStep (rows : Rows) (entries : τ) (call : RowCall) : Prop :=
  (call.run entries).answer = (refer call rows).1 ∧
    Holds (refer call rows).2 (call.run entries).state

theorem read_in_step (rows : Rows) (entries : τ) (holds : Holds rows entries) (key : String) :
    InStep rows entries (.read key) := by
  rw [InStep, RowCall.run, read_row_exact]
  by_cases fits : KeyFits key
  · have both := holds key
    cases stored : rows key with
    | none =>
        cases found : find? entries (Bytes.ofText key) with
        | none => simpa [refer, fits, stored, Reply.map] using holds
        | some value => simp [stored, found, Matches] at both
    | some row =>
        cases found : find? entries (Bytes.ofText key) with
        | none => simp [stored, found, Matches] at both
        | some value =>
            rw [stored, found] at both
            have decoded := spelled_decodes row value.bytes both
            simpa [refer, fits, stored, decoded, Reply.map] using holds
  · simpa [refer, fits, Reply.map] using holds

variable [LawfulEntryMap τ]

theorem put_holds (rows : Rows) (entries : τ) (holds : Holds rows entries) (key : String)
    (row : Row) (value : StoredValue) (spelled : Spells row value.bytes) :
    Holds (assign rows key (some row)) (put entries (Bytes.ofText key) value) := by
  intro other
  rw [LawfulEntryMap.find?_put]
  by_cases same : key = other
  · simpa [assign, same, Matches] using spelled
  · simpa [assign, same, Bytes.ofText_inj] using holds other

theorem erase_holds (rows : Rows) (entries : τ) (holds : Holds rows entries) (key : String) :
    Holds (assign rows key none) (erase entries (Bytes.ofText key)) := by
  intro other
  rw [LawfulEntryMap.find?_erase]
  by_cases same : key = other
  · simp [assign, same, Matches]
  · simpa [assign, same, Bytes.ofText_inj] using holds other

/-- A blob small enough for the drive is kept whole, so it spells its row when it is found again. -/
theorem blob_holds (rows : Rows) (entries : τ) (holds : Holds rows entries) (key : String)
    (row : Row) (blob : Bytes) (spelled : Spells row blob) (small : ¬ 2097152 < blob.length) :
    Holds (assign rows key (some row))
      (put entries (Bytes.ofText key) (kept (.ofBytes blob))) := by
  apply put_holds rows entries holds
  rw [kept_bytes blob (by omega)]
  exact spelled

def writeCall : Device.WriteMode → String → Row → RowCall
  | .insert => .insert
  | .update => .update

theorem write_in_step (rows : Rows) (entries : τ) (holds : Holds rows entries)
    (mode : Device.WriteMode) (key : String) (row : Row) (fits : Fits row) :
    InStep rows entries (writeCall mode key row) := by
  obtain ⟨blob, encoded, spelled⟩ := encode_spells row fits
  have size := length_spelled row blob spelled
  have both := matches_present _ _ (holds key)
  have run : (writeCall mode key row).run entries =
      (RowStore.write mode entries key row).map .rowDone := by cases mode <;> rfl
  rw [InStep, run, write_row_exact mode entries key row blob encoded]
  by_cases keyFits : KeyFits key
  · by_cases large : 2097152 < blob.length
    · cases mode <;> simpa [writeCall, refer, failed, keyFits, large, ← size, Reply.map] using holds
    · -- Presence is the same in map and drive; the two modes differ in what it means.
      have written := blob_holds rows entries holds key row blob spelled large
      cases mode <;> by_cases present : (find? entries (Bytes.ofText key)).isSome <;>
        simp [writeCall, refer, failed, keyFits, large, ← size, both, present, admits, conflict,
          Reply.map, holds, written]
  · cases mode <;> simpa [writeCall, refer, failed, keyFits, Reply.map] using holds

theorem delete_in_step (rows : Rows) (entries : τ) (holds : Holds rows entries) (key : String) :
    InStep rows entries (.delete key) := by
  have both := matches_present _ _ (holds key)
  rw [InStep, RowCall.run, delete_row_exact]
  by_cases fits : KeyFits key
  · by_cases present : (find? entries (Bytes.ofText key)).isSome
    · simpa [refer, fits, both, present, Reply.map] using erase_holds rows entries holds key
    · simpa [refer, failed, fits, both, present, Reply.map] using holds
  · simpa [refer, failed, fits, Reply.map] using holds

theorem call_in_step (rows : Rows) (entries : τ) (holds : Holds rows entries) (call : RowCall)
    (fits : CallFits call) : InStep rows entries call := by
  cases call with
  | read key => exact read_in_step rows entries holds key
  | insert key row => exact write_in_step rows entries holds .insert key row fits
  | update key row => exact write_in_step rows entries holds .update key row fits
  | delete key => exact delete_in_step rows entries holds key
end Step

theorem opening_holds (opening : Opening) : Holds (fun _ => none) opening.drive := by
  intro key
  rw [opening_empty]
  trivial

def BlamesBlob (answer : Answer) : Prop :=
  ∃ failure, answer = .row (.error (.blob failure)) ∨ answer = .rowDone (.error (.blob failure))

theorem refer_blames_no_blob (call : RowCall) (rows : Rows) : ¬ BlamesBlob (refer call rows).1 := by
  cases call with
  | read key =>
      simp only [refer]
      split
      · simp [BlamesBlob]
      · split <;> simp [BlamesBlob]
  | insert key row | update key row =>
      simp only [refer]
      split
      · simp [BlamesBlob, failed]
      · split
        · simp [BlamesBlob, failed]
        · split <;> simp [BlamesBlob, failed]
  | delete key =>
      simp only [refer]
      split
      · simp [BlamesBlob, failed]
      · split <;> simp [BlamesBlob, failed]

/-- Every run of row calls on a fresh drive answers as the map of rows does, and no answer blames a
blob. -/
theorem rows_answer_as_map (opening : Opening) (calls : List RowCall)
    (fits : ∀ call ∈ calls, CallFits call) :
    answers RowCall.run calls opening.drive = predicted refer calls (fun _ => none) ∧
      ∀ answer ∈ answers RowCall.run calls opening.drive, ¬ BlamesBlob answer := by
  have same : answers RowCall.run calls opening.drive = predicted refer calls (fun _ => none) := by
    apply run_refines RowCall.run refer Holds
    · intro call member rows entries holds
      exact call_in_step rows entries holds call (fits call member)
    · exact opening_holds opening
  refine ⟨same, ?_⟩
  rw [same]
  exact predicted_all refer _ refer_blames_no_blob calls _

-- The second insert meets the first one's row, "\u00e9\u00e9" has two characters and four bytes, and
-- "abc" is too short for a key.
theorem rows_answer_as_map_sharded :
    (∀ call ∈ [RowCall.insert "\u00e9\u00e9" [⟨"", "x"⟩, ⟨"", ""⟩], .insert "\u00e9\u00e9" [],
        .read "\u00e9\u00e9", .delete "abc"], CallFits call) ∧
      answers RowCall.run [.insert "\u00e9\u00e9" [⟨"", "x"⟩, ⟨"", ""⟩], .insert "\u00e9\u00e9" [],
          .read "\u00e9\u00e9", .delete "abc"] (Opening.sharded 3 UInt64.toNat).drive =
        [.rowDone (.ok ()), failed .keyAlreadyExists, .row (.ok [⟨"", "x"⟩, ⟨"", ""⟩]),
          failed .keyLengthInvalid] :=
  ⟨by decide, (rows_answer_as_map (.sharded 3 UInt64.toNat) _ (by decide)).1⟩

end FlashStore.RowTable
