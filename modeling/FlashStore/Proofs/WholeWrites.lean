import FlashStore.Proofs.BulkRuns

/-!
Writes of byte strings of any length. The length of a descriptor has 32 bits and stops at the largest
number, which is far beyond what a drive takes, so a byte string whose length does not fit is refused
as too long and never cut to what the low bits of its length say. With that a write has two ends: all
of the bytes stand under the key, or nothing has changed. A row comes down to one such write of its
blob, however long the blob is that its fields make together.
-/

namespace FlashStore.WholeWrites
open BlobImage DriveCalls RequestChecks RowBlobs RowCalls SampleRows

/-- The stored value is all of `s`. -/
structure Whole (s : Bytes) (stored : StoredValue) : Prop where
  bytes : stored.bytes = s
  actual : stored.actual.toNat = s.length
  offset : stored.offset = 0

theorem kept_is_whole (s : Bytes) (small : s.length ≤ 2097152) : Whole s (kept (.ofBytes s)) := by
  rw [kept_whole s small]
  exact ⟨rfl, saturated_exact s small, rfl⟩

theorem check_bytes_write (key : KeyRef) (s : Bytes) (valid : key.check = .ok ()) :
    checkRequest key (some (.ofBytes s)) =
      if 2097152 < s.length then .error .valueLengthInvalid else .ok () := by
  rw [checkRequest, valid]
  exact check_bytes_value s

theorem accept_bytes (key : KeyRef) (s : Bytes) (valid : key.check = .ok ()) :
    acceptWrite key (.ofBytes s) =
      if 2097152 < s.length then .error .valueLengthInvalid
      else .ok (content key, kept (.ofBytes s)) := by
  rw [accept_write_exact, check_bytes_write key s valid]
  split <;> rfl

/-- All of `s` was written under the key content and nothing else has changed, or nothing at all. -/
def AllOrNothing {τ α : Type} [EntryMap τ] (s key : Bytes) (before : τ)
    (reply : Reply τ (Except α Unit)) : Prop :=
  (∃ stored, reply.answer = .ok () ∧ find? reply.state key = some stored ∧ Whole s stored ∧
    ∀ other, other ≠ key → find? reply.state other = find? before other) ∨
  ∃ failure, reply.answer = .error failure ∧ reply.state = before

theorem unfit_stays {σ : Type} [Device σ] (mode : Device.WriteMode) (store : σ) (key : String)
    (row : Row) (unfit : ¬ Fits row) :
    ∃ failure, (RowStore.write mode store key row).answer = .error (.blob failure) ∧
      (RowStore.write mode store key row).state = store := by
  cases encoded : row.encode with
  | error failure => exact ⟨failure, by simp [RowStore.write, encoded]⟩
  | ok blob => exact absurd (encoded_fits row blob encoded) unfit

section Writes
variable {τ : Type} [EntryMap τ] [LawfulEntryMap τ] (mode : Device.WriteMode) (entries : τ)

theorem device_whole (key : KeyRef) (s : Bytes) :
    AllOrNothing s (content key) entries (Device.write mode entries key (.ofBytes s)) := by
  rw [write_exact]
  cases verdict : checkRequest key (some (.ofBytes s)) with
  | error failure => exact .inr ⟨failure, rfl, rfl⟩
  | ok =>
      have valid := ((request_passed_iff key _).mp verdict).1
      have small : s.length ≤ 2097152 := by
        rw [check_bytes_write key s valid] at verdict
        split at verdict
        · cases verdict
        · omega
      by_cases admitted : admits mode (find? entries (content key)).isSome = true
      · refine .inl ⟨kept (.ofBytes s), ?_, ?_, kept_is_whole s small, ?_⟩
        · simp [admitted]
        · simp [admitted, LawfulEntryMap.find?_put]
        · intro other different
          simp [admitted, LawfulEntryMap.find?_put, different.symm]
      · exact .inr ⟨conflict mode, by simp [admitted], by simp [admitted]⟩

theorem device_done_iff (key : KeyRef) (s : Bytes) (valid : key.check = .ok ()) :
    (Device.write mode entries key (.ofBytes s)).answer = .ok () ↔
      s.length ≤ 2097152 ∧ admits mode (find? entries (content key)).isSome = true := by
  rw [write_exact, check_bytes_write key s valid]
  by_cases small : s.length ≤ 2097152
  · rw [if_neg (Nat.not_lt.mpr small)]
    by_cases admitted : admits mode (find? entries (content key)).isSome = true
    · simp [small, admitted]
    · simp [admitted]
  · rw [if_pos (Nat.lt_of_not_le small)]
    simp [small]

variable (key : String) (row : Row)

theorem row_whole (blob : Bytes) (encoded : row.encode = .ok blob) :
    AllOrNothing blob (Bytes.ofText key) entries (RowStore.write mode entries key row) := by
  have whole := device_whole mode entries (.ofText key) blob
  rw [content_row] at whole
  simp only [RowStore.write, encoded]
  generalize Device.write mode entries (.ofText key) (.ofBytes blob) = reply at whole ⊢
  obtain ⟨answer, events, after⟩ := reply
  rcases whole with ⟨stored, rfl, found⟩ | ⟨failure, rfl, same⟩
  · exact .inl ⟨stored, rfl, found⟩
  · exact .inr ⟨.device failure, rfl, same⟩

end Writes

/-- A byte string of any length, be it more than a 32-bit length can say, is refused under a valid
key exactly if a drive does not take as much, and else kept to its last byte. So no write of a byte
string or of a row leaves a part of it on a drive, also where the fields of the row fit a 32-bit
length each and the blob does not. -/
theorem written_whole :
    (∀ (key : KeyRef) (s : Bytes), key.check = .ok () →
      (acceptWrite key (.ofBytes s) = .error .valueLengthInvalid ↔ 2097152 < s.length) ∧
      (s.length ≤ 2097152 →
        ∃ stored, acceptWrite key (.ofBytes s) = .ok (content key, stored) ∧ Whole s stored)) ∧
    (∀ mode (drive : Drive) (key : KeyRef) (s : Bytes),
      AllOrNothing s (content key) drive (Device.write mode drive key (.ofBytes s)) ∧
      (key.check = .ok () → ((Device.write mode drive key (.ofBytes s)).answer = .ok () ↔
        s.length ≤ 2097152 ∧ admits mode (find? drive (content key)).isSome = true))) ∧
    ∀ mode (drive : Drive) (key : String) (row : Row),
      (¬ Fits row → ∃ failure,
        (RowStore.write mode drive key row).answer = .error (.blob failure) ∧
          (RowStore.write mode drive key row).state = drive) ∧
      (Fits row → ∃ blob, row.encode = .ok blob ∧ blob.length = spelledSize row ∧
        AllOrNothing blob (Bytes.ofText key) drive (RowStore.write mode drive key row) ∧
        (KeyFits key →
          ((RowStore.write mode drive key row).answer = .error (.device .valueLengthInvalid) ↔
            2097152 < blob.length))) := by
  refine ⟨?_, ?_, ?_⟩
  · intro key s valid
    rw [accept_bytes key s valid]
    by_cases large : 2097152 < s.length
    · exact ⟨by simp [large], fun small => absurd large (Nat.not_lt.mpr small)⟩
    · exact ⟨by simp [large], fun small => ⟨_, if_neg large, kept_is_whole s small⟩⟩
  · intro mode drive key s
    exact ⟨device_whole mode drive key s, device_done_iff mode drive key s⟩
  · intro mode drive key row
    refine ⟨unfit_stays mode drive key row, ?_⟩
    intro fits
    obtain ⟨blob, encoded, spelled⟩ := encode_spells row fits
    exact ⟨blob, encoded, length_spelled row blob spelled,
      row_whole mode drive key row blob encoded,
      write_too_long_iff mode drive key row blob encoded⟩

def wideRow (n : Nat) : Row := [⟨"one", "".pushn 'x' n⟩, ⟨"two", "".pushn 'x' n⟩]

theorem wide_fits_iff (n : Nat) : Fits (wideRow n) ↔ n < UInt32.size := by
  have one : "one".utf8ByteSize < UInt32.size := by decide
  have two : "two".utf8ByteSize < UInt32.size := by decide
  simp [Fits, FieldFits, wideRow, size_filler, one, two]

theorem wide_size (n : Nat) : spelledSize (wideRow n) = 2 * n + 22 := by
  have one : "one".utf8ByteSize = 3 := by decide
  have two : "two".utf8ByteSize = 3 := by decide
  simp only [wideRow, spelledSize, size_filler, one, two]
  omega

-- The low 32 bits of the first length say five. The two fields of the first row make a blob of more
-- than 4 GiB together, and those of the second one are too long for their own lengths.
theorem written_whole_beyond :
    (KeyRef.ofText "key1").check = .ok () ∧
      acceptWrite (.ofText "key1") (.ofBytes (List.replicate 4294967301 0)) =
        .error .valueLengthInvalid ∧
      (∃ stored, acceptWrite (.ofText "key1") (.ofBytes [1, 2, 3]) =
          .ok (content (.ofText "key1"), stored) ∧ Whole [1, 2, 3] stored) ∧
      KeyFits "key1" ∧ Fits (wideRow 2147483648) ∧ ¬ Fits (wideRow 4294967296) ∧
      (RowStore.write .insert (Opening.single none).drive "key1" (wideRow 2147483648)).answer =
        .error (.device .valueLengthInvalid) ∧
      ∃ failure,
        (RowStore.write .insert (Opening.single none).drive "key1" (wideRow 4294967296)).answer =
          .error (.blob failure) := by
  obtain ⟨bytes, _, rows⟩ := written_whole
  have valid : (KeyRef.ofText "key1").check = .ok () := rfl
  have keyFits : KeyFits "key1" := by decide
  have fits : Fits (wideRow 2147483648) := (wide_fits_iff _).mpr (by decide)
  have unfit : ¬ Fits (wideRow 4294967296) := mt (wide_fits_iff _).mp (by decide)
  refine ⟨valid, ?_, (bytes _ [1, 2, 3] valid).2 (by decide), keyFits, fits, unfit, ?_, ?_⟩
  · apply (bytes _ _ valid).1.mpr
    rw [List.length_replicate]
    decide
  · obtain ⟨blob, _, size, _, tooLong⟩ := (rows .insert _ "key1" _).2 fits
    rw [wide_size] at size
    exact (tooLong keyFits).mpr (by omega)
  · obtain ⟨failure, refused, _⟩ := (rows .insert _ "key1" _).1 unfit
    exact ⟨failure, refused⟩

end FlashStore.WholeWrites
