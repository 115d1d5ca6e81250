import FlashStore.Database
import Std.Data.String.ToNat

/-!
The texts of row errors, which callers compare instead of the errors. A text tells its error: the
codes of a drive have a message each, the faults of a blob begin with other letters than these, and in
a fault's sentence the part and the number can be read off, however many digits the number has. So the
text of a missing key says of a row error what its code and its status say.
-/

namespace FlashStore.ErrorTexts

def told? (text : String) : Option ResultCode :=
  ResultCode.all.find? fun failure => failure.message == text

theorem told_message (failure : ResultCode) : told? failure.message = some failure := by
  cases failure <;> simp [told?, ResultCode.all, ResultCode.message]

theorem code_message_inj (one other : ResultCode) (same : one.message = other.message) :
    one = other := by
  have told := congrArg told? same
  rw [told_message, told_message] at told
  exact Option.some.inj told

theorem first_append (front back : String) (c : Char) (first : front.toList.head? = some c) :
    (front ++ back).toList.head? = some c := by
  rw [String.toList_append, List.head?_append, first, Option.some_or]

theorem blob_message_first (failure : BlobError) :
    failure.message.toList.head? = some 'R' ∨ failure.message.toList.head? = some 'F' := by
  cases failure with
  | truncated offset =>
      left
      apply first_append
      decide
  | notUtf8 part offset | tooLarge part length =>
      right
      repeat apply first_append
      decide

theorem code_message_first (code : ResultCode) :
    code.message.toList.head? ≠ some 'R' ∧ code.message.toList.head? ≠ some 'F' := by
  cases code <;> simp [ResultCode.message]

theorem families_apart (code : ResultCode) (failure : BlobError) : code.message ≠ failure.message := by
  intro same
  have first := code_message_first code
  rw [same] at first
  rcases blob_message_first failure with letter | letter
  · exact first.1 letter
  · exact first.2 letter

-- A fault's sentence from the left: how it opens, the part, what is said of it, the number.

theorem openings_apart (back behind : String) :
    "Row blob truncated in field record at byte " ++ back ≠ "Field " ++ behind := by
  intro same
  have letters := congrArg String.toList same
  simp at letters

theorem label_told (one other : FieldPart) (back behind : String) :
    one.label ++ back = other.label ++ behind ↔ one = other ∧ back = behind := by
  have apart (back behind : String) : "name" ++ back ≠ "value" ++ behind := by
    intro same
    have letters := congrArg String.toList same
    simp at letters
  cases one <;> cases other <;> simp [FieldPart.label, apart, (apart behind back).symm]

theorem faults_apart (back behind : String) : " at byte " ++ back ≠ " is " ++ behind := by
  intro same
  have letters := congrArg String.toList same
  simp at letters

theorem number_told (one other : Nat) (back : String) :
    toString one ++ back = toString other ++ back ↔ one = other := by
  rw [String.append_left_inj]
  exact Nat.repr_inj

theorem not_utf8_message (part : FieldPart) (offset : Nat) :
    (BlobError.notUtf8 part offset).message =
      "Field " ++ (part.label ++ (" at byte " ++ (toString offset ++ " is not valid UTF-8"))) := by
  show "Field " ++ part.label ++ " at byte " ++ toString offset ++ " is not valid UTF-8" = _
  rw [String.append_assoc, String.append_assoc, String.append_assoc]

theorem too_large_message (part : FieldPart) (length : Nat) :
    (BlobError.tooLarge part length).message =
      "Field " ++ (part.label ++ (" is " ++ (toString length ++
        " bytes, larger than a 32-bit length prefix allows"))) := by
  show "Field " ++ part.label ++ " is " ++ toString length ++
    " bytes, larger than a 32-bit length prefix allows" = _
  rw [String.append_assoc, String.append_assoc, String.append_assoc]

theorem blob_message_inj (one other : BlobError) (same : one.message = other.message) :
    one = other := by
  cases one with
  | truncated offset =>
      cases other with
      | truncated later => rw [Nat.repr_inj.mp ((String.append_right_inj _).mp same)]
      | notUtf8 part later =>
          rw [not_utf8_message] at same
          exact absurd same (openings_apart _ _)
      | tooLarge part length =>
          rw [too_large_message] at same
          exact absurd same (openings_apart _ _)
  | notUtf8 part offset =>
      rw [not_utf8_message] at same
      cases other with
      | truncated earlier => exact absurd same.symm (openings_apart _ _)
      | notUtf8 side later =>
          rw [not_utf8_message, String.append_right_inj, label_told, String.append_right_inj,
            number_told] at same
          rw [same.1, same.2]
      | tooLarge side length =>
          rw [too_large_message, String.append_right_inj, label_told] at same
          exact absurd same.2 (faults_apart _ _)
  | tooLarge part length =>
      rw [too_large_message] at same
      cases other with
      | truncated earlier => exact absurd same.symm (openings_apart _ _)
      | notUtf8 side later =>
          rw [not_utf8_message, String.append_right_inj, label_told] at same
          exact absurd same.2.symm (faults_apart _ _)
      | tooLarge side longer =>
          rw [too_large_message, String.append_right_inj, label_told, String.append_right_inj,
            number_told] at same
          rw [same.1, same.2]

theorem missing_message_iff (cause : RowError) :
    cause.message = ResultCode.keyNotExist.message ↔ cause = .device .keyNotExist := by
  constructor
  · intro same
    cases cause with
    | device code => rw [code_message_inj code .keyNotExist same]
    | blob fault => exact absurd same.symm (families_apart .keyNotExist fault)
  · rintro rfl
    rfl

theorem not_found_iff (failure : RowError) :
    failure.isNotFound = true ↔ failure = .device .keyNotExist := by
  cases failure with
  | device code => cases code <;> simp [RowError.isNotFound]
  | blob fault => simp [RowError.isNotFound]

theorem device_error_iff (failure : RowError) (code : ResultCode) :
    failure.deviceError? = some code ↔ failure = .device code := by
  cases failure <;> simp [RowError.deviceError?]

theorem status_missing_iff (failure : RowError) :
    Status.ofRowError failure = .notFound ↔ failure = .device .keyNotExist := by
  cases failure with
  | device code => cases code <;> simp [Status.ofRowError]
  | blob fault => simp [Status.ofRowError]

/-- Two row errors have the same text only if they are the same error, of the drive or of a blob, in
whatever part and at whatever offset. So an error has the text of a missing key exactly if it is known
as not found, if its code is the one of a missing key and if the harness takes it for not found. -/
theorem error_texts_exact :
    (∀ one other : RowError, one.message = other.message ↔ one = other) ∧
    ∀ failure : RowError,
      (failure.message = ResultCode.keyNotExist.message ↔ failure.isNotFound = true) ∧
      (failure.isNotFound = true ↔ failure.deviceError? = some .keyNotExist) ∧
      (failure.deviceError? = some .keyNotExist ↔ Status.ofRowError failure = .notFound) := by
  constructor
  · intro one other
    constructor
    · intro same
      cases one with
      | device code =>
          cases other with
          | device twin => rw [code_message_inj code twin same]
          | blob fault => exact absurd same (families_apart code fault)
      | blob fault =>
          cases other with
          | device code => exact absurd same.symm (families_apart code fault)
          | blob twin => rw [blob_message_inj fault twin same]
    · rintro rfl
      rfl
  · intro failure
    rw [missing_message_iff, not_found_iff, device_error_iff, status_missing_iff]
    exact ⟨Iff.rfl, Iff.rfl, Iff.rfl⟩

end FlashStore.ErrorTexts
