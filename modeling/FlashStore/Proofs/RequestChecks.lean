import FlashStore.Request

/-!
What a checked request names, and why a request is refused.

A descriptor's claimed length and its buffer are independent, so the content is a total function of
both; it agrees with the drive's own copy exactly where the check lets the request through. Behind a
passed check a drive therefore sees `content` and `kept` only, and never the claimed actual size.

What can be wrong with a request is said fault by fault, each on its own; a request may have
several, and it is refused with the code of the first one in a fixed order. The plain check and the
checks that hand out the content go by the same faults. Where there is none, what the descriptors
claim is what their buffers have.
-/

namespace FlashStore.RequestChecks

/-- The bytes that a key descriptor names: the first `length` bytes of its buffer. -/
def content (key : KeyRef) : Bytes := (key.buffer.getD []).take key.length

def kept (value : ValueRef) : StoredValue :=
  ⟨(value.buffer.getD []).take value.length.toNat, value.length, value.offset⟩

theorem split_front (n : Nat) (b front : Bytes)
    (whole : (Bytes.split? n b).map Prod.fst = some front) : front = b.take n := by
  obtain ⟨⟨found, rest⟩, split, rfl⟩ := Option.map_eq_some_iff.mp whole
  obtain ⟨rfl, rfl⟩ := Bytes.split?_eq_some_iff.mp split
  simp

theorem key_content (key : KeyRef) (found : Bytes) (present : key.content? = some found) :
    found = content key := by
  obtain ⟨b, held, whole⟩ := Option.bind_eq_some_iff.mp present
  simp only [content, held, Option.getD_some]
  exact split_front key.length b found whole

theorem value_content (value : ValueRef) (found : Bytes) (present : value.content? = some found) :
    found = (kept value).bytes := by
  obtain ⟨b, held, whole⟩ := Option.bind_eq_some_iff.mp present
  simp only [kept, held, Option.getD_some]
  exact split_front value.length.toNat b found whole

theorem checked_key_present (key : KeyRef) (passed : key.check = .ok ()) :
    key.content? = some (content key) := by
  simp only [KeyRef.check] at passed
  split at passed
  · cases passed
  · split at passed
    · cases passed
    · next present =>
      obtain ⟨found, holds⟩ := Option.ne_none_iff_exists'.mp present
      rw [holds, key_content key found holds]

/-- A value that passes its check can be copied. Length zero is the case without a buffer. -/
theorem checked_value_copied (value : ValueRef) (passed : value.check = .ok ()) :
    StoredValue.copyOf? value = some (kept value) := by
  simp only [StoredValue.copyOf?]
  split
  · next empty => simp [kept, empty]
  · next filled =>
    simp only [ValueRef.check] at passed
    split at passed
    · cases passed
    · split at passed
      · cases passed
      · split at passed
        · cases passed
        · next present =>
          have positive : 0 < value.length := UInt32.pos_iff_ne_zero.mpr filled
          have held : value.content? ≠ none := fun absent => present ⟨positive, absent⟩
          obtain ⟨found, holds⟩ := Option.ne_none_iff_exists'.mp held
          rw [holds, value_content value found holds]
          rfl

theorem front_length (n : Nat) (b front : Bytes)
    (whole : (Bytes.split? n b).map Prod.fst = some front) : front.length = n := by
  obtain ⟨⟨found, rest⟩, split, rfl⟩ := Option.map_eq_some_iff.mp whole
  exact (Bytes.split?_eq_some_iff.mp split).2

theorem checked_key_length (key : KeyRef) (passed : key.check = .ok ()) :
    (content key).length = key.length ∧ 4 ≤ key.length ∧ key.length ≤ 255 := by
  constructor
  · obtain ⟨b, _, whole⟩ := Option.bind_eq_some_iff.mp (checked_key_present key passed)
    exact front_length key.length b (content key) whole
  · simp only [KeyRef.check] at passed
    split at passed
    · cases passed
    · next inside =>
      simp only [minKeyLength, maxKeyLength] at inside
      omega

theorem checked_value_length (value : ValueRef) (passed : value.check = .ok ()) :
    (kept value).bytes.length = value.length.toNat := by
  have copied := checked_value_copied value passed
  simp only [StoredValue.copyOf?] at copied
  split at copied
  · next empty => simp [kept, empty]
  · obtain ⟨bytes, present, same⟩ := Option.map_eq_some_iff.mp copied
    obtain ⟨b, _, whole⟩ := Option.bind_eq_some_iff.mp present
    rw [← same]
    exact front_length value.length.toNat b bytes whole

theorem checked_value_limits (value : ValueRef) (passed : value.check = .ok ()) :
    value.length.toNat ≤ 2097152 ∧ value.offset.toNat % 512 = 0 := by
  simp only [ValueRef.check] at passed
  split at passed
  · cases passed
  · split at passed
    · cases passed
    · next small aligned =>
      simp only [maxValueLength, alignmentUnit] at small aligned
      omega

theorem request_passed_iff (key : KeyRef) (value : Option ValueRef) :
    checkRequest key value = .ok () ↔ key.check = .ok () ∧ ∀ given ∈ value, given.check = .ok () := by
  simp only [checkRequest]
  cases key.check with
  | error failure => simp
  | ok => cases value <;> simp

theorem accept_key_exact (key : KeyRef) :
    acceptKey key = (checkRequest key none).map fun _ => content key := by
  cases verdict : key.check with
  | error failure => simp [acceptKey, checkRequest, verdict, Except.map]
  | ok =>
      simp [acceptKey, checkRequest, verdict, checked_key_present key verdict, Except.map]

theorem accept_write_exact (key : KeyRef) (value : ValueRef) :
    acceptWrite key value =
      (checkRequest key (some value)).map fun _ => (content key, kept value) := by
  cases keyVerdict : key.check with
  | error failure => simp [acceptWrite, acceptKey, checkRequest, keyVerdict, Except.map]
  | ok =>
      cases verdict : value.check with
      | error failure =>
          simp [acceptWrite, acceptKey, checkRequest, keyVerdict, verdict,
            checked_key_present key keyVerdict, Except.map]
      | ok =>
          simp [acceptWrite, acceptKey, checkRequest, keyVerdict, verdict,
            checked_key_present key keyVerdict, checked_value_copied value verdict, Except.map]

-- Descriptors of whole byte strings. Their buffers are never too short, so only lengths count.

theorem content_bytes (b : Bytes) : content (.ofBytes b) = b := by
  simp [content, KeyRef.ofBytes]

theorem check_bytes (b : Bytes) :
    (KeyRef.ofBytes b).check =
      if b.length < 4 ∨ 255 < b.length then .error .keyLengthInvalid else .ok () := by
  have present : (KeyRef.ofBytes b).content? ≠ none := by
    simp [KeyRef.content?, KeyRef.ofBytes, Bytes.split?]
  simp only [KeyRef.check, present, if_false]
  rfl

theorem saturated_exact (b : Bytes) (small : b.length ≤ 2097152) :
    (saturatedLength b).toNat = b.length := by
  have within : min b.length (UInt32.size - 1) = b.length := by
    simp only [UInt32.size]
    omega
  rw [saturatedLength, within, UInt32.toNat_ofNat']
  omega

theorem saturated_large (b : Bytes) (large : 2097152 < b.length) :
    2097152 < (saturatedLength b).toNat := by
  rw [saturatedLength, UInt32.toNat_ofNat']
  simp only [UInt32.size]
  omega

/-- Saturation keeps a byte string that is too long too long, however long it is. -/
theorem check_bytes_value (b : Bytes) :
    (ValueRef.ofBytes b).check =
      if 2097152 < b.length then .error .valueLengthInvalid else .ok () := by
  by_cases large : 2097152 < b.length
  · have refused : maxValueLength < (ValueRef.ofBytes b).length.toNat := saturated_large b large
    simp [ValueRef.check, refused, large]
  · have exactly := saturated_exact b (by omega)
    have passed : ¬ maxValueLength < (ValueRef.ofBytes b).length.toNat := by
      show ¬ 2097152 < (saturatedLength b).toNat
      omega
    have present : (ValueRef.ofBytes b).content? ≠ none := by
      simp [ValueRef.content?, ValueRef.ofBytes, Bytes.split?, exactly]
    simp only [ValueRef.check, passed, if_false, present, large, and_false]
    rfl

theorem kept_bytes (b : Bytes) (small : b.length ≤ 2097152) :
    (kept (.ofBytes b)).bytes = b := by
  have exactly := saturated_exact b small
  simp [kept, ValueRef.ofBytes, exactly]

theorem kept_whole (b : Bytes) (small : b.length ≤ 2097152) :
    kept (.ofBytes b) = ⟨b, saturatedLength b, 0⟩ := by
  have bytes := kept_bytes b small
  simp only [kept, ValueRef.ofBytes] at bytes ⊢
  rw [bytes]

end FlashStore.RequestChecks

/-! Faults one by one -/

namespace FlashStore.FirstFaults
open RequestChecks

inductive Fault where
  | keyLength
  | keyBuffer
  | valueLength
  | valueOffset
  | valueBuffer
  deriving DecidableEq, Repr

def Fault.code : Fault → ResultCode
  | keyLength => .keyLengthInvalid
  | keyBuffer | valueBuffer => .paramInvalid
  | valueLength => .valueLengthInvalid
  | valueOffset => .valueOffsetMisaligned

/-- The buffer is absent or holds fewer bytes than this. -/
def Short (buffer : Option Bytes) (n : Nat) : Prop := ∀ b ∈ buffer, b.length < n

/-- The request has this fault, whatever others it has. A value of length zero needs no buffer. -/
def Has (key : KeyRef) (value : Option ValueRef) : Fault → Prop
  | .keyLength => ¬ (4 ≤ key.length ∧ key.length ≤ 255)
  | .keyBuffer => Short key.buffer key.length
  | .valueLength => ∃ given ∈ value, 2097152 < given.length.toNat
  | .valueOffset => ∃ given ∈ value, ¬ 512 ∣ given.offset.toNat
  | .valueBuffer => ∃ given ∈ value, given.length ≠ 0 ∧ Short given.buffer given.length.toNat

instance (buffer : Option Bytes) (n : Nat) : Decidable (Short buffer n) :=
  inferInstanceAs (Decidable (∀ b ∈ buffer, b.length < n))

instance (key : KeyRef) (value : Option ValueRef) : DecidablePred (Has key value)
  | .keyLength => inferInstanceAs (Decidable (¬ _))
  | .keyBuffer => inferInstanceAs (Decidable (Short _ _))
  | .valueLength | .valueOffset | .valueBuffer => inferInstanceAs (Decidable (∃ given ∈ value, _))

def keyFaults : List Fault := [.keyLength, .keyBuffer]

def valueFaults : List Fault := [.valueLength, .valueOffset, .valueBuffer]

def firstFault (key : KeyRef) (value : Option ValueRef) : Option Fault :=
  (keyFaults ++ valueFaults).find? fun fault => Has key value fault

def outcome {α : Type} (fault : Option Fault) (granted : α) : Except ResultCode α :=
  match fault with
  | some fault => .error fault.code
  | none => .ok granted

theorem front_none_iff (buffer : Option Bytes) (n : Nat) :
    (buffer.bind fun b => (Bytes.split? n b).map Prod.fst) = none ↔ Short buffer n := by
  cases buffer with
  | none => simp [Short]
  | some b => simp [Short, Bytes.split?_eq_none_iff]

theorem key_check_first (key : KeyRef) (value : Option ValueRef) :
    key.check = outcome (keyFaults.find? fun fault => Has key value fault) () := by
  have present : key.content? = none ↔ Short key.buffer key.length :=
    front_none_iff key.buffer key.length
  have outside : (key.length < minKeyLength ∨ maxKeyLength < key.length) ↔
      ¬ (4 ≤ key.length ∧ key.length ≤ 255) := by
    simp only [minKeyLength, maxKeyLength]
    omega
  simp only [KeyRef.check, present, outside, keyFaults, List.find?_cons, Has]
  by_cases length : 4 ≤ key.length ∧ key.length ≤ 255
  · by_cases short : Short key.buffer key.length <;> simp [length, short, outcome, Fault.code]
  · simp [length, outcome, Fault.code]

theorem value_check_first (key : KeyRef) (value : ValueRef) :
    value.check = outcome (valueFaults.find? fun fault => Has key (some value) fault) () := by
  have present : value.content? = none ↔ Short value.buffer value.length.toNat :=
    front_none_iff value.buffer value.length.toNat
  have filled : 0 < value.length ↔ value.length ≠ 0 := UInt32.pos_iff_ne_zero
  have large : maxValueLength < value.length.toNat ↔ 2097152 < value.length.toNat := Iff.rfl
  have misaligned : value.offset.toNat % alignmentUnit ≠ 0 ↔ ¬ 512 ∣ value.offset.toNat := by
    simp only [alignmentUnit]
    omega
  simp only [ValueRef.check, present, filled, large, misaligned, valueFaults, List.find?_cons, Has,
    Option.mem_def, Option.some.injEq, exists_eq_left']
  by_cases length : 2097152 < value.length.toNat
  · simp [length, outcome, Fault.code]
  by_cases offset : 512 ∣ value.offset.toNat
  · by_cases short : value.length ≠ 0 ∧ Short value.buffer value.length.toNat <;>
      simp [length, offset, short, outcome, Fault.code]
  · simp [length, offset, outcome, Fault.code]

theorem value_faults_none (key : KeyRef) :
    (valueFaults.find? fun fault => Has key none fault) = none := by
  simp [valueFaults, Has]

theorem check_first (key : KeyRef) (value : Option ValueRef) :
    checkRequest key value = outcome (firstFault key value) () := by
  simp only [checkRequest, key_check_first key value, firstFault, List.find?_append]
  cases keyFaults.find? fun fault => Has key value fault with
  | some fault => rfl
  | none =>
      cases value with
      | none => rw [value_faults_none]; rfl
      | some given => exact value_check_first key given

theorem accept_key_first (key : KeyRef) :
    acceptKey key = outcome (firstFault key none) (content key) := by
  rw [accept_key_exact, check_first]
  cases firstFault key none <;> rfl

theorem accept_write_first (key : KeyRef) (value : ValueRef) :
    acceptWrite key value = outcome (firstFault key (some value)) (content key, kept value) := by
  rw [accept_write_exact, check_first]
  cases firstFault key (some value) <;> rfl

theorem outcome_error_iff {α β : Type} (fault : Option Fault) (one : α) (other : β)
    (failure : ResultCode) :
    outcome fault one = .error failure ↔ outcome fault other = .error failure := by
  cases fault <;> simp [outcome]

/-- Every check of a request answers the code of its first fault. If it has none, the content that is
handed out is that of the buffers, as long as the descriptors claim; the value's size is this length,
whatever the descriptor claims it to be, and its offset is the descriptor's. What was let through
can be read and copied, so no check fails for want of a buffer behind a passed one. -/
theorem checks_agree (key : KeyRef) (value : ValueRef) :
    (∀ failure, acceptKey key = .error failure ↔ checkRequest key none = .error failure) ∧
    (∀ failure,
      acceptWrite key value = .error failure ↔ checkRequest key (some value) = .error failure) ∧
    checkRequest key none = outcome (firstFault key none) () ∧
    checkRequest key (some value) = outcome (firstFault key (some value)) () ∧
    (firstFault key none = none →
      acceptKey key = .ok (content key) ∧ (content key).length = key.length) ∧
    (firstFault key (some value) = none →
      acceptWrite key value = .ok (content key, kept value) ∧
        (content key).length = key.length ∧ (kept value).bytes.length = value.length.toNat) ∧
    (key.check = .ok () → key.content? ≠ none) ∧
    (value.check = .ok () → StoredValue.copyOf? value ≠ none) := by
  refine ⟨?_, ?_, check_first key none, check_first key (some value), ?_, ?_, ?_, ?_⟩
  · intro failure
    rw [accept_key_first, check_first]
    exact outcome_error_iff _ _ _ failure
  · intro failure
    rw [accept_write_first, check_first]
    exact outcome_error_iff _ _ _ failure
  · intro faultless
    have passed : checkRequest key none = .ok () := by rw [check_first, faultless]; rfl
    obtain ⟨keyPassed, _⟩ := (request_passed_iff key none).mp passed
    rw [accept_key_first, faultless]
    exact ⟨rfl, (checked_key_length key keyPassed).1⟩
  · intro faultless
    have passed : checkRequest key (some value) = .ok () := by rw [check_first, faultless]; rfl
    obtain ⟨keyPassed, valuePassed⟩ := (request_passed_iff key (some value)).mp passed
    rw [accept_write_first, faultless]
    exact ⟨rfl, (checked_key_length key keyPassed).1,
      checked_value_length value (valuePassed value rfl)⟩
  · intro passed
    rw [checked_key_present key passed]
    exact Option.some_ne_none _
  · intro passed
    rw [checked_value_copied value passed]
    exact Option.some_ne_none _

def frontKey : KeyRef := ⟨some [1, 2, 3, 4, 5], 4⟩

def emptyValue : ValueRef := ⟨none, 0, 7, 512⟩

-- The value cannot be read where it stands, and it can be copied all the same.
theorem checks_agree_empty :
    firstFault frontKey (some emptyValue) = none ∧ emptyValue.content? = none ∧
      acceptWrite frontKey emptyValue = .ok ([1, 2, 3, 4], ⟨[], 0, 512⟩) := by
  have faultless : firstFault frontKey (some emptyValue) = none := by decide
  obtain ⟨_, _, _, _, _, accepted, _⟩ := checks_agree frontKey emptyValue
  exact ⟨faultless, rfl, (accepted faultless).1⟩

end FlashStore.FirstFaults
