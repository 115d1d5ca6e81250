import FlashStore.Row

/-!
The bytes of records and rows, said without the decoder. A complete record is a length of four
bytes, as many name bytes, a length of four bytes, as many value bytes; a byte string spells a row
if it is the complete records of the row's fields in their order, and nothing else. Names and values
may hold any bytes, those of a length included, so a record ends only where its own lengths put its
end.

At any position of any byte string a record is read where a complete one stands, and the cursor
passes over exactly the bytes that writing it gives. A record whose lengths do not count its bytes
is written as it stands and never read from anywhere. The encoder writes the spelling of every row
whose texts a four-byte length can count. The decoder takes any spelling off the front of what is
left, moves its offset by as many bytes and goes on behind it; with nothing behind it, this is the
round trip.
-/

namespace FlashStore.FieldRecords

/-- One complete record with this name and this value, both as bytes. -/
def Complete (name value b : Bytes) : Prop :=
  ∃ nameSize valueSize : Bytes, nameSize.length = 4 ∧ valueSize.length = 4 ∧
    Bytes.toNat nameSize = name.length ∧ Bytes.toNat valueSize = value.length ∧
    b = nameSize ++ (name ++ (valueSize ++ value))

def Leads (name value b : Bytes) : Prop :=
  ∃ first rest, Complete name value first ∧ b = first ++ rest

/-- The complete records of a row's fields, one after the other. -/
inductive Spells : Row → Bytes → Prop where
  | nil : Spells [] []
  | cons {field : Field} {row : Row} {name value first rest : Bytes}
      (complete : Complete name value first)
      (named : Bytes.toText? name = some field.name)
      (valued : Bytes.toText? value = some field.value)
      (tail : Spells row rest) : Spells (field :: row) (first ++ rest)

theorem part_read (size part rest : Bytes) (four : size.length = 4)
    (counts : Bytes.toNat size = part.length) :
    Record.readPart? (size ++ (part ++ rest)) = some ((UInt32.ofNat part.length, part), rest) := by
  have front : Bytes.split? 4 (size ++ (part ++ rest)) = some (size, part ++ rest) :=
    Bytes.split?_eq_some_iff.mpr ⟨rfl, four⟩
  have whole : Bytes.split? part.length (part ++ rest) = some (part, rest) :=
    Bytes.split?_append part rest
  simp [Record.readPart?, front, counts, whole]

theorem part_whole (b part rest : Bytes) (length : UInt32)
    (found : Record.readPart? b = some ((length, part), rest)) :
    ∃ size : Bytes, size.length = 4 ∧ Bytes.toNat size = part.length ∧
      b = size ++ (part ++ rest) := by
  obtain ⟨bytes, fits⟩ := Record.readPart?_eq_some found
  exact ⟨Bytes.ofNat 4 length.toNat, Bytes.length_ofNat 4 _,
    (Record.toNat_length length).trans fits.symm, bytes⟩

theorem complete_read (name value first rest : Bytes) (complete : Complete name value first) :
    Record.read? (first ++ rest) =
      some (⟨UInt32.ofNat name.length, name, UInt32.ofNat value.length, value⟩, rest) := by
  obtain ⟨nameSize, valueSize, nameFour, valueFour, nameCounts, valueCounts, rfl⟩ := complete
  have front := part_read nameSize name (valueSize ++ (value ++ rest)) nameFour nameCounts
  have back := part_read valueSize value rest valueFour valueCounts
  simp [Record.read?, front, back]

theorem read_complete (b rest : Bytes) (record : Record)
    (found : Record.read? b = some (record, rest)) :
    ∃ first, Complete record.name record.value first ∧ b = first ++ rest := by
  simp only [Record.read?] at found
  split at found
  · cases found
  · next nameLength name tail front =>
    split at found
    · cases found
    · next valueLength value after back =>
      cases found
      obtain ⟨nameSize, nameFour, nameCounts, rfl⟩ := part_whole b name tail nameLength front
      obtain ⟨valueSize, valueFour, valueCounts, rfl⟩ := part_whole tail value rest valueLength back
      refine ⟨nameSize ++ (name ++ (valueSize ++ value)), ?_, by simp⟩
      exact ⟨nameSize, valueSize, nameFour, valueFour, nameCounts, valueCounts, rfl⟩

theorem leads_unique (b name value otherName otherValue : Bytes)
    (one : Leads name value b) (other : Leads otherName otherValue b) :
    name = otherName ∧ value = otherValue := by
  obtain ⟨first, rest, complete, rfl⟩ := one
  obtain ⟨otherFirst, otherRest, otherComplete, same⟩ := other
  have found := complete_read name value first rest complete
  rw [same, complete_read otherName otherValue otherFirst otherRest otherComplete] at found
  simp only [Option.some.injEq, Prod.mk.injEq, Record.mk.injEq] at found
  exact ⟨found.1.2.1.symm, found.1.2.2.2.symm⟩

theorem read_none_iff (b : Bytes) :
    Record.read? b = none ↔ ¬ ∃ name value, Leads name value b := by
  constructor
  · rintro missing ⟨name, value, first, rest, complete, rfl⟩
    rw [complete_read name value first rest complete] at missing
    cases missing
  · intro bare
    cases found : Record.read? b with
    | none => rfl
    | some pair =>
        obtain ⟨record, rest⟩ := pair
        obtain ⟨first, complete, bytes⟩ := read_complete b rest record found
        exact absurd ⟨record.name, record.value, first, rest, complete, bytes⟩ bare

theorem length_complete (name value b : Bytes) (complete : Complete name value b) :
    b.length = 8 + name.length + value.length := by
  obtain ⟨nameSize, valueSize, nameFour, valueFour, _, _, rfl⟩ := complete
  simp only [List.length_append, nameFour, valueFour]
  omega

theorem leads_nonempty (name value b : Bytes) (leads : Leads name value b) : b ≠ [] := by
  rintro rfl
  obtain ⟨first, rest, complete, empty⟩ := leads
  have long := length_complete name value first complete
  have short : first.length = 0 := by simp [List.append_eq_nil_iff.mp empty.symm]
  omega

end FlashStore.FieldRecords

/-! Records at any position -/

namespace FlashStore.RecordReads
open FieldRecords

/-- The lengths of the record count its bytes. -/
structure Counted (record : Record) : Prop where
  name : record.name.length = record.nameLength.toNat
  value : record.value.length = record.valueLength.toNat

/-- The record as it stands: its own lengths, four bytes each, and its own bytes. -/
def Verbatim (record : Record) (b : Bytes) : Prop :=
  ∃ nameSize valueSize : Bytes, nameSize.length = 4 ∧ valueSize.length = 4 ∧
    Bytes.toNat nameSize = record.nameLength.toNat ∧
    Bytes.toNat valueSize = record.valueLength.toNat ∧
    b = nameSize ++ (record.name ++ (valueSize ++ record.value))

theorem written_verbatim (record : Record) : Verbatim record record.write :=
  ⟨_, _, Bytes.length_ofNat 4 _, Bytes.length_ofNat 4 _, Record.toNat_length _,
    Record.toNat_length _, rfl⟩

theorem written_read (record : Record) (counted : Counted record) (post : Bytes) :
    Record.read? (record.write ++ post) = some (record, post) := by
  have name := Record.readPart?_append record.nameLength record.name
    (Bytes.ofNat 4 record.valueLength.toNat ++ (record.value ++ post)) counted.name
  have value := Record.readPart?_append record.valueLength record.value post counted.value
  simp [Record.read?, Record.write, name, value]

theorem read_at_iff (b : Bytes) (position after : Nat) (record : Record) :
    Record.readAt? b position = some (record, after) ↔
      Counted record ∧ ∃ pre post, b = pre ++ (record.write ++ post) ∧ pre.length = position ∧
        after = position + record.size := by
  simp only [Record.readAt?, Option.map_eq_some_iff, Prod.mk.injEq, Prod.exists]
  constructor
  · rintro ⟨found, rest, read, rfl, rfl⟩
    obtain ⟨bytes, name, value⟩ := Record.read?_eq_some read
    -- A record is not empty, so the position of one lies inside the byte string.
    have long := Record.length_of_read? read
    have some_bytes : 8 ≤ found.size := by simp only [Record.size]; omega
    rw [List.length_drop] at long
    refine ⟨⟨name, value⟩, b.take position, rest, ?_, ?_, by omega⟩
    · rw [← bytes, List.take_append_drop]
    · rw [List.length_take]
      omega
  · rintro ⟨counted, pre, post, rfl, rfl, rfl⟩
    refine ⟨record, post, ?_, rfl, ?_⟩
    · rw [List.drop_left]
      exact written_read record counted post
    · simp only [List.length_append, Record.length_write]
      omega

/-- A read succeeds exactly where a complete record stands, past the end of the byte string
nowhere. It passes over the bytes that the record is written in, and what is written is read back among
any other bytes. Only a record whose lengths count its bytes is ever read. -/
theorem record_reads_exact :
    (∀ (b : Bytes) (position : Nat),
      (∃ found, Record.readAt? b position = some found) ↔
        ∃ name value, Leads name value (b.drop position)) ∧
    (∀ (b : Bytes) (position after : Nat) (record : Record),
      Record.readAt? b position = some (record, after) →
        record.nameLength.toNat = record.name.length ∧
          record.valueLength.toNat = record.value.length ∧
          after = position + record.size ∧ after ≤ b.length ∧
          record.write = (b.take after).drop position) ∧
    (∀ (record : Record) (pre post : Bytes), Counted record →
      Record.readAt? (pre ++ record.write ++ post) pre.length =
        some (record, pre.length + record.size)) ∧
    ∀ record : Record, Verbatim record record.write ∧
      (¬ Counted record → ∀ b position after,
        Record.readAt? b position ≠ some (record, after)) := by
  refine ⟨?_, ?_, ?_, ?_⟩
  · intro b position
    cases read : Record.read? (b.drop position) with
    | none => simpa [Record.readAt?, read] using (read_none_iff _).mp read
    | some found =>
        obtain ⟨record, rest⟩ := found
        obtain ⟨first, complete, bytes⟩ := read_complete _ rest record read
        exact iff_of_true ⟨_, by rw [Record.readAt?, read]; rfl⟩
          ⟨record.name, record.value, first, rest, complete, bytes⟩
  · intro b position after record read
    obtain ⟨counted, pre, post, rfl, rfl, rfl⟩ := (read_at_iff b position after record).mp read
    refine ⟨counted.name.symm, counted.value.symm, rfl, ?_, ?_⟩
    · simp only [List.length_append, Record.length_write]
      omega
    · rw [← List.append_assoc, ← Record.length_write, ← List.length_append, List.take_left,
        List.drop_left]
  · intro record pre post counted
    rw [List.append_assoc]
    exact (read_at_iff _ _ _ record).mpr ⟨counted, pre, post, rfl, rfl, rfl⟩
  · intro record
    refine ⟨written_verbatim record, ?_⟩
    intro uncounted b position after read
    exact uncounted ((read_at_iff b position after record).mp read).1

-- A record without a value, between other bytes. The stray one says that its name has two bytes and
-- has one: in front of a zero a record stands there nevertheless, whose name takes in a byte more.
theorem record_reads_exact_between :
    Counted ⟨1, [0x6e], 0, []⟩ ∧
      Record.readAt? ([9, 9] ++ Record.write ⟨1, [0x6e], 0, []⟩ ++ [7]) 2 =
        some (⟨1, [0x6e], 0, []⟩, 11) ∧
      Record.write ⟨1, [0x6e], 0, []⟩ =
        (([9, 9] ++ Record.write ⟨1, [0x6e], 0, []⟩ ++ [7]).take 11).drop 2 ∧
      ¬ Counted ⟨2, [0x6e], 0, []⟩ ∧
      Record.readAt? (Record.write ⟨2, [0x6e], 0, []⟩ ++ [0]) 0 ≠
        some (⟨2, [0x6e], 0, []⟩, 9) := by
  obtain ⟨_, passed, among, stray⟩ := record_reads_exact
  have counted : Counted ⟨1, [0x6e], 0, []⟩ := ⟨rfl, rfl⟩
  have uncounted : ¬ Counted ⟨2, [0x6e], 0, []⟩ := fun counted => absurd counted.name (by decide)
  have read := among ⟨1, [0x6e], 0, []⟩ [9, 9] [7] counted
  exact ⟨counted, read, (passed _ _ _ _ read).2.2.2.2, uncounted, (stray _).2 uncounted _ _ _⟩

end FlashStore.RecordReads

/-! Encoding and decoding -/

namespace FlashStore.RowBlobs
open FieldRecords

def FieldFits (field : Field) : Prop :=
  field.name.utf8ByteSize < UInt32.size ∧ field.value.utf8ByteSize < UInt32.size

def Fits (row : Row) : Prop := ∀ field ∈ row, FieldFits field

instance (field : Field) : Decidable (FieldFits field) :=
  inferInstanceAs (Decidable (_ ∧ _))

instance (row : Row) : Decidable (Fits row) :=
  inferInstanceAs (Decidable (∀ field ∈ row, FieldFits field))

def spelledSize : Row → Nat
  | [] => 0
  | field :: row => 8 + field.name.utf8ByteSize + field.value.utf8ByteSize + spelledSize row

theorem part_length (part : FieldPart) (s : String) (fits : s.utf8ByteSize < UInt32.size) :
    Record.partLength part (Bytes.ofText s) = .ok (UInt32.ofNat s.utf8ByteSize) := by
  simp [Record.partLength, Bytes.length_ofText, fits]

theorem length_kept (n : Nat) (fits : n < UInt32.size) : (UInt32.ofNat n).toNat = n := by
  rw [UInt32.toNat_ofNat']
  exact Nat.mod_eq_of_lt fits

theorem field_written (field : Field) (fits : FieldFits field) :
    ∃ record, Record.ofField field = .ok record ∧
      Complete (Bytes.ofText field.name) (Bytes.ofText field.value) record.write := by
  refine ⟨_, by simp [Record.ofField, part_length, fits.1, fits.2]; rfl, ?_⟩
  refine ⟨_, _, Bytes.length_ofNat 4 _, Bytes.length_ofNat 4 _, ?_, ?_, rfl⟩
  · rw [Bytes.toNat_ofNat, length_kept _ fits.1, Bytes.length_ofText]
    exact Nat.mod_eq_of_lt fits.1
  · rw [Bytes.toNat_ofNat, length_kept _ fits.2, Bytes.length_ofText]
    exact Nat.mod_eq_of_lt fits.2

theorem encode_cons (field : Field) (row : Row) (record : Record)
    (written : Record.ofField field = .ok record) :
    Row.encode (field :: row) = (Row.encode row).map fun blob => record.write ++ blob := by
  simp only [Row.encode, List.mapM_cons, written]
  cases List.mapM Record.ofField row <;> simp [bind, Except.bind, pure, Except.pure, Except.map]

theorem encode_spells (row : Row) (fits : Fits row) :
    ∃ blob, Row.encode row = .ok blob ∧ Spells row blob := by
  induction row with
  | nil => exact ⟨[], rfl, .nil⟩
  | cons field row ih =>
      obtain ⟨record, written, complete⟩ := field_written field (fits field List.mem_cons_self)
      obtain ⟨blob, encoded, spelled⟩ :=
        ih fun later member => fits later (List.mem_cons_of_mem field member)
      refine ⟨record.write ++ blob, ?_, ?_⟩
      · rw [encode_cons field row record written, encoded]
        rfl
      · exact .cons complete (Bytes.toText?_ofText _) (Bytes.toText?_ofText _) spelled

theorem length_spelled (row : Row) (b : Bytes) (spelled : Spells row b) :
    b.length = spelledSize row := by
  induction spelled with
  | nil => rfl
  | cons complete named valued _ ih =>
      rw [List.length_append, length_complete _ _ _ complete, ih,
        Bytes.eq_ofText_of_toText? named, Bytes.eq_ofText_of_toText? valued,
        Bytes.length_ofText, Bytes.length_ofText, spelledSize]

theorem decode_record (offset : Nat) (decoded : List Field) (b rest : Bytes) (record : Record)
    (found : Record.read? b = some (record, rest)) :
    Row.decodeFrom offset decoded b =
      match record.toField offset with
      | .error failure => .error failure
      | .ok field => Row.decodeFrom (offset + record.size) (field :: decoded) rest := by
  cases b with
  | nil => cases found
  | cons first more =>
      rw [Row.decodeFrom]
      split
      · next missing => cases found.symm.trans missing
      · next other tail same =>
        cases found.symm.trans same
        rfl

theorem decode_cut (offset : Nat) (decoded : List Field) (first : UInt8) (more : Bytes)
    (missing : Record.read? (first :: more) = none) :
    Row.decodeFrom offset decoded (first :: more) = .error (.truncated offset) := by
  rw [Row.decodeFrom]
  split
  · rfl
  · next record rest found => cases missing.symm.trans found

/-- The decoder takes a spelled row off the front, whatever follows. -/
theorem decode_spelled (row : Row) (front rest : Bytes) (spelled : Spells row front)
    (offset : Nat) (decoded : List Field) :
    Row.decodeFrom offset decoded (front ++ rest) =
      Row.decodeFrom (offset + front.length) (row.reverse ++ decoded) rest := by
  -- What stands before a record does not matter to it, so offset and fields vary in the induction.
  induction spelled generalizing offset decoded with
  | nil => rfl
  | @cons field row name value first tail complete named valued _ ih =>
      have found := complete_read name value first (tail ++ rest) complete
      have size := length_complete name value first complete
      rw [List.append_assoc, decode_record offset decoded _ _ _ found]
      simp only [Record.toField, named, valued, Record.size, ← size, ih]
      simp [Nat.add_assoc]

theorem spelled_decodes (row : Row) (b : Bytes) (spelled : Spells row b) :
    Row.decode b = .ok row := by
  have taken := decode_spelled row b [] spelled 0 []
  rw [List.append_nil, List.append_nil] at taken
  simpa [Row.decode, Row.decodeFrom] using taken

/-- Any row whose texts a length can count comes back as it was: every field, in its place, with
empty and repeated names. -/
theorem decode_encode (row : Row) (fits : Fits row) :
    ∃ blob, Row.encode row = .ok blob ∧ Row.decode blob = .ok row := by
  obtain ⟨blob, encoded, spelled⟩ := encode_spells row fits
  exact ⟨blob, encoded, spelled_decodes row blob spelled⟩

-- The middle value is the text of a length, and two fields share the empty name.
theorem decode_encode_nameless :
    Fits [⟨"", "\u00e9"⟩, ⟨"n", "\x01\x00\x00\x00"⟩, ⟨"", ""⟩] ∧
      ∃ blob, Row.encode [⟨"", "\u00e9"⟩, ⟨"n", "\x01\x00\x00\x00"⟩, ⟨"", ""⟩] = .ok blob ∧
        Row.decode blob = .ok [⟨"", "\u00e9"⟩, ⟨"n", "\x01\x00\x00\x00"⟩, ⟨"", ""⟩] :=
  ⟨by decide, decode_encode _ (by decide)⟩

end FlashStore.RowBlobs
