import FlashStore.Bytes
import FlashStore.Text

/-!
Rows: lists of named fields. Order counts, names may repeat, and any text is a name or a value.

The record of one field is the length of the name as four bytes, the name, the length of the value
as four bytes, the value. A record holds its two lengths beside its bytes and is written as it
stands, matching or not. What is read always matches, because the lengths say how many bytes are
taken.

The blob of a row is the records of its fields, one after the other, with no count and no end mark.
Decoding reads records until the blob is used up. A blob that ends inside a record is truncated at
the start of that record, and a field whose bytes are not UTF-8 is reported at the start of its
record; the first faulty record decides.
-/

namespace FlashStore

structure Field where
  name : String
  value : String
  deriving DecidableEq, Repr, Inhabited

abbrev Row := List Field

namespace Row

/-- The fields whose names are asked for, in the row's own order. -/
def pick (row : Row) (names : List String) : Row :=
  row.filter fun field => names.contains field.name

end Row

def Field.shown (field : Field) : String :=
  "Field \x7b name: " ++ Text.quoted field.name ++ ", value: " ++ Text.quoted field.value ++ " \x7d"

def Row.shown (row : Row) : String :=
  "[" ++ ", ".intercalate (row.map Field.shown) ++ "]"

/-! Records -/

inductive FieldPart where
  | name
  | value
  deriving DecidableEq, Repr

def FieldPart.label : FieldPart → String
  | .name => "name"
  | .value => "value"

inductive BlobError where
  | truncated (offset : Nat)
  | notUtf8 (part : FieldPart) (offset : Nat)
  | tooLarge (part : FieldPart) (length : Nat)
  deriving DecidableEq, Repr

def BlobError.message : BlobError → String
  | .truncated offset => "Row blob truncated in field record at byte " ++ toString offset
  | .notUtf8 part offset =>
    "Field " ++ part.label ++ " at byte " ++ toString offset ++ " is not valid UTF-8"
  | .tooLarge part length =>
    "Field " ++ part.label ++ " is " ++ toString length ++
      " bytes, larger than a 32-bit length prefix allows"

structure Record where
  nameLength : UInt32
  name : Bytes
  valueLength : UInt32
  value : Bytes
  deriving DecidableEq, Repr

namespace Record

def size (record : Record) : Nat :=
  8 + record.name.length + record.value.length

def write (record : Record) : Bytes :=
  Bytes.ofNat 4 record.nameLength.toNat ++ (record.name ++
    (Bytes.ofNat 4 record.valueLength.toNat ++ record.value))

def readPart? (b : Bytes) : Option ((UInt32 × Bytes) × Bytes) :=
  match Bytes.split? 4 b with
  | none => none
  | some (size, rest) =>
    match Bytes.split? (Bytes.toNat size) rest with
    | none => none
    | some (content, rest) => some ((UInt32.ofNat (Bytes.toNat size), content), rest)

def read? (b : Bytes) : Option (Record × Bytes) :=
  match readPart? b with
  | none => none
  | some ((nameLength, name), rest) =>
    match readPart? rest with
    | none => none
    | some ((valueLength, value), rest) => some (⟨nameLength, name, valueLength, value⟩, rest)

def readAt? (b : Bytes) (position : Nat) : Option (Record × Nat) :=
  (read? (b.drop position)).map fun (record, rest) => (record, b.length - rest.length)

def partLength (part : FieldPart) (b : Bytes) : Except BlobError UInt32 :=
  if b.length < UInt32.size then .ok (UInt32.ofNat b.length) else .error (.tooLarge part b.length)

def ofField (field : Field) : Except BlobError Record :=
  let name := Bytes.ofText field.name
  let value := Bytes.ofText field.value
  match partLength .name name with
  | .error failure => .error failure
  | .ok nameLength =>
    match partLength .value value with
    | .error failure => .error failure
    | .ok valueLength => .ok ⟨nameLength, name, valueLength, value⟩

/-- The field of a record that was found at `offset`. The name is looked at first. -/
def toField (record : Record) (offset : Nat) : Except BlobError Field :=
  match Bytes.toText? record.name with
  | none => .error (.notUtf8 .name offset)
  | some name =>
    match Bytes.toText? record.value with
    | none => .error (.notUtf8 .value offset)
    | some value => .ok ⟨name, value⟩

theorem toNat_length (length : UInt32) :
    Bytes.toNat (Bytes.ofNat 4 length.toNat) = length.toNat := by
  rw [Bytes.toNat_ofNat]
  exact Nat.mod_eq_of_lt length.toNat_lt

theorem readPart?_eq_some {b content rest : Bytes} {length : UInt32}
    (h : readPart? b = some ((length, content), rest)) :
    b = Bytes.ofNat 4 length.toNat ++ (content ++ rest) ∧ content.length = length.toNat := by
  simp only [readPart?] at h
  split at h
  · exact absurd h (by simp)
  · next size tail front =>
    split at h
    · exact absurd h (by simp)
    · next body after whole =>
      obtain ⟨rfl, four⟩ := Bytes.split?_eq_some_iff.mp front
      obtain ⟨rfl, exact_length⟩ := Bytes.split?_eq_some_iff.mp whole
      simp only [Option.some.injEq, Prod.mk.injEq] at h
      obtain ⟨⟨rfl, rfl⟩, rfl⟩ := h
      have small : Bytes.toNat size < UInt32.size := by
        have := Bytes.toNat_lt size
        rw [four] at this
        simpa using this
      have kept : (UInt32.ofNat (Bytes.toNat size)).toNat = Bytes.toNat size := by
        rw [UInt32.toNat_ofNat']
        exact Nat.mod_eq_of_lt small
      refine ⟨?_, by rw [kept]; exact exact_length⟩
      rw [kept, ← four, Bytes.ofNat_toNat]

theorem readPart?_append (length : UInt32) (content rest : Bytes)
    (fits : content.length = length.toNat) :
    readPart? (Bytes.ofNat 4 length.toNat ++ (content ++ rest)) =
      some ((length, content), rest) := by
  have four : Bytes.split? 4 (Bytes.ofNat 4 length.toNat ++ (content ++ rest)) =
      some (Bytes.ofNat 4 length.toNat, content ++ rest) :=
    Bytes.split?_eq_some_iff.mpr ⟨rfl, Bytes.length_ofNat 4 _⟩
  have whole : Bytes.split? length.toNat (content ++ rest) = some (content, rest) :=
    Bytes.split?_eq_some_iff.mpr ⟨rfl, fits⟩
  simp [readPart?, four, toNat_length, whole]

theorem read?_eq_some {b rest : Bytes} {record : Record} (h : read? b = some (record, rest)) :
    b = record.write ++ rest ∧ record.name.length = record.nameLength.toNat ∧
      record.value.length = record.valueLength.toNat := by
  simp only [read?] at h
  split at h
  · exact absurd h (by simp)
  · next nameLength name tail front =>
    split at h
    · exact absurd h (by simp)
    · next valueLength value after back =>
      simp only [Option.some.injEq, Prod.mk.injEq] at h
      obtain ⟨rfl, rfl⟩ := h
      obtain ⟨rfl, nameFits⟩ := readPart?_eq_some front
      obtain ⟨rfl, valueFits⟩ := readPart?_eq_some back
      exact ⟨by simp [write], nameFits, valueFits⟩

theorem length_write (record : Record) : record.write.length = record.size := by
  simp [write, size]
  omega

theorem length_of_read? {b rest : Bytes} {record : Record} (h : read? b = some (record, rest)) :
    b.length = record.size + rest.length := by
  rw [(read?_eq_some h).1, List.length_append, length_write]

end Record

end FlashStore

/-! Blobs -/

namespace FlashStore.Row

def encode (row : Row) : Except BlobError Bytes :=
  (row.mapM Record.ofField).map fun records => records.flatMap Record.write

/-- Decodes what is left of a blob from `offset` on, after the fields already decoded, which come
last first. -/
def decodeFrom (offset : Nat) (decoded : List Field) (b : Bytes) : Except BlobError Row :=
  match b with
  | [] => .ok decoded.reverse
  | first :: more =>
    match _found : Record.read? (first :: more) with
    | none => .error (.truncated offset)
    | some (record, rest) =>
      match record.toField offset with
      | .error failure => .error failure
      | .ok field => decodeFrom (offset + record.size) (field :: decoded) rest
termination_by b.length
decreasing_by
  have := Record.length_of_read? _found
  simp only [Record.size] at this
  omega

def decode (b : Bytes) : Except BlobError Row := decodeFrom 0 [] b

end FlashStore.Row
