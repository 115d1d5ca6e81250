import FlashStore.Bytes
import FlashStore.Text

/-!
What passes between a caller and a drive: result codes, requests and logged events.

Code 0 is success and is no member of `ResultCode`; the failures are numbered 1 to 25 without a gap,
each with a fixed message that callers compare with. The emulated drives produce six of them
(`isEmulated`); the others complete the host interface's table.

A descriptor names a buffer, which may be absent, and a length that need not be the buffer's own:
the content is the first `length` bytes. A request is checked in a fixed order and answers with the
first failure: key length, key buffer, value length, value offset, value buffer. `acceptKey` and
`acceptWrite` are the same checks with the checked content as their answer.

An event is data. It is written in two forms: the plain form, which shows texts as they are, and the
report form of the program's standard output, which pads the level, names the source and quotes
texts.
-/

namespace FlashStore

inductive ResultCode where
  | bufferSmall
  | deviceCapacity
  | deviceNotExist
  | keySpaceCapacity
  | keySpaceExist
  | keySpaceIndex
  | keySpaceName
  | keySpaceNotExist
  | keySpaceNotOpen
  | keySpaceOpen
  | iteratorFilterInvalid
  | iteratorMax
  | iteratorNotExist
  | iteratorOpen
  | keyLengthInvalid
  | keyNotExist
  | optionInvalid
  | paramInvalid
  | systemError
  | valueLengthInvalid
  | valueOffsetInvalid
  | valueOffsetMisaligned
  | valueUpdateNotAllowed
  | deviceNotOpened
  | keyAlreadyExists
  deriving DecidableEq, Repr, Inhabited

namespace ResultCode

def successMessage : String := "Successful"

def all : List ResultCode :=
  [bufferSmall, deviceCapacity, deviceNotExist, keySpaceCapacity, keySpaceExist, keySpaceIndex,
    keySpaceName, keySpaceNotExist, keySpaceNotOpen, keySpaceOpen, iteratorFilterInvalid,
    iteratorMax, iteratorNotExist, iteratorOpen, keyLengthInvalid, keyNotExist, optionInvalid,
    paramInvalid, systemError, valueLengthInvalid, valueOffsetInvalid, valueOffsetMisaligned,
    valueUpdateNotAllowed, deviceNotOpened, keyAlreadyExists]

def code : ResultCode → Nat
  | bufferSmall => 0x01
  | deviceCapacity => 0x02
  | deviceNotExist => 0x03
  | keySpaceCapacity => 0x04
  | keySpaceExist => 0x05
  | keySpaceIndex => 0x06
  | keySpaceName => 0x07
  | keySpaceNotExist => 0x08
  | keySpaceNotOpen => 0x09
  | keySpaceOpen => 0x0A
  | iteratorFilterInvalid => 0x0B
  | iteratorMax => 0x0C
  | iteratorNotExist => 0x0D
  | iteratorOpen => 0x0E
  | keyLengthInvalid => 0x0F
  | keyNotExist => 0x10
  | optionInvalid => 0x11
  | paramInvalid => 0x12
  | systemError => 0x13
  | valueLengthInvalid => 0x14
  | valueOffsetInvalid => 0x15
  | valueOffsetMisaligned => 0x16
  | valueUpdateNotAllowed => 0x17
  | deviceNotOpened => 0x18
  | keyAlreadyExists => 0x19

def message : ResultCode → String
  | bufferSmall => "Buffer space is not enough"
  | deviceCapacity => "Device does not have enough space"
  | deviceNotExist => "No device with the dev_hd exists"
  | keySpaceCapacity => "Key space does not have enough space"
  | keySpaceExist => "Key space is already created"
  | keySpaceIndex => "Index is not valid"
  | keySpaceName => "Key space name is not valid"
  | keySpaceNotExist => "Key space does not exist"
  | keySpaceNotOpen => "Key space does not open"
  | keySpaceOpen => "Key space is already opened"
  | iteratorFilterInvalid => "Iterator filter is not valid"
  | iteratorMax => "Maximum number of iterators opened"
  | iteratorNotExist => "Iterator Key Group does not exist"
  | iteratorOpen => "Iterator is already opened"
  | keyLengthInvalid => "Key is not valid"
  | keyNotExist => "Key does not exist"
  | optionInvalid => "Option is not supported"
  | paramInvalid => "Null input parameter"
  | systemError => "I/O error occurs"
  | valueLengthInvalid => "Value length is out of range"
  | valueOffsetInvalid => "Value offset is out of range"
  | valueOffsetMisaligned => "Value offset is misaligned"
  | valueUpdateNotAllowed => "Value update is not allowed"
  | deviceNotOpened => "Device was not opened yet"
  | keyAlreadyExists => "Key already exists"

def name : ResultCode → String
  | bufferSmall => "BufferSmall"
  | deviceCapacity => "DevCapacity"
  | deviceNotExist => "DevNotExist"
  | keySpaceCapacity => "KsCapacity"
  | keySpaceExist => "KsExist"
  | keySpaceIndex => "KsIndex"
  | keySpaceName => "KsName"
  | keySpaceNotExist => "KsNotExist"
  | keySpaceNotOpen => "KsNotOpen"
  | keySpaceOpen => "KsOpen"
  | iteratorFilterInvalid => "IteratorFilterInvalid"
  | iteratorMax => "IteratorMax"
  | iteratorNotExist => "IteratorNotExist"
  | iteratorOpen => "IteratorOpen"
  | keyLengthInvalid => "KeyLengthInvalid"
  | keyNotExist => "KeyNotExist"
  | optionInvalid => "OptionInvalid"
  | paramInvalid => "ParamInvalid"
  | systemError => "SysIo"
  | valueLengthInvalid => "ValueLengthInvalid"
  | valueOffsetInvalid => "ValueOffsetInvalid"
  | valueOffsetMisaligned => "ValueOffsetMisaligned"
  | valueUpdateNotAllowed => "ValueUpdateNotAllowed"
  | deviceNotOpened => "DevNotOpened"
  | keyAlreadyExists => "KeyAlreadyExists"

def isEmulated : ResultCode → Bool
  | keyLengthInvalid | keyNotExist | keyAlreadyExists | paramInvalid | valueLengthInvalid
  | valueOffsetMisaligned => true
  | _ => false

def ofCode? (code : Nat) : Option ResultCode :=
  all.find? fun failure => failure.code == code

def messageOf? (code : Nat) : Option String :=
  if code = 0 then some successMessage else (ofCode? code).map message

end ResultCode

/-! Requests -/

def minKeyLength : Nat := 4
def maxKeyLength : Nat := 255
def minValueLength : Nat := 0
def maxValueLength : Nat := 2 * 1024 * 1024
def alignmentUnit : Nat := 512
def valueLengthAlignmentUnit : Nat := 4

structure KeyRef where
  buffer : Option Bytes
  length : Nat
  deriving DecidableEq, Repr

structure ValueRef where
  buffer : Option Bytes
  length : UInt32
  actual : UInt32
  offset : UInt32
  deriving DecidableEq, Repr

/-- A drive's own copy of a written value. `actual` is the value's size and `offset` where in the
caller's object it begins. -/
structure StoredValue where
  bytes : Bytes
  actual : UInt32
  offset : UInt32
  deriving DecidableEq, Repr, Inhabited

def saturatedLength (b : Bytes) : UInt32 :=
  UInt32.ofNat (min b.length (UInt32.size - 1))

namespace KeyRef

def ofBytes (b : Bytes) : KeyRef := ⟨some b, b.length⟩

def ofText (s : String) : KeyRef := ofBytes (Bytes.ofText s)

def content? (key : KeyRef) : Option Bytes :=
  key.buffer.bind fun b => (Bytes.split? key.length b).map Prod.fst

def check (key : KeyRef) : Except ResultCode Unit :=
  if key.length < minKeyLength ∨ maxKeyLength < key.length then
    .error .keyLengthInvalid
  else if key.content? = none then
    .error .paramInvalid
  else
    .ok ()

end KeyRef

namespace ValueRef

def ofBytes (b : Bytes) : ValueRef := ⟨some b, saturatedLength b, saturatedLength b, 0⟩

def atOffset (value : ValueRef) (offset : UInt32) : ValueRef := { value with offset }

def content? (value : ValueRef) : Option Bytes :=
  value.buffer.bind fun b => (Bytes.split? value.length.toNat b).map Prod.fst

def check (value : ValueRef) : Except ResultCode Unit :=
  if maxValueLength < value.length.toNat then
    .error .valueLengthInvalid
  else if value.offset.toNat % alignmentUnit ≠ 0 then
    .error .valueOffsetMisaligned
  else if 0 < value.length ∧ value.content? = none then
    .error .paramInvalid
  else
    .ok ()

end ValueRef

namespace StoredValue

/-- A copy of what the descriptor names, if its buffer holds that much. A value of length zero needs
no buffer. The caller's claim about the actual size is not kept: it becomes the length. -/
def copyOf? (value : ValueRef) : Option StoredValue :=
  if value.length = 0 then
    some ⟨[], value.length, value.offset⟩
  else
    value.content?.map fun bytes => ⟨bytes, value.length, value.offset⟩

def length (value : StoredValue) : UInt32 := saturatedLength value.bytes

def toRef (value : StoredValue) : ValueRef :=
  ⟨some value.bytes, value.length, value.actual, value.offset⟩

end StoredValue

def checkRequest (key : KeyRef) (value : Option ValueRef) : Except ResultCode Unit :=
  match key.check with
  | .error failure => .error failure
  | .ok () =>
    match value with
    | none => .ok ()
    | some value => value.check

def acceptKey (key : KeyRef) : Except ResultCode Bytes :=
  match key.check with
  | .error failure => .error failure
  | .ok () =>
    match key.content? with
    | none => .error .paramInvalid
    | some content => .ok content

def acceptWrite (key : KeyRef) (value : ValueRef) : Except ResultCode (Bytes × StoredValue) :=
  match acceptKey key with
  | .error failure => .error failure
  | .ok content =>
    match value.check with
    | .error failure => .error failure
    | .ok () =>
      match StoredValue.copyOf? value with
      | none => .error .paramInvalid
      | some stored => .ok (content, stored)

/-! Events -/

inductive Level where
  | error
  | warn
  | info
  | debug
  | trace
  deriving DecidableEq, Repr

inductive Source where
  | singleTable
  | shardedTable
  | rows
  | harness
  | smoke
  | program
  deriving DecidableEq, Repr

/-- The value of an event's field. A `word` is one of a fixed set of names and is never quoted. -/
inductive EventValue where
  | number (n : Nat)
  | flag (b : Bool)
  | text (s : String)
  | word (s : String)
  deriving DecidableEq, Repr

structure Event where
  level : Level
  source : Source
  message : String
  fields : List (String × EventValue) := []
  deriving DecidableEq, Repr

namespace Level

def name : Level → String
  | error => "ERROR"
  | warn => "WARN"
  | info => "INFO"
  | debug => "DEBUG"
  | trace => "TRACE"

/-- How much a filter at this level lets through: a filter passes its own level and all below. -/
def rank : Level → Nat
  | error => 1
  | warn => 2
  | info => 3
  | debug => 4
  | trace => 5

end Level

namespace Source

def name : Source → String
  | singleTable => "kvssd::hashmap"
  | shardedTable => "kvssd::sharded"
  | rows => "kvssd_ycsb::row"
  | harness => "kvssd_ycsb::db"
  | smoke => "kvssd_ycsb::smoke"
  | program => "kvssd_smoke"

end Source

namespace EventValue

def plain : EventValue → String
  | number n => toString n
  | flag b => if b then "true" else "false"
  | text s => s
  | word s => s

def report : EventValue → String
  | text s => Text.quoted s
  | other => other.plain

end EventValue

namespace Event

def plain (event : Event) : String :=
  event.fields.foldl (fun line field => line ++ " " ++ field.1 ++ "=" ++ field.2.plain)
    (event.level.name ++ " " ++ event.message)

/-- The report form: the level right-aligned in five columns, the source and a colon, the message
and the fields. -/
def report (event : Event) : String :=
  let level := event.level.name
  event.fields.foldl (fun line field => line ++ " " ++ field.1 ++ "=" ++ field.2.report)
    ("".pushn ' ' (5 - level.length) ++ level ++ " " ++ event.source.name ++ ": " ++ event.message)

end Event

end FlashStore
