import FlashStore.Json.Lexeme

/-!
JSON values as wholes: written, passed over, and read as structures of a known shape.

A string is written between quotes, with an escape for a quote, a backslash and every control
character and no other, the shortest escape that there is. Of a value that is passed over nothing is
kept. Lists and objects may nest in it to any depth: those still open are a stack, the innermost
first, and no call waits for another.

What is read is a string, a natural number or a structure of two members. A value of another kind is
read as far as it tells its kind, because its own faults come first, and is then reported as what it
is. A structure is an object or a list. In an object its members come in any order, each at most
once, among others that are skipped; a name that is repeated is refused before its value is looked
at. In a list they come in their fixed order and the last ones may be left out, if the structure
allows it.
-/

namespace FlashStore.Json

def writtenCharacter (c : Char) : List Char :=
  if c = '"' then ['\\', '"']
  else if c = '\\' then ['\\', '\\']
  else if c = '\x08' then ['\\', 'b']
  else if c = '\x0c' then ['\\', 'f']
  else if c = '\n' then ['\\', 'n']
  else if c = '\r' then ['\\', 'r']
  else if c = '\t' then ['\\', 't']
  else if c.toNat < 0x20 then
    ['\\', 'u', '0', '0', Nat.digitChar (c.toNat / 16), Nat.digitChar (c.toNat % 16)]
  else [c]

def writtenText (s : String) : List Char :=
  '"' :: s.toList.flatMap writtenCharacter ++ ['"']

def writtenPair (first second : String) (a b : List Char) : String :=
  String.ofList
    ('{' :: writtenText first ++ ':' :: a ++ ',' :: writtenText second ++ ':' :: b ++ ['}'])

/-! Values passed over -/

inductive Frame where
  | list
  | object
  deriving DecidableEq, Repr

/-- What comes next: a value, or the inside of the innermost open frame, where an item may have just
ended. Inside no frame, all is read. -/
inductive Phase where
  | value
  | inside (afterItem : Bool)
  deriving DecidableEq, Repr

def skipScalar (first : Char) (rest : List Char) : Except ReadError (List Char) :=
  if first = 'n' then skipWord "ull".toList rest
  else if first = 't' then skipWord "rue".toList rest
  else if first = 'f' then skipWord "alse".toList rest
  else if first = '"' then skipText rest
  else if first = '-' then skipNumber rest
  else skipNumber (first :: rest)

def skipName (cs : List Char) : Except ReadError (List Char) :=
  match skipBlank cs with
  | [] => .error .ended
  | '"' :: rest =>
    match skipText rest with
    | .error failure => .error failure
    | .ok rest =>
      match skipBlank rest with
      | [] => .error .ended
      | ':' :: rest => .ok rest
      | _ => .error .malformed
  | _ => .error .malformed

def skipToItem (frame : Frame) (cs : List Char) : Except ReadError (List Char) :=
  match frame with
  | .list => .ok cs
  | .object => skipName cs

theorem length_of_skipWord {word cs rest : List Char} (h : skipWord word cs = .ok rest) :
    rest.length ≤ cs.length := by
  fun_induction skipWord word cs with
  | case1 => simp at h; subst h; exact Nat.le_refl _
  | case2 => simp at h
  | case3 _ _ _ ih =>
    have := ih h
    simp
    omega
  | case4 => simp at h

theorem length_of_skipScalar {first : Char} {cs rest : List Char}
    (h : skipScalar first cs = .ok rest) : rest.length ≤ cs.length := by
  unfold skipScalar at h
  split at h
  · exact length_of_skipWord h
  split at h
  · exact length_of_skipWord h
  split at h
  · exact length_of_skipWord h
  split at h
  · exact Nat.le_of_lt (length_of_skipText h)
  split at h
  · exact Nat.le_of_lt (length_of_skipNumber h)
  · have := length_of_skipNumber h
    simp at this
    omega

theorem length_of_skipName {cs rest : List Char} (h : skipName cs = .ok rest) :
    rest.length < cs.length := by
  unfold skipName at h
  split at h
  · simp at h
  · next opened =>
    have := length_of_skipBlank_eq opened
    split at h
    · simp at h
    · next text =>
      have := length_of_skipText text
      split at h
      · simp at h
      · next colon =>
        have := length_of_skipBlank_eq colon
        simp at h
        subst h
        omega
      · simp at h
  · simp at h

theorem length_of_skipToItem {frame : Frame} {cs rest : List Char}
    (h : skipToItem frame cs = .ok rest) : rest.length ≤ cs.length := by
  cases frame with
  | list => simp [skipToItem] at h; subst h; exact Nat.le_refl _
  | object => exact Nat.le_of_lt (length_of_skipName h)

/-- What follows the comma, if an item has ended; else all of it, as there is no comma to take. -/
def afterComma (afterItem : Bool) (c : Char) (rest : List Char) : List Char :=
  if afterItem then rest else c :: rest

theorem length_afterComma_le (afterItem : Bool) (c : Char) (rest : List Char) :
    (afterComma afterItem c rest).length ≤ rest.length + 1 := by
  cases afterItem <;> simp [afterComma]

def skipFrom (phase : Phase) (opened : List Frame) (cs : List Char) :
    Except ReadError (List Char) :=
  match phase with
  | .value =>
    match _blank : skipBlank cs with
    | [] => .error .ended
    | '[' :: rest => skipFrom (.inside false) (.list :: opened) rest
    | '{' :: rest => skipFrom (.inside false) (.object :: opened) rest
    | c :: rest =>
      match _scalar : skipScalar c rest with
      | .error failure => .error failure
      | .ok rest => skipFrom (.inside true) opened rest
  | .inside afterItem =>
    match opened with
    | [] => .ok cs
    | frame :: outer =>
      match _blank : skipBlank cs with
      | [] => .error .ended
      | c :: rest =>
        if (c = ']' ∧ frame = .list) ∨ (c = '}' ∧ frame = .object) then
          skipFrom (.inside true) outer rest
        else if afterItem ∧ c ≠ ',' then
          .error .malformed
        else
          match _item : skipToItem frame (afterComma afterItem c rest) with
          | .error failure => .error failure
          | .ok rest => skipFrom .value (frame :: outer) rest
termination_by 2 * cs.length + (if phase = .value then 0 else 1)
decreasing_by
  · have := length_of_skipBlank_eq _blank
    simp
    omega
  · have := length_of_skipBlank_eq _blank
    simp
    omega
  · have := length_of_skipBlank_eq _blank
    have := length_of_skipScalar _scalar
    simp
    omega
  · have := length_of_skipBlank_eq _blank
    simp
    omega
  · have := length_of_skipBlank_eq _blank
    have := Nat.le_trans (length_of_skipToItem _item) (length_afterComma_le _ _ _)
    simp
    omega

def skipValue (cs : List Char) : Except ReadError (List Char) := skipFrom .value [] cs

theorem length_of_skipFrom {phase : Phase} {opened : List Frame} {cs rest : List Char}
    (h : skipFrom phase opened cs = .ok rest) : rest.length ≤ cs.length := by
  fun_induction skipFrom phase opened cs with
  | case1 => simp at h
  | case2 _ _ _ blank ih =>
    have := length_of_skipBlank_eq blank
    have := ih h
    omega
  | case3 _ _ _ blank ih =>
    have := length_of_skipBlank_eq blank
    have := ih h
    omega
  | case4 => simp at h
  | case5 _ _ _ _ _ _ blank _ scalar ih =>
    have := length_of_skipBlank_eq blank
    have := length_of_skipScalar scalar
    have := ih h
    omega
  | case6 => simp at h; subst h; exact Nat.le_refl _
  | case7 => simp at h
  | case8 _ _ _ _ _ _ blank _ ih =>
    have := length_of_skipBlank_eq blank
    have := ih h
    omega
  | case9 => simp at h
  | case10 => simp at h
  | case11 _ _ _ _ _ _ blank _ _ _ item ih =>
    have := length_of_skipBlank_eq blank
    have := Nat.le_trans (length_of_skipToItem item) (length_afterComma_le _ _ _)
    have := ih h
    omega

/-! Values read -/

def wrongType (expected : String) (cs : List Char) : ReadError :=
  let found (kind : Except ReadError Found) : ReadError :=
    match kind with
    | .error failure => failure
    | .ok found => .mismatch (.wrongType found expected)
  match cs with
  | 'n' :: rest => found ((skipWord "ull".toList rest).map fun _ => .null)
  | 't' :: rest => found ((skipWord "rue".toList rest).map fun _ => .boolean true)
  | 'f' :: rest => found ((skipWord "alse".toList rest).map fun _ => .boolean false)
  | '-' :: rest => found ((readNumber true rest).map fun read => read.1.found)
  | '"' :: rest => found ((readText rest).map fun read => .text read.1)
  | '[' :: _ => found (.ok .list)
  | '{' :: _ => found (.ok .object)
  | c :: rest =>
    if isDigit c then found ((readNumber false (c :: rest)).map fun read => read.1.found)
    else .malformed
  | [] => .ended

def readString (expected : String) : Reader String := fun cs =>
  match skipBlank cs with
  | [] => .error .ended
  | '"' :: rest => readText rest
  | other => .error (wrongType expected other)

def naturalOfNumber (expected : String) : Number → Except ReadError UInt64
  | .natural n => .ok (UInt64.ofNat n)
  | .negative magnitude => .error (.mismatch (.wrongValue (.integer (-(magnitude : Int))) expected))
  | number => .error (.mismatch (.wrongType number.found expected))

def readNatural (expected : String) : Reader UInt64 := fun cs =>
  let take (read : Except ReadError (Number × List Char)) : Except ReadError (UInt64 × List Char) :=
    match read with
    | .error failure => .error failure
    | .ok (number, rest) => (naturalOfNumber expected number).map fun n => (n, rest)
  match skipBlank cs with
  | [] => .error .ended
  | '-' :: rest => take (readNumber true rest)
  | c :: rest =>
    if isDigit c then take (readNumber false (c :: rest))
    else .error (wrongType expected (c :: rest))

def readColon (cs : List Char) : Except ReadError (List Char) :=
  match skipBlank cs with
  | [] => .error .ended
  | ':' :: rest => .ok rest
  | _ => .error .malformed

/-- A structure of two members: their names, how each is read, and what the members found make of an
object and of a list. -/
structure Shape (α β γ : Type) where
  expected : String
  first : String
  second : String
  readFirst : Reader α
  readSecond : Reader β
  ofObject : Option α → Option β → Except ReadError γ
  ofList : Option α → Option β → Except ReadError γ

def readMember {α : Type} (read : Reader α) (cs : List Char) : Except ReadError (α × List Char) :=
  match readColon cs with
  | .error failure => .error failure
  | .ok rest => read rest

def skipMember (cs : List Char) : Except ReadError (List Char) :=
  match readColon cs with
  | .error failure => .error failure
  | .ok rest => skipValue rest

/-- What comes next in an object or a list: its end, or an item that starts at the given text. -/
inductive Next where
  | closed (rest : List Char)
  | item (rest : List Char)

def nextName (afterMember : Bool) (cs : List Char) : Except ReadError Next :=
  match skipBlank cs with
  | [] => .error .ended
  | '}' :: rest => .ok (.closed rest)
  | c :: rest =>
    if afterMember && c != ',' then
      .error .malformed
    else
      match skipBlank (afterComma afterMember c rest) with
      | [] => .error .ended
      | '"' :: rest => .ok (.item rest)
      | _ => .error .malformed

def nextElement (afterElement : Bool) (cs : List Char) : Except ReadError Next :=
  match skipBlank cs with
  | [] => .error .ended
  | ']' :: rest => .ok (.closed rest)
  | c :: rest =>
    if afterElement && c != ',' then
      .error .malformed
    else
      match skipBlank (afterComma afterElement c rest) with
      | [] => .error .ended
      | ']' :: _ => .error .malformed
      | rest => .ok (.item rest)

def closeList (cs : List Char) : Except ReadError (List Char) :=
  match skipBlank cs with
  | [] => .error .ended
  | ']' :: rest => .ok rest
  | _ => .error .malformed

theorem length_of_nextName {afterMember : Bool} {cs rest : List Char}
    (h : nextName afterMember cs = .ok (.item rest)) : rest.length < cs.length := by
  unfold nextName at h
  split at h
  · simp at h
  · simp at h
  · next blank =>
    have := length_of_skipBlank_eq blank
    split at h
    · simp at h
    · split at h
      · simp at h
      · next quote =>
        have := length_of_skipBlank_eq quote
        have := Nat.lt_of_lt_of_le this (length_afterComma_le _ _ _)
        simp at h
        subst h
        omega
      · simp at h

theorem length_of_skipMember {cs rest : List Char} (h : skipMember cs = .ok rest) :
    rest.length < cs.length := by
  unfold skipMember readColon at h
  split at h
  · simp at h
  · next colon =>
    split at colon
    · simp at colon
    · next blank =>
      have := length_of_skipBlank_eq blank
      have := length_of_skipFrom h
      simp at colon
      subst colon
      omega
    · simp at colon

def absent {α β : Type} (a : Option α) (b : Option β) : Nat :=
  (if a.isNone then 1 else 0) + (if b.isNone then 1 else 0)

namespace Shape

variable {α β γ : Type}

def readMembers (shape : Shape α β γ) (afterMember : Bool) (a : Option α) (b : Option β)
    (cs : List Char) : Except ReadError (γ × List Char) :=
  match _next : nextName afterMember cs with
  | .error failure => .error failure
  | .ok (.closed rest) => (shape.ofObject a b).map fun value => (value, rest)
  | .ok (.item rest) =>
    match _name : readText rest with
    | .error failure => .error failure
    | .ok (name, rest) =>
      if name = shape.first then
        match a with
        | some _ => .error (.mismatch (.repeatedMember name))
        | none =>
          match readMember shape.readFirst rest with
          | .error failure => .error failure
          | .ok (value, rest) => shape.readMembers true (some value) b rest
      else if name = shape.second then
        match b with
        | some _ => .error (.mismatch (.repeatedMember name))
        | none =>
          match readMember shape.readSecond rest with
          | .error failure => .error failure
          | .ok (value, rest) => shape.readMembers true a (some value) rest
      else
        match _skip : skipMember rest with
        | .error failure => .error failure
        | .ok rest => shape.readMembers true a b rest
termination_by (absent a b, cs.length)
decreasing_by
  · apply Prod.Lex.left
    simp [absent]
  · apply Prod.Lex.left
    simp [absent]
  · apply Prod.Lex.right
    have := length_of_nextName _next
    have := length_of_readCharacters _name
    have := length_of_skipMember _skip
    omega

def readElements (shape : Shape α β γ) (cs : List Char) : Except ReadError (γ × List Char) := do
  match ← nextElement false cs with
  | .closed rest => return (← shape.ofList none none, rest)
  | .item rest =>
    let (a, rest) ← shape.readFirst rest
    match ← nextElement true rest with
    | .closed rest => return (← shape.ofList (some a) none, rest)
    | .item rest =>
      let (b, rest) ← shape.readSecond rest
      let value ← shape.ofList (some a) (some b)
      return (value, ← closeList rest)

def read (shape : Shape α β γ) : Reader γ := fun cs =>
  match skipBlank cs with
  | [] => .error .ended
  | '{' :: rest => shape.readMembers false none none rest
  | '[' :: rest => shape.readElements rest
  | other => .error (wrongType shape.expected other)

end Shape

def readAll {α : Type} (read : Reader α) (text : String) : Except ReadError α :=
  match read text.toList with
  | .error failure => .error failure
  | .ok (value, rest) => if (skipBlank rest).isEmpty then .ok value else .error .malformed

end FlashStore.Json
