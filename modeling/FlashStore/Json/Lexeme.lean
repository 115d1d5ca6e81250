import FlashStore.Decimal
import FlashStore.Text

/-!
The pieces of JSON that hold no others: white space, words, strings and numbers. A text that is read
may end too early, be no JSON where JSON has to be, or be JSON of another shape than was asked for;
only the last of these names its cause.

A string ends at the first quote that no backslash escapes. Control characters have to be escaped in
it. A character outside the basic plane may be escaped as a pair of surrogates; half a pair is
refused.

A whole number that fits 64 bits is kept as it is; any other becomes real. A real number is found
from the digits that fit 64 bits and a power of ten: digits of the whole part that do not fit raise
the power, digits of the fraction that do not fit are dropped. The digits are rounded once and
scaled by one rounded power of ten (or by several steps of `10 ^ 308` downwards), so the result may
differ from the nearest number in its last place. A number too large to be real is refused.
-/

namespace FlashStore.Json

/-- What stood in the text where something else was asked for. A real number keeps its sign beside
its magnitude, so that minus zero is one too. -/
inductive Found where
  | null
  | boolean (b : Bool)
  | integer (n : Int)
  | real (negative : Bool) (magnitude : Decimal.Binary64)
  | text (s : String)
  | list
  | object
  deriving DecidableEq, Repr

inductive Mismatch where
  | wrongType (found : Found) (expected : String)
  | wrongValue (found : Found) (expected : String)
  | wrongLength (length : Nat) (expected : String)
  | unknownVariant (name : String) (known : List String)
  | missingMember (name : String)
  | repeatedMember (name : String)
  deriving DecidableEq, Repr

inductive ReadError where
  | mismatch (cause : Mismatch)
  | malformed
  | ended
  deriving DecidableEq, Repr

def Found.shown : Found → String
  | null => "null"
  | boolean b => "boolean `" ++ (if b then "true" else "false") ++ "`"
  | integer n => "integer `" ++ toString n ++ "`"
  | real negative magnitude =>
    "floating point `" ++ (if negative then "-" else "") ++
      ({} : Decimal.Layout).render magnitude.shortest ++ "`"
  | text s => "string " ++ Text.quoted s
  | list => "sequence"
  | object => "map"

def Mismatch.message : Mismatch → String
  | wrongType found expected => "invalid type: " ++ found.shown ++ ", expected " ++ expected
  | wrongValue found expected => "invalid value: " ++ found.shown ++ ", expected " ++ expected
  | wrongLength length expected =>
    "invalid length " ++ toString length ++ ", expected " ++ expected
  | unknownVariant name known =>
    "unknown variant `" ++ name ++ "`, expected one of " ++
      ", ".intercalate (known.map fun variant => "`" ++ variant ++ "`")
  | missingMember name => "missing field `" ++ name ++ "`"
  | repeatedMember name => "duplicate field `" ++ name ++ "`"

abbrev Reader (α : Type) := List Char → Except ReadError (α × List Char)

/-! Words and strings -/

def isBlank (c : Char) : Bool := c == ' ' || c == '\n' || c == '\t' || c == '\r'

def skipBlank (cs : List Char) : List Char := cs.dropWhile isBlank

theorem length_skipBlank_le (cs : List Char) : (skipBlank cs).length ≤ cs.length :=
  (List.dropWhile_sublist isBlank).length_le

theorem length_of_skipBlank_eq {cs rest : List Char} {c : Char} (h : skipBlank cs = c :: rest) :
    rest.length < cs.length := by
  have := length_skipBlank_le cs
  rw [h] at this
  exact this

def skipWord : (word : List Char) → (cs : List Char) → Except ReadError (List Char)
  | [], cs => .ok cs
  | _ :: _, [] => .error .ended
  | w :: word, c :: cs => if c = w then skipWord word cs else .error .malformed

def hexDigit? (c : Char) : Option Nat :=
  if '0' ≤ c ∧ c ≤ '9' then some (c.toNat - '0'.toNat)
  else if 'a' ≤ c ∧ c ≤ 'f' then some (c.toNat - 'a'.toNat + 10)
  else if 'A' ≤ c ∧ c ≤ 'F' then some (c.toNat - 'A'.toNat + 10)
  else none

/-- The number that four hexadecimal digits stand for. Fewer than four bytes of text left means that
the text has ended. -/
def readHex : Reader Nat
  | a :: b :: c :: d :: rest =>
    match hexDigit? a, hexDigit? b, hexDigit? c, hexDigit? d with
    | some a, some b, some c, some d => .ok (((a * 16 + b) * 16 + c) * 16 + d, rest)
    | _, _, _, _ => .error .malformed
  | few =>
    if few.foldr (fun c bytes => c.utf8Size + bytes) 0 < 4 then .error .ended
    else .error .malformed

def simpleEscape? (c : Char) : Option Char :=
  if c = '"' ∨ c = '\\' ∨ c = '/' then some c
  else if c = 'b' then some '\x08'
  else if c = 'f' then some '\x0c'
  else if c = 'n' then some '\n'
  else if c = 'r' then some '\r'
  else if c = 't' then some '\t'
  else none

def isLowSurrogate (n : Nat) : Bool := 0xDC00 ≤ n && n ≤ 0xDFFF

def isHighSurrogate (n : Nat) : Bool := 0xD800 ≤ n && n ≤ 0xDBFF

def readLowSurrogate (high : Nat) : Reader Char
  | [] => .error .ended
  | '\\' :: [] => .error .ended
  | '\\' :: 'u' :: rest =>
    match readHex rest with
    | .error failure => .error failure
    | .ok (low, rest) =>
      if isLowSurrogate low then
        .ok (Char.ofNat ((high - 0xD800) * 0x400 + (low - 0xDC00) + 0x10000), rest)
      else
        .error .malformed
  | _ => .error .malformed

def readEscape : Reader Char
  | [] => .error .ended
  | 'u' :: rest =>
    match readHex rest with
    | .error failure => .error failure
    | .ok (n, rest) =>
      if isLowSurrogate n then .error .malformed
      else if isHighSurrogate n then readLowSurrogate n rest
      else .ok (Char.ofNat n, rest)
  | c :: rest =>
    match simpleEscape? c with
    | some c => .ok (c, rest)
    | none => .error .malformed

def skipEscape : List Char → Except ReadError (List Char)
  | [] => .error .ended
  | 'u' :: rest => (readHex rest).map Prod.snd
  | c :: rest => if (simpleEscape? c).isSome then .ok rest else .error .malformed

theorem length_of_readHex {cs rest : List Char} {n : Nat} (h : readHex cs = .ok (n, rest)) :
    rest.length < cs.length := by
  unfold readHex at h
  split at h
  · split at h <;> simp_all
    omega
  · split at h <;> simp at h

theorem length_of_readLowSurrogate {cs rest : List Char} {high : Nat} {c : Char}
    (h : readLowSurrogate high cs = .ok (c, rest)) : rest.length < cs.length := by
  unfold readLowSurrogate at h
  split at h
  · simp at h
  · simp at h
  · split at h
    · simp at h
    · next digits =>
      have := length_of_readHex digits
      split at h
      · simp at h
        obtain ⟨_, rfl⟩ := h
        simp
        omega
      · simp at h
  · simp at h

theorem length_of_readEscape {cs rest : List Char} {c : Char} (h : readEscape cs = .ok (c, rest)) :
    rest.length < cs.length := by
  unfold readEscape at h
  split at h
  · simp at h
  · split at h
    · simp at h
    · next digits =>
      have shorter := length_of_readHex digits
      split at h
      · simp at h
      · split at h
        · have := length_of_readLowSurrogate h
          simp
          omega
        · simp at h
          obtain ⟨_, rfl⟩ := h
          simp
          omega
  · split at h
    · simp at h
      obtain ⟨_, rfl⟩ := h
      simp
    · simp at h

theorem length_of_skipEscape {cs rest : List Char} (h : skipEscape cs = .ok rest) :
    rest.length < cs.length := by
  unfold skipEscape at h
  split at h
  · simp at h
  · next tail =>
    cases digits : readHex tail with
    | error failure => simp [digits, Except.map] at h
    | ok found =>
      obtain ⟨n, left⟩ := found
      have := length_of_readHex digits
      simp [digits, Except.map] at h
      subst h
      simp
      omega
  · split at h <;> simp at h
    subst h
    simp

/-- The string whose characters follow, up to its closing quote. `read` holds what is read
already, the last character first. -/
def readCharacters (read : List Char) (cs : List Char) : Except ReadError (String × List Char) :=
  match cs with
  | [] => .error .ended
  | '"' :: rest => .ok (String.ofList read.reverse, rest)
  | '\\' :: rest =>
    match _escape : readEscape rest with
    | .error failure => .error failure
    | .ok (c, rest) => readCharacters (c :: read) rest
  | c :: rest => if c.toNat < 0x20 then .error .malformed else readCharacters (c :: read) rest
termination_by cs.length
decreasing_by
  · have := length_of_readEscape _escape
    simp
    omega
  · simp

def readText : Reader String := fun cs => readCharacters [] cs

def skipText (cs : List Char) : Except ReadError (List Char) :=
  match cs with
  | [] => .error .ended
  | '"' :: rest => .ok rest
  | '\\' :: rest =>
    match _escape : skipEscape rest with
    | .error failure => .error failure
    | .ok rest => skipText rest
  | c :: rest => if c.toNat < 0x20 then .error .malformed else skipText rest
termination_by cs.length
decreasing_by
  · have := length_of_skipEscape _escape
    simp
    omega
  · simp

theorem length_of_readCharacters {read cs rest : List Char} {s : String}
    (h : readCharacters read cs = .ok (s, rest)) : rest.length < cs.length := by
  fun_induction readCharacters read cs with
  | case1 => simp at h
  | case2 => simp at h; obtain ⟨_, rfl⟩ := h; simp
  | case3 => simp at h
  | case4 _ _ _ _ escape ih =>
    have := length_of_readEscape escape
    have := ih h
    simp
    omega
  | case5 => simp at h
  | case6 _ _ _ _ _ _ ih =>
    have := ih h
    simp
    omega

theorem length_of_skipText {cs rest : List Char} (h : skipText cs = .ok rest) :
    rest.length < cs.length := by
  fun_induction skipText cs with
  | case1 => simp at h
  | case2 => simp at h; subst h; simp
  | case3 => simp at h
  | case4 _ _ escape ih =>
    have := length_of_skipEscape escape
    have := ih h
    simp
    omega
  | case5 => simp at h
  | case6 _ _ _ _ _ ih =>
    have := ih h
    simp
    omega

/-! Numbers -/

open Decimal (Binary64)
open Text (digit?)

inductive Number where
  | natural (n : Nat)
  | negative (magnitude : Nat)
  | real (negative : Bool) (magnitude : Binary64)
  deriving DecidableEq, Repr

def Number.found : Number → Found
  | .natural n => .integer n
  | .negative magnitude => .integer (-(magnitude : Int))
  | .real sign magnitude => .real sign magnitude

def isDigit (c : Char) : Bool := (digit? c).isSome

def fitsWord (n : Nat) : Bool := n < UInt64.size

def greatestPower : Nat := 308

def stepDown (x : Binary64) : (steps : Nat) → Option Binary64
  | 0 => some x
  | steps + 1 =>
    if x.isZero then
      some x
    else
      match (Binary64.powerOfTen? greatestPower).bind x.div? with
      | none => none
      | some x => stepDown x steps

def scaleDown (x : Binary64) (k : Nat) : Option Binary64 :=
  let steps := (k - 1) / greatestPower
  (stepDown x steps).bind fun x =>
    (Binary64.powerOfTen? (k - steps * greatestPower)).bind fun power => x.div? power

def scale (digits : Nat) (power : Int) : Option Binary64 := do
  let x ← Binary64.ofNat? digits
  if power < 0 then
    scaleDown x power.natAbs
  else if power ≤ greatestPower then
    x.mul? (← Binary64.powerOfTen? power.toNat)
  else if x.isZero then
    some x
  else
    none

def realNumber (negative : Bool) (digits : Nat) (power : Int) (rest : List Char) :
    Except ReadError (Number × List Char) :=
  match scale digits power with
  | none => .error .malformed
  | some magnitude => .ok (.real negative magnitude, rest)

/-- Takes digits as long as the number they give fits 64 bits: that number, how many were taken, and
what follows. -/
def takeDigits (n taken : Nat) : List Char → Nat × Nat × List Char
  | [] => (n, taken, [])
  | c :: rest =>
    match digit? c with
    | none => (n, taken, c :: rest)
    | some d =>
      if fitsWord (n * 10 + d) then takeDigits (n * 10 + d) (taken + 1) rest
      else (n, taken, c :: rest)

/-- Reads after the letter of an exponent. An exponent beyond 31 bits makes zero, or is refused. -/
def readExponent (negative : Bool) (digits : Nat) (power : Int) (cs : List Char) :
    Except ReadError (Number × List Char) :=
  let down := cs.head? == some '-'
  let cs := if down || cs.head? == some '+' then cs.drop 1 else cs
  match cs.takeWhile isDigit, cs.dropWhile isDigit with
  | [], [] => .error .ended
  | [], _ => .error .malformed
  | exponentDigits, rest =>
    let exponent : Nat := (exponentDigits.filterMap digit?).foldl (fun n d => n * 10 + d) 0
    if exponent < 0x80000000 then
      let power := if down then power - (exponent : Int) else power + (exponent : Int)
      realNumber negative digits power rest
    else if digits = 0 || down then
      .ok (.real negative Binary64.zero, rest)
    else
      .error .malformed

def readFraction (negative : Bool) (digits : Nat) (power : Int) (cs : List Char) :
    Except ReadError (Number × List Char) :=
  if cs.isEmpty then .error .ended
  else if ¬ (cs.head?.any isDigit) then .error .malformed
  else
    let (digits, taken, rest) := takeDigits digits 0 cs
    let power := power - taken
    match rest.dropWhile isDigit with
    | 'e' :: rest | 'E' :: rest => readExponent negative digits power rest
    | rest => realNumber negative digits power rest

/-- Reads after the whole part, of which `dropped` digits did not fit. -/
def readAfterWhole (negative : Bool) (digits dropped : Nat) (cs : List Char) :
    Except ReadError (Number × List Char) :=
  match cs with
  | '.' :: rest => readFraction negative digits dropped rest
  | 'e' :: rest | 'E' :: rest => readExponent negative digits dropped rest
  | rest =>
    if 0 < dropped then realNumber negative digits dropped rest
    else if ¬ negative then .ok (.natural digits, rest)
    else if 0 < digits ∧ digits ≤ 0x8000000000000000 then .ok (.negative digits, rest)
    else realNumber true digits 0 rest

def readNumber (negative : Bool) : Reader Number
  | [] => .error .ended
  | '0' :: rest =>
    if rest.head?.any isDigit then .error .malformed else readAfterWhole negative 0 0 rest
  | c :: rest =>
    match digit? c with
    | none => .error .malformed
    | some d =>
      let (digits, _, rest) := takeDigits d 0 rest
      let dropped := (rest.takeWhile isDigit).length
      readAfterWhole negative digits dropped (rest.drop dropped)

def skipDigits (cs : List Char) : Except ReadError (List Char) :=
  if cs.head?.any isDigit then .ok (cs.dropWhile isDigit) else .error .malformed

def skipExponent (cs : List Char) : Except ReadError (List Char) :=
  match cs with
  | 'e' :: '+' :: rest | 'e' :: '-' :: rest | 'E' :: '+' :: rest | 'E' :: '-' :: rest
  | 'e' :: rest | 'E' :: rest => skipDigits rest
  | rest => .ok rest

def skipFraction (cs : List Char) : Except ReadError (List Char) :=
  match cs with
  | '.' :: rest =>
    match skipDigits rest with
    | .error failure => .error failure
    | .ok rest => skipExponent rest
  | rest => skipExponent rest

def skipNumber (cs : List Char) : Except ReadError (List Char) :=
  match cs with
  | '0' :: rest => if rest.head?.any isDigit then .error .malformed else skipFraction rest
  | rest =>
    match skipDigits rest with
    | .error failure => .error failure
    | .ok rest => skipFraction rest

theorem length_of_skipDigits {cs rest : List Char} (h : skipDigits cs = .ok rest) :
    rest.length < cs.length := by
  unfold skipDigits at h
  split at h
  · next first =>
    simp at h
    subst h
    cases cs with
    | nil => simp at first
    | cons c cs =>
      have digit : isDigit c = true := by simpa using first
      rw [List.dropWhile_cons, if_pos digit]
      have : (cs.dropWhile isDigit).length ≤ cs.length := (List.dropWhile_sublist isDigit).length_le
      simp
      omega
  · simp at h

theorem length_of_skipExponent {cs rest : List Char} (h : skipExponent cs = .ok rest) :
    rest.length ≤ cs.length := by
  unfold skipExponent at h
  split at h
  · exact Nat.le_trans (Nat.le_of_lt (length_of_skipDigits h)) (by simp; omega)
  · exact Nat.le_trans (Nat.le_of_lt (length_of_skipDigits h)) (by simp; omega)
  · exact Nat.le_trans (Nat.le_of_lt (length_of_skipDigits h)) (by simp; omega)
  · exact Nat.le_trans (Nat.le_of_lt (length_of_skipDigits h)) (by simp; omega)
  · exact Nat.le_trans (Nat.le_of_lt (length_of_skipDigits h)) (by simp)
  · exact Nat.le_trans (Nat.le_of_lt (length_of_skipDigits h)) (by simp)
  · simp at h
    subst h
    exact Nat.le_refl _

theorem length_of_skipFraction {cs rest : List Char} (h : skipFraction cs = .ok rest) :
    rest.length ≤ cs.length := by
  unfold skipFraction at h
  split at h
  · split at h
    · simp at h
    · next digits =>
      have := length_of_skipDigits digits
      have := length_of_skipExponent h
      simp
      omega
  · exact length_of_skipExponent h

theorem length_of_skipNumber {cs rest : List Char} (h : skipNumber cs = .ok rest) :
    rest.length < cs.length := by
  unfold skipNumber at h
  split at h
  · split at h
    · simp at h
    · have := length_of_skipFraction h
      simp
      omega
  · split at h
    · simp at h
    · next digits =>
      have := length_of_skipDigits digits
      have := length_of_skipFraction h
      omega

end FlashStore.Json
