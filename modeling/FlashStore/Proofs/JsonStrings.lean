import FlashStore.Json.Shape
import Mathlib.Data.List.Basic

/-!
The grammar of JSON as predicates on texts, and its strings read, skipped and written.

The grammar is said without the readers: a text is in it by the pieces that it is made of, not by
what is left when some of them are gone. Two things that hang together are kept apart for strings.
Every string between quotes is a value; it stands for a text only if no escape in it is half of a
surrogate pair.

What is read are the spellings of texts and nothing else, and what is skipped is everything that may
stand between quotes, so both end at the same quote. Every text is written as one of its spellings.
-/

namespace FlashStore.JsonGrammar

def Blank (s : List Char) : Prop := ∀ c ∈ s, c ∈ [' ', '\t', '\n', '\r']

-- Numbers.

def Digits (s : List Char) : Prop := s ≠ [] ∧ ∀ c ∈ s, c.isDigit = true

/-- Zero, or digits that do not begin with it. -/
inductive Whole : List Char → Prop where
  | zero : Whole ['0']
  | digits {c : Char} {rest : List Char} (nonzero : c ≠ '0') (digits : Digits (c :: rest)) :
      Whole (c :: rest)

inductive Fraction : List Char → Prop where
  | absent : Fraction []
  | present {s : List Char} (digits : Digits s) : Fraction ('.' :: s)

inductive Exponent : List Char → Prop where
  | absent : Exponent []
  | present {mark : Char} {sign s : List Char} (marked : mark ∈ ['e', 'E'])
      (signed : sign ∈ [[], ['+'], ['-']]) (digits : Digits s) : Exponent (mark :: (sign ++ s))

inductive Number : List Char → Prop where
  | parts {sign whole fraction exponent : List Char} (signed : sign ∈ [[], ['-']])
      (counts : Whole whole) (divides : Fraction fraction) (scales : Exponent exponent) :
      Number (sign ++ (whole ++ (fraction ++ exponent)))

-- Strings.

def Hex (c : Char) (n : Nat) : Prop :=
  "0123456789abcdef".toList[n]? = some c ∨ "0123456789ABCDEF".toList[n]? = some c

inductive CodeUnit : List Char → Nat → Prop where
  | digits {a b c d : Char} {k l m n : Nat} (first : Hex a k) (second : Hex b l) (third : Hex c m)
      (fourth : Hex d n) : CodeUnit [a, b, c, d] (k * 4096 + l * 256 + m * 16 + n)

def escapes : List (Char × Char) :=
  [('"', '"'), ('\\', '\\'), ('/', '/'), ('b', '\x08'), ('f', '\x0c'), ('n', '\n'), ('r', '\r'),
    ('t', '\t')]

def Plain (c : Char) : Prop := 0x20 ≤ c.toNat ∧ c ≠ '"' ∧ c ≠ '\\'

inductive Escape : List Char → Char → Prop where
  | short {letter c : Char} (listed : (letter, c) ∈ escapes) : Escape [letter] c
  | unit {s : List Char} {c : Char} (unit : CodeUnit s c.toNat) : Escape ('u' :: s) c
  | pair {s t : List Char} {high low : Nat} {c : Char} (first : CodeUnit s high)
      (second : CodeUnit t low) (isHigh : 0xD800 ≤ high ∧ high ≤ 0xDBFF)
      (isLow : 0xDC00 ≤ low ∧ low ≤ 0xDFFF)
      (joined : c.toNat = 0x10000 + (high - 0xD800) * 0x400 + (low - 0xDC00)) :
      Escape ('u' :: (s ++ '\\' :: 'u' :: t)) c

/-- What stands between quotes, and the text it stands for. -/
inductive Spells : List Char → List Char → Prop where
  | nil : Spells [] []
  | plain {c : Char} {s text : List Char} (plain : Plain c) (tail : Spells s text) :
      Spells (c :: s) (c :: text)
  | escape {e s text : List Char} {c : Char} (escape : Escape e c) (tail : Spells s text) :
      Spells ('\\' :: (e ++ s)) (c :: text)

/-- What may stand between quotes. An escape is not asked whether it is half of a pair. -/
inductive Quotable : List Char → Prop where
  | nil : Quotable []
  | plain {c : Char} {s : List Char} (plain : Plain c) (tail : Quotable s) : Quotable (c :: s)
  | short {letter c : Char} {s : List Char} (listed : (letter, c) ∈ escapes) (tail : Quotable s) :
      Quotable ('\\' :: letter :: s)
  | unit {digits s : List Char} {n : Nat} (unit : CodeUnit digits n) (tail : Quotable s) :
      Quotable ('\\' :: 'u' :: (digits ++ s))

/-- The text of a name, and none for a name that stands for no text. -/
inductive Named : List Char → Option String → Prop where
  | text {s : List Char} {name : String} (spelled : Spells s name.toList) : Named s (some name)
  | broken {s : List Char} (quotable : Quotable s) (unspelled : ∀ text, ¬ Spells s text) :
      Named s none

-- Values.

structure Member where
  name : Option String
  value : List Char

/-- A name with the colon and the white space up to the value. -/
inductive Key : Option String → List Char → Prop where
  | mk {before s middle after : List Char} {name : Option String} (front : Blank before)
      (named : Named s name) (inner : Blank middle) (back : Blank after) :
      Key name (before ++ '"' :: (s ++ '"' :: (middle ++ ':' :: after)))

mutual
inductive Value : List Char → Prop where
  | null : Value ['n', 'u', 'l', 'l']
  | yes : Value ['t', 'r', 'u', 'e']
  | no : Value ['f', 'a', 'l', 's', 'e']
  | number {s : List Char} (number : Number s) : Value s
  | text {s : List Char} (quotable : Quotable s) : Value ('"' :: (s ++ ['"']))
  | list {values : List (List Char)} {s : List Char} (elements : Elements values s) :
      Value ('[' :: (s ++ [']']))
  | object {members : List Member} {s : List Char} (inside : Members members s) :
      Value ('{' :: (s ++ ['}']))

inductive Elements : List (List Char) → List Char → Prop where
  | none {blank : List Char} (nothing : Blank blank) : Elements [] blank
  | one {before value after : List Char} (front : Blank before) (element : Value value)
      (back : Blank after) : Elements [value] (before ++ (value ++ after))
  | more {before value after s : List Char} {values : List (List Char)} (front : Blank before)
      (element : Value value) (back : Blank after) (tail : Elements values s)
      (others : values ≠ []) : Elements (value :: values) (before ++ (value ++ (after ++ ',' :: s)))

inductive Members : List Member → List Char → Prop where
  | none {blank : List Char} (nothing : Blank blank) : Members [] blank
  | one {key value after : List Char} {name : Option String} (front : Key name key)
      (element : Value value) (back : Blank after) : Members [⟨name, value⟩] (key ++ (value ++ after))
  | more {key value after s : List Char} {name : Option String} {members : List Member}
      (front : Key name key) (element : Value value) (back : Blank after)
      (tail : Members members s) (others : members ≠ []) :
      Members (⟨name, value⟩ :: members) (key ++ (value ++ (after ++ ',' :: s)))
end

inductive ObjectText : List Member → String → Prop where
  | mk {members : List Member} {before s after : List Char} (front : Blank before)
      (inside : Members members s) (back : Blank after) :
      ObjectText members (String.ofList (before ++ '{' :: (s ++ '}' :: after)))

inductive ListText : List (List Char) → String → Prop where
  | mk {values : List (List Char)} {before s after : List Char} (front : Blank before)
      (inside : Elements values s) (back : Blank after) :
      ListText values (String.ofList (before ++ '[' :: (s ++ ']' :: after)))

end FlashStore.JsonGrammar

/-! Strings -/

namespace FlashStore.JsonStrings
open Json JsonGrammar

-- Hexadecimal digits.

instance (c : Char) (n : Nat) : Decidable (Hex c n) := inferInstanceAs (Decidable (_ ∨ _))

theorem hex_ascii (c : Char) (n : Nat) (read : hexDigit? c = some n) : c.toNat < 128 := by
  have bound (top : Char) (small : top.toNat < 128) (le : c ≤ top) : c.toNat < 128 :=
    Nat.lt_of_le_of_lt (UInt32.le_iff_toNat_le.mp le) small
  rw [hexDigit?] at read
  split at read
  · next digit => exact bound '9' (by decide) digit.2
  split at read
  · next lower => exact bound 'f' (by decide) lower.2
  split at read
  · next upper => exact bound 'F' (by decide) upper.2
  · cases read

theorem hex_read_iff (c : Char) (n : Nat) : hexDigit? c = some n ↔ Hex c n := by
  constructor
  · -- Only ASCII characters are read, so it is enough to look at each of those.
    have listed : ∀ k < 128, ∀ n ∈ hexDigit? (Char.ofNat k), Hex (Char.ofNat k) n := by
      decide +kernel
    intro read
    have found := listed c.toNat (hex_ascii c n read) n
    rw [Char.ofNat_toNat] at found
    exact found read
  · have valued : ∀ digits ∈ ["0123456789abcdef", "0123456789ABCDEF"], ∀ n < 16,
        digits.toList[n]?.bind hexDigit? = some n := by decide
    have short : "0123456789abcdef".toList.length = 16 ∧ "0123456789ABCDEF".toList.length = 16 := by
      decide
    rintro (lower | upper)
    · obtain ⟨below, _⟩ := List.getElem?_eq_some_iff.mp lower
      have read := valued "0123456789abcdef" (by simp) n (by omega)
      rwa [lower] at read
    · obtain ⟨below, _⟩ := List.getElem?_eq_some_iff.mp upper
      have read := valued "0123456789ABCDEF" (by simp) n (by omega)
      rwa [upper] at read

theorem unit_read (s rest : List Char) (n : Nat) (unit : CodeUnit s n) :
    readHex (s ++ rest) = .ok (n, rest) := by
  obtain ⟨first, second, third, fourth⟩ := unit
  rw [← hex_read_iff] at first second third fourth
  simp only [List.cons_append, List.nil_append, readHex, first, second, third, fourth]
  congr 2
  omega

theorem read_unit (cs rest : List Char) (n : Nat) (read : readHex cs = .ok (n, rest)) :
    ∃ s, CodeUnit s n ∧ cs = s ++ rest := by
  rw [readHex.eq_def] at read
  split at read
  · next a b c d behind =>
    split at read
    · next first second third fourth =>
      cases read
      rw [hex_read_iff] at first second third fourth
      refine ⟨[a, b, c, d], ?_, rfl⟩
      convert CodeUnit.digits first second third fourth using 1
      omega
    · cases read
  · split at read <;> cases read

-- Escapes.

theorem simple_read_iff (letter c : Char) :
    simpleEscape? letter = some c ↔ (letter, c) ∈ escapes := by
  constructor
  · intro read
    rw [simpleEscape?] at read
    split_ifs at read with itself back feed line carriage tab <;> cases read
    · rcases itself with rfl | rfl | rfl <;> simp [escapes]
    all_goals subst_vars; simp [escapes]
  · have listed : ∀ entry ∈ escapes, simpleEscape? entry.1 = some entry.2 := by decide
    exact listed (letter, c)

theorem simple_letter (letter c : Char) (listed : (letter, c) ∈ escapes) : letter ≠ 'u' := by
  have others : ∀ entry ∈ escapes, entry.1 ≠ 'u' := by decide
  exact others (letter, c) listed

theorem low_iff (n : Nat) : isLowSurrogate n = true ↔ 0xDC00 ≤ n ∧ n ≤ 0xDFFF := by
  simp [isLowSurrogate]

theorem high_iff (n : Nat) : isHighSurrogate n = true ↔ 0xD800 ≤ n ∧ n ≤ 0xDBFF := by
  simp [isHighSurrogate]

theorem char_no_surrogate (c : Char) :
    isLowSurrogate c.toNat = false ∧ isHighSurrogate c.toNat = false := by
  have valid : c.toNat < 0xD800 ∨ 0xDFFF < c.toNat ∧ c.toNat < 0x110000 := c.valid
  rw [← Bool.not_eq_true, ← Bool.not_eq_true, low_iff, high_iff]
  omega

theorem char_number (n : Nat) (valid : n < 0xD800 ∨ 0xDFFF < n ∧ n < 0x110000) :
    (Char.ofNat n).toNat = n := by
  rw [Char.ofNat, dif_pos valid]
  rfl

theorem unit_small (s : List Char) (n : Nat) (unit : CodeUnit s n) : n < 0x10000 := by
  have digit (c : Char) (k : Nat) (hex : Hex c k) : k < 16 := by
    rcases hex with lower | upper
    · exact (List.getElem?_eq_some_iff.mp lower).1
    · exact (List.getElem?_eq_some_iff.mp upper).1
  obtain ⟨first, second, third, fourth⟩ := unit
  have := digit _ _ first
  have := digit _ _ second
  have := digit _ _ third
  have := digit _ _ fourth
  omega

theorem escape_read (e rest : List Char) (c : Char) (escape : Escape e c) :
    readEscape (e ++ rest) = .ok (c, rest) := by
  cases escape with
  | @short letter _ listed =>
      have noUnit := simple_letter letter c listed
      simp [readEscape, (simple_read_iff letter c).mpr listed]
  | unit unit =>
      obtain ⟨notLow, notHigh⟩ := char_no_surrogate c
      simp [readEscape, unit_read _ rest _ unit, notLow, notHigh]
  | @pair s t high low _ first second isHigh isLow joined =>
      have notLow : isLowSurrogate high = false := by
        rw [← Bool.not_eq_true, low_iff]
        omega
      have number : (high - 0xD800) * 0x400 + (low - 0xDC00) + 0x10000 = c.toNat := by omega
      simp [readEscape, unit_read _ _ _ first, notLow, (high_iff high).mpr isHigh, readLowSurrogate,
        unit_read _ rest _ second, (low_iff low).mpr isLow, number]

theorem read_escape (cs rest : List Char) (c : Char) (read : readEscape cs = .ok (c, rest)) :
    ∃ e, Escape e c ∧ cs = e ++ rest := by
  rw [readEscape.eq_def] at read
  split at read
  · cases read
  · next digits =>
    split at read
    · cases read
    · next n behind unit =>
      obtain ⟨s, first, rfl⟩ := read_unit _ _ _ unit
      have small := unit_small s n first
      split_ifs at read with low high
      · rw [readLowSurrogate.eq_def] at read
        split at read
        · cases read
        · cases read
        · next later =>
          split at read
          · cases read
          · next m beyond other =>
            obtain ⟨t, second, rfl⟩ := read_unit _ _ _ other
            split_ifs at read with isLow
            simp only [Except.ok.injEq, Prod.mk.injEq] at read
            obtain ⟨rfl, rfl⟩ := read
            rw [high_iff] at high
            rw [low_iff] at isLow
            refine ⟨'u' :: (s ++ '\\' :: 'u' :: t), .pair first second high isLow ?_, by simp⟩
            rw [char_number _ (by omega)]
            omega
        · cases read
      · cases read
        refine ⟨'u' :: s, .unit ?_, rfl⟩
        rw [low_iff] at low
        rw [high_iff] at high
        rw [char_number n (by omega)]
        exact first
  · next letter behind noUnit =>
    split at read
    · next found simple =>
      cases read
      exact ⟨[letter], .short ((simple_read_iff _ _).mp simple), rfl⟩
    · cases read

-- Strings.

instance : DecidablePred Plain := fun c => inferInstanceAs (Decidable (0x20 ≤ c.toNat ∧ _))

section Turns
variable (front cs rest : List Char) (c : Char)

theorem characters_plain (plain : Plain c) :
    readCharacters front (c :: rest) = readCharacters (c :: front) rest := by
  have printable : ¬ c.toNat < 0x20 := by
    have := plain.1
    omega
  obtain ⟨_, noQuote, noSlash⟩ := plain
  rw [readCharacters.eq_def]
  simp [printable]

theorem characters_escape (read : readEscape cs = .ok (c, rest)) :
    readCharacters front ('\\' :: cs) = readCharacters (c :: front) rest := by
  rw [readCharacters]
  split
  · next failure other => cases other.symm.trans read
  · next found left other =>
    cases other.symm.trans read
    rfl

theorem skip_plain (plain : Plain c) : skipText (c :: rest) = skipText rest := by
  have printable : ¬ c.toNat < 0x20 := by
    have := plain.1
    omega
  obtain ⟨_, noQuote, noSlash⟩ := plain
  rw [skipText.eq_def]
  simp [printable]

theorem skip_escape (skip : skipEscape cs = .ok rest) : skipText ('\\' :: cs) = skipText rest := by
  rw [skipText]
  split
  · next failure other => cases other.symm.trans skip
  · next left other =>
    cases other.symm.trans skip
    rfl
end Turns

theorem spelled_read (s text : List Char) (spelled : Spells s text) (front rest : List Char) :
    readCharacters front (s ++ '"' :: rest) = .ok (String.ofList (front.reverse ++ text), rest) := by
  induction spelled generalizing front with
  | nil => simp [readCharacters]
  | @plain c s text plain tail ih =>
      rw [List.cons_append, characters_plain _ _ c plain, ih, List.reverse_cons, List.append_assoc]
      rfl
  | @escape e s text c escape tail ih =>
      rw [List.cons_append, List.append_assoc,
        characters_escape _ _ _ c (escape_read e (s ++ '"' :: rest) c escape), ih, List.reverse_cons,
        List.append_assoc]
      rfl

theorem read_spelled (front cs rest : List Char) (found : String)
    (read : readCharacters front cs = .ok (found, rest)) :
    ∃ s text, Spells s text ∧ found = String.ofList (front.reverse ++ text) ∧
      cs = s ++ '"' :: rest := by
  fun_induction readCharacters front cs with
  | case1 => cases read
  | case2 front behind =>
      cases read
      exact ⟨[], [], .nil, by rw [List.append_nil], rfl⟩
  | case3 => cases read
  | case4 front behind c left escape ih =>
      obtain ⟨e, escaped, rfl⟩ := read_escape _ _ _ escape
      obtain ⟨s, text, spelled, rfl, rfl⟩ := ih read
      exact ⟨'\\' :: (e ++ s), c :: text, .escape escaped spelled, by simp, by simp⟩
  | case5 => cases read
  | case6 front c behind noQuote noSlash printable ih =>
      obtain ⟨s, text, spelled, rfl, rfl⟩ := ih read
      have plain : Plain c := ⟨Nat.not_lt.mp printable, noQuote, noSlash⟩
      exact ⟨c :: s, c :: text, .plain plain spelled, by simp, rfl⟩

theorem text_read_iff (cs rest : List Char) (text : String) :
    readText cs = .ok (text, rest) ↔ ∃ s, Spells s text.toList ∧ cs = s ++ '"' :: rest := by
  constructor
  · intro read
    obtain ⟨s, found, spelled, rfl, rfl⟩ := read_spelled [] cs rest text read
    exact ⟨s, by simpa using spelled, rfl⟩
  · rintro ⟨s, spelled, rfl⟩
    rw [readText, spelled_read s text.toList spelled, List.reverse_nil, List.nil_append,
      String.ofList_toList]

-- Skipping.

theorem skip_escape_unit (s rest : List Char) (n : Nat) (unit : CodeUnit s n) :
    skipEscape ('u' :: (s ++ rest)) = .ok rest := by
  rw [skipEscape, unit_read s rest n unit]
  rfl

theorem skip_escape_short (letter c : Char) (rest : List Char) (listed : (letter, c) ∈ escapes) :
    skipEscape (letter :: rest) = .ok rest := by
  have noUnit := simple_letter letter c listed
  simp [skipEscape, (simple_read_iff letter c).mpr listed]

theorem quotable_skipped (s rest : List Char) (quotable : Quotable s) :
    skipText (s ++ '"' :: rest) = .ok rest := by
  induction quotable with
  | nil => simp [skipText]
  | @plain c s plain tail ih => rw [List.cons_append, skip_plain _ c plain, ih]
  | @short letter c s listed tail ih =>
      rw [List.cons_append, List.cons_append,
        skip_escape _ _ (skip_escape_short letter c _ listed), ih]
  | @unit digits s n unit tail ih =>
      rw [List.cons_append, List.cons_append, List.append_assoc,
        skip_escape _ _ (skip_escape_unit digits _ n unit), ih]

theorem spelled_quotable (s text : List Char) (spelled : Spells s text) : Quotable s := by
  induction spelled with
  | nil => exact .nil
  | plain plain tail ih => exact .plain plain ih
  | escape escape tail ih =>
      cases escape with
      | short listed => exact .short listed ih
      | unit unit => exact .unit unit ih
      | pair first second =>
          rw [List.cons_append, List.append_assoc]
          exact .unit first (.unit second ih)

theorem quoted_unique (s t rest behind : List Char) (one : Quotable s) (other : Quotable t)
    (same : s ++ '"' :: rest = t ++ '"' :: behind) : s = t ∧ rest = behind := by
  have skipped := quotable_skipped s rest one
  rw [same, quotable_skipped t behind other] at skipped
  cases skipped
  exact ⟨List.append_cancel_right same, rfl⟩

/-- What may stand between quotes is read if it stands for a text, and never any further. -/
theorem quoted_read_iff (s rest behind : List Char) (text : String) (quotable : Quotable s) :
    readText (s ++ '"' :: rest) = .ok (text, behind) ↔ Spells s text.toList ∧ behind = rest := by
  rw [text_read_iff]
  constructor
  · rintro ⟨t, spelled, same⟩
    obtain ⟨rfl, rfl⟩ := quoted_unique s t rest behind quotable (spelled_quotable _ _ spelled) same
    exact ⟨spelled, rfl⟩
  · rintro ⟨spelled, rfl⟩
    exact ⟨s, spelled, rfl⟩

theorem spelled_unique (s : List Char) (one other : String) (first : Spells s one.toList)
    (second : Spells s other.toList) : one = other := by
  have quotable := spelled_quotable _ _ first
  have read := (quoted_read_iff s [] [] one quotable).mpr ⟨first, rfl⟩
  rw [(quoted_read_iff s [] [] other quotable).mpr ⟨second, rfl⟩] at read
  cases read
  rfl

-- Names.

theorem named_quotable (s : List Char) (name : Option String) (named : Named s name) :
    Quotable s := by
  cases named with
  | text spelled => exact spelled_quotable _ _ spelled
  | broken quotable => exact quotable

theorem named_read_iff (s rest behind : List Char) (name : Option String) (text : String)
    (named : Named s name) :
    readText (s ++ '"' :: rest) = .ok (text, behind) ↔ name = some text ∧ behind = rest := by
  rw [quoted_read_iff _ _ _ _ (named_quotable s name named)]
  cases named with
  | text spelled =>
      have only : Spells s text.toList ↔ _ = some text :=
        ⟨fun other => congrArg some (spelled_unique s _ text spelled other), fun same => by
          cases same
          exact spelled⟩
      rw [only]
  | broken quotable unspelled => simp [unspelled]

-- Writing.

theorem control_unit (c : Char) (control : c.toNat < 0x20) :
    CodeUnit ['0', '0', Nat.digitChar (c.toNat / 16), Nat.digitChar (c.toNat % 16)] c.toNat := by
  have digit : ∀ n < 16, Hex (Nat.digitChar n) n := by decide
  have zero : Hex '0' 0 := by decide
  convert CodeUnit.digits zero zero (digit (c.toNat / 16) (by omega))
    (digit (c.toNat % 16) (by omega)) using 1
  omega

theorem character_spelled (c : Char) (s text : List Char) (tail : Spells s text) :
    Spells (writtenCharacter c ++ s) (c :: text) := by
  have short (letter c : Char) (listed : (letter, c) ∈ escapes) :
      Spells (['\\', letter] ++ s) (c :: text) := .escape (.short listed) tail
  rw [writtenCharacter]
  split_ifs with quote slash back feed line carriage tab control
  · exact quote ▸ short '"' '"' (by decide)
  · exact slash ▸ short '\\' '\\' (by decide)
  · exact back ▸ short 'b' '\x08' (by decide)
  · exact feed ▸ short 'f' '\x0c' (by decide)
  · exact line ▸ short 'n' '\n' (by decide)
  · exact carriage ▸ short 'r' '\r' (by decide)
  · exact tab ▸ short 't' '\t' (by decide)
  · exact .escape (.unit (control_unit c control)) tail
  · exact .plain ⟨Nat.not_lt.mp control, quote, slash⟩ tail

theorem written_spelled (text : List Char) : Spells (text.flatMap writtenCharacter) text := by
  induction text with
  | nil => exact .nil
  | cons c rest ih => exact character_spelled c _ rest ih

end FlashStore.JsonStrings
