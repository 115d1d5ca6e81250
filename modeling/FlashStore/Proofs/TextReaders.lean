import FlashStore.Json.Lexeme
import Mathlib.Data.Nat.Basic
import Std.Data.String.ToNat

/-!
Readers that go on where another has ended, and the texts of natural numbers of 64 bits: one decimal
digit or more, behind a plus sign or none. Zeros in front do not count, so the length of a text says
nothing of its value. The reader stops at the first number that is too large, and no digit behind it
could make it smaller again.
-/

namespace FlashStore.TextReaders

theorem map_ok_iff {ε α β : Type} (first : Except ε α) (f : α → β) (last : β) :
    first.map f = .ok last ↔ ∃ x, first = .ok x ∧ f x = last := by
  cases first <;> simp [Except.map]

theorem bind_ok_iff {ε α β : Type} (first : Except ε α) (later : α → Except ε β) (last : β) :
    (first >>= later) = .ok last ↔ ∃ x, first = .ok x ∧ later x = .ok last := by
  cases first <;> simp [bind, Except.bind]

theorem run_ends (belongs : Char → Bool) (front rest : List Char)
    (inside : ∀ c ∈ front, belongs c = true)
    (stops : ∀ c, rest.head? = some c → belongs c = false) :
    (front ++ rest).takeWhile belongs = front ∧ (front ++ rest).dropWhile belongs = rest := by
  rw [List.takeWhile_append_of_pos inside, List.dropWhile_append_of_pos inside]
  cases rest with
  | nil => exact ⟨by simp, rfl⟩
  | cons c rest =>
      have other : ¬ belongs c = true := by simp [stops c rfl]
      rw [List.takeWhile_cons_of_neg other, List.dropWhile_cons_of_neg other, List.append_nil]
      exact ⟨rfl, rfl⟩

end FlashStore.TextReaders

/-! Natural numbers -/

namespace FlashStore.NaturalTexts
open Text

/-- The text is a numeral for a number below `2 ^ 64`. -/
def Numeral (text : List Char) (n : Nat) : Prop :=
  ∃ digits, (text = digits ∨ text = '+' :: digits) ∧ digits ≠ [] ∧ (∀ c ∈ digits, c.isDigit) ∧
    Nat.ofDigitChars 10 digits 0 = n ∧ n < UInt64.size

theorem digit_bounds (c : Char) : c.isDigit = true ↔ '0' ≤ c ∧ c ≤ '9' := by
  rw [Char.isDigit, Bool.and_eq_true, decide_eq_true_eq, decide_eq_true_eq]
  rfl

theorem digit_value (c : Char) :
    digit? c = if c.isDigit then some (c.toNat - '0'.toNat) else none := by
  simp only [digit?, digit_bounds]

theorem digit_kinds (c : Char) : Json.isDigit c = c.isDigit := by
  rw [Json.isDigit, digit_value]
  cases c.isDigit <;> rfl

theorem value_cons (c : Char) (digits : List Char) (n : Nat) :
    Nat.ofDigitChars 10 (c :: digits) n =
      Nat.ofDigitChars 10 digits (n * 10 + (c.toNat - '0'.toNat)) := by
  rw [Nat.mul_comm]
  rfl

theorem value_grows (digits : List Char) (n : Nat) : n ≤ Nat.ofDigitChars 10 digits n := by
  rw [Nat.ofDigitChars_eq_ofDigitChars_zero]
  exact Nat.le_add_right_of_le (Nat.le_mul_of_pos_left n (Nat.pow_pos (by decide)))

theorem digits_read_iff (digits : List Char) (n m : Nat) (small : n < UInt64.size) :
    readDigits n digits = .ok m ↔
      (∀ c ∈ digits, c.isDigit) ∧ Nat.ofDigitChars 10 digits n = m ∧ m < UInt64.size := by
  induction digits generalizing n with
  | nil =>
      constructor
      · rintro ⟨⟩
        exact ⟨by simp, rfl, small⟩
      · rintro ⟨_, rfl, _⟩
        rfl
  | cons c rest ih =>
      rw [readDigits, digit_value, value_cons]
      by_cases digit : c.isDigit = true
      · simp only [digit, if_true, List.forall_mem_cons, true_and]
        split
        · next below => exact ih _ below
        · next above =>
          -- The number only grows from here on.
          have grows := value_grows rest (n * 10 + (c.toNat - '0'.toNat))
          constructor
          · rintro ⟨⟩
          · rintro ⟨_, rfl, below⟩
            omega
      · simp [digit]

theorem natural_read_iff (text : List Char) (n : Nat) :
    readNatural text = .ok n ↔ Numeral text n := by
  have unsigned (digits : List Char) (present : digits ≠ []) (plain : ∀ rest, digits ≠ '+' :: rest) :
      readDigits 0 digits = .ok n ↔ Numeral digits n := by
    rw [digits_read_iff digits 0 n (by decide)]
    constructor
    · intro read
      exact ⟨digits, .inl rfl, present, read⟩
    · rintro ⟨found, rfl | rfl, _, read⟩
      · exact read
      · exact absurd rfl (plain found)
  have signed (digits : List Char) (present : digits ≠ []) :
      readDigits 0 digits = .ok n ↔ Numeral ('+' :: digits) n := by
    rw [digits_read_iff digits 0 n (by decide)]
    constructor
    · intro read
      exact ⟨digits, .inr rfl, present, read⟩
    · rintro ⟨found, rfl | same, _, read⟩
      · exact absurd (read.1 '+' List.mem_cons_self) (by decide)
      · cases same
        exact read
  rw [readNatural.eq_def]
  split
  · constructor
    · rintro ⟨⟩
    · rintro ⟨_, rfl | same, present, _⟩
      · exact absurd rfl present
      · cases same
  · constructor
    · rintro ⟨⟩
    · rintro ⟨_, rfl | same, present, digits, _⟩
      · exact absurd (digits '+' List.mem_cons_self) (by decide)
      · cases same
        exact absurd rfl present
  · next digits several => exact signed digits fun none => several (by rw [none])
  · next digits present _ plain => exact unsigned _ present plain

theorem natural_small (text : List Char) (n : Nat) (read : readNatural text = .ok n) :
    n < UInt64.size := by
  obtain ⟨_, _, _, _, _, small⟩ := (natural_read_iff text n).mp read
  exact small

theorem decimal_numeral (n : Nat) (small : n < UInt64.size) : Numeral (Nat.toDigits 10 n) n :=
  ⟨_, .inl rfl, Nat.toDigits_ne_nil,
    fun _ member => Nat.isDigit_of_mem_toDigits (by decide) (by decide) member,
    Nat.ofDigitChars_ten_toDigits, small⟩

end FlashStore.NaturalTexts
