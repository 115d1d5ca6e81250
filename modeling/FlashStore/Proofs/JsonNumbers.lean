import FlashStore.Proofs.JsonStrings
import FlashStore.Proofs.TextReaders

/-!
Skipping numbers, and reading those that are natural. Where a number ends is seen only from what
stands behind it, so both are about numbers that nothing behind could belong to. A number that is read
as natural is a whole part alone: no fraction, no exponent, no sign, and no digit that did not fit.
-/

namespace FlashStore.JsonNumbers
open Json JsonGrammar NaturalTexts TextReaders

def NoDigit (rest : List Char) : Prop := ∀ c, rest.head? = some c → c.isDigit = false

/-- Nothing that could belong to a number stands first. -/
def Ends (rest : List Char) : Prop :=
  ∀ c, rest.head? = some c → c.isDigit = false ∧ c ≠ '.' ∧ c ≠ 'e' ∧ c ≠ 'E'

theorem ends_no_digit (rest : List Char) (ends : Ends rest) : NoDigit rest :=
  fun c first => (ends c first).1

theorem digits_run (s rest : List Char) (digits : ∀ c ∈ s, c.isDigit = true)
    (noDigit : NoDigit rest) :
    (s ++ rest).takeWhile Json.isDigit = s ∧ (s ++ rest).dropWhile Json.isDigit = rest :=
  run_ends Json.isDigit s rest (fun c member => (digit_kinds c).trans (digits c member))
    fun c first => (digit_kinds c).trans (noDigit c first)

theorem first_no_digit (rest : List Char) (noDigit : NoDigit rest) :
    ¬ rest.head?.any Json.isDigit = true := by
  cases rest with
  | nil => simp
  | cons c rest => simp [digit_kinds, noDigit c rfl]

theorem digits_skipped (s rest : List Char) (digits : Digits s) (noDigit : NoDigit rest) :
    skipDigits (s ++ rest) = .ok rest := by
  obtain ⟨present, digits⟩ := digits
  cases s with
  | nil => exact absurd rfl present
  | cons c s =>
      have first : (c :: s ++ rest).head?.any Json.isDigit = true := by
        simp [digit_kinds, digits c List.mem_cons_self]
      rw [skipDigits, if_pos first, (digits_run (c :: s) rest digits noDigit).2]

theorem digit_ne (c d : Char) (digit : c.isDigit = true) (other : d.isDigit = false) : c ≠ d := by
  rintro rfl
  rw [digit] at other
  cases other

section Parts
variable (fraction exponent rest : List Char) (ends : Ends rest)
include ends

theorem exponent_skipped (scales : Exponent exponent) : skipExponent (exponent ++ rest) = .ok rest := by
  cases scales with
  | absent =>
      cases rest with
      | nil => rfl
      | cons c rest =>
          obtain ⟨_, _, lower, upper⟩ := ends c rfl
          rw [List.nil_append, skipExponent.eq_def]
          split <;> simp_all
  | @present mark sign s marked signed digits =>
      have skipped := digits_skipped s rest digits (ends_no_digit rest ends)
      obtain ⟨present, all⟩ := digits
      cases s with
      | nil => exact absurd rfl present
      | cons c s =>
          have digit := all c List.mem_cons_self
          have plus := digit_ne c '+' digit rfl
          have minus := digit_ne c '-' digit rfl
          simp only [List.mem_cons, List.not_mem_nil, or_false] at marked signed
          rcases signed with rfl | rfl | rfl
          · -- The first digit is not taken for a sign.
            rcases marked with rfl | rfl <;>
              simp only [List.nil_append, List.cons_append, skipExponent.eq_def] <;>
              split <;> simp_all
          all_goals rcases marked with rfl | rfl <;> exact skipped

theorem behind_fraction (scales : Exponent exponent) (c : Char)
    (first : (exponent ++ rest).head? = some c) : c.isDigit = false ∧ c ≠ '.' := by
  cases scales with
  | absent => exact ⟨(ends c first).1, (ends c first).2.1⟩
  | present marked =>
      cases first
      simp only [List.mem_cons, List.not_mem_nil, or_false] at marked
      rcases marked with rfl | rfl <;> decide

theorem behind_whole (divides : Fraction fraction) (scales : Exponent exponent) :
    NoDigit (fraction ++ (exponent ++ rest)) := by
  intro c first
  cases divides with
  | absent => exact (behind_fraction exponent rest ends scales c first).1
  | present => cases first; rfl

theorem fraction_skipped (divides : Fraction fraction) (scales : Exponent exponent) :
    skipFraction (fraction ++ (exponent ++ rest)) = .ok rest := by
  have skipped := exponent_skipped exponent rest ends scales
  have behind := behind_fraction exponent rest ends scales
  cases divides with
  | absent =>
      rw [List.nil_append, skipFraction.eq_def]
      split
      · next same =>
        rw [same] at behind
        exact absurd rfl (behind '.' rfl).2
      · exact skipped
  | @present s digits =>
      have dropped := digits_skipped s (exponent ++ rest) digits fun c first => (behind c first).1
      simp only [List.cons_append, skipFraction, dropped, skipped]

theorem unsigned_skipped (whole : List Char) (counts : Whole whole) (divides : Fraction fraction)
    (scales : Exponent exponent) :
    skipNumber (whole ++ (fraction ++ (exponent ++ rest))) = .ok rest := by
  have skipped := fraction_skipped fraction exponent rest ends divides scales
  have behind := behind_whole fraction exponent rest ends divides scales
  cases counts with
  | zero =>
      have alone := first_no_digit _ behind
      simp only [List.cons_append, List.nil_append, skipNumber, if_neg alone, skipped]
  | @digits c s nonzero digits =>
      have dropped := digits_skipped (c :: s) _ digits behind
      rw [List.cons_append] at dropped ⊢
      rw [skipNumber.eq_def]
      simp [nonzero, dropped, skipped]
end Parts

-- Reading.

def Unnatural (answer : Except ReadError (Json.Number × List Char)) : Prop :=
  ∀ n behind, answer ≠ .ok (.natural n, behind)

section Unnatural
variable (negative : Bool) (digits : Nat) (power : Int) (cs : List Char)

theorem real_unnatural : Unnatural (realNumber negative digits power cs) := by
  intro n behind
  rw [realNumber]
  split <;> simp

theorem exponent_unnatural : Unnatural (readExponent negative digits power cs) := by
  rw [readExponent]
  generalize (if (cs.head? == some '-' || cs.head? == some '+') = true then cs.drop 1 else cs) =
    unsigned
  split
  · simp [Unnatural]
  · simp [Unnatural]
  · dsimp only
    split
    · exact real_unnatural _ _ _ _
    · split <;> simp [Unnatural]

theorem fraction_unnatural : Unnatural (readFraction negative digits power cs) := by
  rw [readFraction]
  split
  · simp [Unnatural]
  split
  · simp [Unnatural]
  · dsimp only
    split
    · exact exponent_unnatural _ _ _ _
    · exact exponent_unnatural _ _ _ _
    · exact real_unnatural _ _ _ _
end Unnatural

/-- A number is natural if nothing but its whole part is there, and fits. -/
theorem after_whole_natural (negative : Bool) (digits dropped n : Nat) (cs behind : List Char)
    (read : readAfterWhole negative digits dropped cs = .ok (.natural n, behind)) :
    negative = false ∧ dropped = 0 ∧ n = digits ∧ behind = cs ∧
      ∀ c, cs.head? = some c → c ≠ '.' ∧ c ≠ 'e' ∧ c ≠ 'E' := by
  rw [readAfterWhole.eq_def] at read
  split at read
  · exact absurd read (fraction_unnatural _ _ _ _ n behind)
  · exact absurd read (exponent_unnatural _ _ _ _ n behind)
  · exact absurd read (exponent_unnatural _ _ _ _ n behind)
  · next point lower upper =>
    split at read
    · exact absurd read (real_unnatural _ _ _ _ n behind)
    split at read
    · next fits unsigned =>
      cases read
      refine ⟨by simpa using unsigned, by omega, rfl, rfl, ?_⟩
      intro c first
      obtain ⟨rest, rfl⟩ := List.head?_eq_some_iff.mp first
      refine ⟨?_, ?_, ?_⟩ <;> rintro rfl
      · exact point rest rfl
      · exact lower rest rfl
      · exact upper rest rfl
    split at read
    · cases read
    · exact absurd read (real_unnatural _ _ _ _ n behind)

theorem digits_taken (n count m k : Nat) (cs left : List Char) (small : n < UInt64.size)
    (taken : takeDigits n count cs = (m, k, left)) :
    ∃ s, (∀ c ∈ s, c.isDigit = true) ∧ cs = s ++ left ∧ Nat.ofDigitChars 10 s n = m ∧
      m < UInt64.size := by
  induction cs generalizing n count with
  | nil =>
      cases taken
      exact ⟨[], by simp, rfl, rfl, small⟩
  | cons c rest ih =>
      rw [takeDigits, digit_value] at taken
      split at taken
      · cases taken
        exact ⟨[], by simp, rfl, rfl, small⟩
      · next d digit =>
        split_ifs at digit with isDigit
        cases digit
        split at taken
        · next fits =>
          rw [fitsWord, decide_eq_true_eq] at fits
          obtain ⟨s, digits, rfl, value, below⟩ := ih _ _ fits taken
          exact ⟨c :: s, List.forall_mem_cons.mpr ⟨isDigit, digits⟩, rfl, value_cons c s n ▸ value,
            below⟩
        · cases taken
          exact ⟨[], by simp, rfl, rfl, small⟩

theorem digits_all_taken (n count : Nat) (s rest : List Char) (digits : ∀ c ∈ s, c.isDigit = true)
    (noDigit : NoDigit rest) (fits : Nat.ofDigitChars 10 s n < UInt64.size) :
    takeDigits n count (s ++ rest) = (Nat.ofDigitChars 10 s n, count + s.length, rest) := by
  induction s generalizing n count with
  | nil =>
      cases rest with
      | nil => rfl
      | cons c rest => simp [takeDigits, digit_value, noDigit c rfl]
  | cons c s ih =>
      obtain ⟨digit, others⟩ := List.forall_mem_cons.mp digits
      rw [value_cons] at fits ⊢
      have grows := value_grows s (n * 10 + (c.toNat - '0'.toNat))
      have below : fitsWord (n * 10 + (c.toNat - '0'.toNat)) = true := by
        rw [fitsWord, decide_eq_true_eq]
        omega
      rw [List.cons_append, takeDigits, digit_value, if_pos digit]
      simp only [below, if_true]
      rw [ih _ _ others fits, List.length_cons, Nat.add_assoc, Nat.add_comm 1]

def value (whole : List Char) : Nat := Nat.ofDigitChars 10 whole 0

theorem whole_digits (whole : List Char) (counts : Whole whole) :
    ∀ c ∈ whole, c.isDigit = true := by
  cases counts with
  | zero => simp
  | digits nonzero digits => exact digits.2

theorem number_first (s : List Char) (number : Number s) :
    ∃ c tail, s = c :: tail ∧ (c.isDigit = true ∨ c = '-') := by
  obtain ⟨signed, counts, _, _⟩ := number
  simp only [List.mem_cons, List.not_mem_nil, or_false] at signed
  rcases signed with rfl | rfl
  · have digits := whole_digits _ counts
    cases counts <;> exact ⟨_, _, rfl, .inl (digits _ List.mem_cons_self)⟩
  · exact ⟨_, _, rfl, .inr rfl⟩

theorem whole_number (whole : List Char) (counts : Whole whole) : Number whole := by
  have number := @Number.parts [] whole [] [] (by simp) counts .absent .absent
  rwa [List.nil_append, List.append_nil, List.append_nil] at number

theorem digit_small (c : Char) (digit : c.isDigit = true) : c.toNat - '0'.toNat < UInt64.size := by
  have upper : c.toNat ≤ 57 := UInt32.le_iff_toNat_le.mp ((digit_bounds c).mp digit).2
  simp only [UInt64.size]
  omega

theorem read_natural (negative : Bool) (n : Nat) (cs behind : List Char)
    (read : readNumber negative cs = .ok (.natural n, behind)) :
    negative = false ∧ ∃ whole, Whole whole ∧ value whole = n ∧ n < UInt64.size ∧ Ends behind ∧
      cs = whole ++ behind := by
  rw [readNumber.eq_def] at read
  split at read
  · cases read
  · next rest =>
    split at read
    · cases read
    · next alone =>
      obtain ⟨unsigned, _, rfl, rfl, others⟩ := after_whole_natural _ _ _ _ _ _ read
      refine ⟨unsigned, ['0'], .zero, rfl, by decide, ?_, rfl⟩
      intro c first
      refine ⟨?_, others c first⟩
      simpa [first, digit_kinds] using alone
  · next c rest nonzero =>
    rw [digit_value] at read
    split at read
    · cases read
    · next d digit =>
      split_ifs at digit with isDigit
      cases digit
      cases taken : takeDigits (c.toNat - '0'.toNat) 0 rest with
      | mk m others =>
          obtain ⟨k, left⟩ := others
          rw [taken] at read
          obtain ⟨unsigned, all, rfl, rfl, others⟩ := after_whole_natural _ _ _ _ _ _ read
          obtain ⟨s, digits, rfl, counted, below⟩ :=
            digits_taken _ _ _ _ _ _ (digit_small c isDigit) taken
          rw [all, List.drop_zero] at others ⊢
          refine ⟨unsigned, c :: s, .digits nonzero ⟨by simp, ?_⟩, ?_, below, ?_, rfl⟩
          · exact List.forall_mem_cons.mpr ⟨isDigit, digits⟩
          · rw [value, value_cons, Nat.zero_mul, Nat.zero_add]
            exact counted
          · intro later first
            refine ⟨?_, others later first⟩
            obtain ⟨tail, rfl⟩ := List.head?_eq_some_iff.mp first
            by_contra digit
            rw [Bool.not_eq_false] at digit
            simp [digit_kinds, digit] at all

theorem after_whole_ends (n : Nat) (rest : List Char) (ends : Ends rest) :
    readAfterWhole false n 0 rest = .ok (.natural n, rest) := by
  rw [readAfterWhole.eq_def]
  split
  · exact absurd rfl (ends '.' rfl).2.1
  · exact absurd rfl (ends 'e' rfl).2.2.1
  · exact absurd rfl (ends 'E' rfl).2.2.2
  · simp

theorem natural_read (whole rest : List Char) (counts : Whole whole)
    (fits : value whole < UInt64.size) (ends : Ends rest) :
    readNumber false (whole ++ rest) = .ok (.natural (value whole), rest) := by
  have noDigit := ends_no_digit rest ends
  have last := after_whole_ends (value whole) rest ends
  cases counts with
  | zero =>
      rw [List.cons_append, List.nil_append, readNumber, if_neg (first_no_digit rest noDigit)]
      exact last
  | @digits c s nonzero digits =>
      obtain ⟨digit, others⟩ := List.forall_mem_cons.mp digits.2
      have counted : value (c :: s) = Nat.ofDigitChars 10 s (c.toNat - '0'.toNat) := by
        rw [value, value_cons, Nat.zero_mul, Nat.zero_add]
      rw [counted] at fits last ⊢
      have taken := digits_all_taken _ 0 s rest others noDigit fits
      have none := (digits_run [] rest (by simp) noDigit).1
      rw [List.nil_append] at none
      rw [List.cons_append, readNumber.eq_def]
      split
      · next same => cases same
      · next same =>
        cases same
        exact absurd rfl nonzero
      · next same =>
        cases same
        simp only [digit_value, digit, if_true, taken, none]
        exact last

-- Writing.

theorem leading_digit (n : Nat) (positive : 0 < n) :
    ∃ c rest, Nat.toDigits 10 n = c :: rest ∧ c ≠ '0' := by
  induction n using Nat.strongRecOn with
  | ind n ih =>
      by_cases small : n < 10
      · refine ⟨_, [], Nat.toDigits_of_lt_base small, ?_⟩
        rw [Ne, Nat.digitChar_eq_zero]
        omega
      · obtain ⟨c, rest, front, nonzero⟩ := ih (n / 10) (by omega) (by omega)
        refine ⟨c, rest ++ [(n % 10).digitChar], ?_, nonzero⟩
        rw [Nat.toDigits_of_base_le (by decide) (by omega), front, List.cons_append]

theorem decimal_whole (n : Nat) : Whole (Nat.toDigits 10 n) ∧ value (Nat.toDigits 10 n) = n := by
  refine ⟨?_, Nat.ofDigitChars_ten_toDigits⟩
  have digits : ∀ c ∈ Nat.toDigits 10 n, c.isDigit = true :=
    fun c member => Nat.isDigit_of_mem_toDigits (by decide) (by decide) member
  rcases Nat.eq_zero_or_pos n with rfl | positive
  · exact .zero
  · obtain ⟨c, rest, same, nonzero⟩ := leading_digit n positive
    rw [same] at digits ⊢
    exact .digits nonzero ⟨by simp, digits⟩

end FlashStore.JsonNumbers
