/-!
Byte strings, the little-endian form of a number, and UTF-8 text as bytes.

A number is written lowest byte first in a fixed count of bytes. Reading `k` written bytes gives the
number modulo `256 ^ k`, and every byte string is what writing the number read from it gives, so the
two directions lose nothing. In the same way a text is what its UTF-8 bytes read back as, and bytes
that read as a text are exactly that text's bytes.
-/

namespace FlashStore

abbrev Bytes := List UInt8

namespace Bytes

def split? (n : Nat) (b : Bytes) : Option (Bytes × Bytes) :=
  let front := b.take n
  if front.length = n then some (front, b.drop n) else none

theorem split?_append (front rest : Bytes) :
    split? front.length (front ++ rest) = some (front, rest) := by
  simp [split?]

theorem split?_eq_some_iff {n : Nat} {b front rest : Bytes} :
    split? n b = some (front, rest) ↔ b = front ++ rest ∧ front.length = n := by
  constructor
  · intro h
    simp only [split?] at h
    split at h
    · next full =>
      obtain ⟨rfl, rfl⟩ := Prod.mk.inj (Option.some.inj h)
      exact ⟨(List.take_append_drop n b).symm, full⟩
    · exact absurd h (by simp)
  · rintro ⟨rfl, rfl⟩
    exact split?_append front rest

theorem split?_eq_none_iff {n : Nat} {b : Bytes} : split? n b = none ↔ b.length < n := by
  simp only [split?]
  split
  · next full => simp at full ⊢; omega
  · next short => simp at short ⊢; omega

def ofNat : (k : Nat) → (n : Nat) → Bytes
  | 0, _ => []
  | k + 1, n => UInt8.ofNat n :: ofNat k (n / 256)

def toNat : Bytes → Nat
  | [] => 0
  | b :: rest => b.toNat + 256 * toNat rest

@[simp] theorem length_ofNat (k n : Nat) : (ofNat k n).length = k := by
  induction k generalizing n with
  | zero => rfl
  | succ k ih => simp [ofNat, ih]

theorem toNat_ofNat (k n : Nat) : toNat (ofNat k n) = n % Nat.pow 256 k := by
  induction k generalizing n with
  | zero => exact (Nat.mod_one n).symm
  | succ k ih =>
    show (UInt8.ofNat n).toNat + 256 * toNat (ofNat k (n / 256)) = n % (Nat.pow 256 k * 256)
    rw [ih, UInt8.toNat_ofNat', Nat.mul_comm (Nat.pow 256 k) 256, Nat.mod_mul]

theorem ofNat_toNat (b : Bytes) : ofNat b.length (toNat b) = b := by
  induction b with
  | nil => rfl
  | cons x rest ih =>
    have low : UInt8.ofNat (x.toNat + 256 * toNat rest) = x := by
      apply UInt8.toNat.inj
      have := x.toNat_lt
      simp only [UInt8.toNat_ofNat', Nat.reducePow]
      omega
    have high : (x.toNat + 256 * toNat rest) / 256 = toNat rest := by
      have := x.toNat_lt
      omega
    simp [ofNat, toNat, low, high, ih]

theorem toNat_lt (b : Bytes) : toNat b < Nat.pow 256 b.length := by
  have := congrArg toNat (ofNat_toNat b)
  rw [toNat_ofNat] at this
  rw [← this]
  exact Nat.mod_lt _ (Nat.pow_pos (by decide))

def ofText (s : String) : Bytes := s.toUTF8.data.toList

theorem length_ofText (s : String) : (ofText s).length = s.utf8ByteSize := by
  simp [ofText]

def toText? (b : Bytes) : Option String := String.fromUTF8? b.toByteArray

theorem toText?_ofText (s : String) : toText? (ofText s) = some s := by
  have bytes : (ofText s).toByteArray = s.toUTF8 := by
    apply ByteArray.ext
    simp [ofText]
  rw [toText?, bytes]
  simp only [String.fromUTF8?]
  split
  · rfl
  · next h => exact absurd s.isValidUTF8 h

theorem ofText_inj {s t : String} : ofText s = ofText t ↔ s = t := by
  constructor
  · intro same
    have read := congrArg toText? same
    rw [toText?_ofText, toText?_ofText] at read
    exact Option.some.inj read
  · rintro rfl
    rfl

theorem eq_ofText_of_toText? {b : Bytes} {s : String} (h : toText? b = some s) : b = ofText s := by
  simp only [toText?, String.fromUTF8?] at h
  split at h
  · obtain rfl := Option.some.inj h
    simp [ofText, String.toUTF8, String.fromUTF8]
  · exact absurd h (by simp)

end Bytes

end FlashStore
