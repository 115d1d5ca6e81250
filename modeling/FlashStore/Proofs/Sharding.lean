import FlashStore.Drive
import Mathlib.Algebra.Order.Group.Nat
import Mathlib.Logic.Function.Basic
import Mathlib.Order.Bounds.Basic

/-!
How entries are spread over shards: the states of the FNV-1a hash, and the number of shards.

A byte is absorbed by an exclusive or and by a product with an odd number, and both can be undone.
So writing a byte string, in whatever pieces, takes the 64-bit states one to one onto themselves,
and two byte strings that part in one byte and go on alike never meet again.

An asked number of shards is brought between 2 and 65536 and rounded up to a power of two, and
settings are checked by a condition of their own. Both single out the same numbers: those that are
left as they are, so that a drive is opened with just as many shards as its settings say.
-/

namespace FlashStore.HashStates
open Fnv

def primeInverse : UInt64 := 0xce965057aff6957b

theorem prime_inverse : prime * primeInverse = 1 := by decide

def release (state : UInt64) (byte : UInt8) : UInt64 :=
  (state * primeInverse) ^^^ byte.toUInt64

theorem release_absorb (state : UInt64) (byte : UInt8) :
    release (absorb state byte) byte = state := by
  rw [release, absorb, UInt64.mul_assoc, prime_inverse, UInt64.mul_one, UInt64.xor_assoc,
    UInt64.xor_self, UInt64.xor_zero]

theorem absorb_release (state : UInt64) (byte : UInt8) :
    absorb (release state byte) byte = state := by
  rw [release, absorb, UInt64.xor_assoc, UInt64.xor_self, UInt64.xor_zero, UInt64.mul_assoc,
    UInt64.mul_comm primeInverse, prime_inverse, UInt64.mul_one]

theorem absorb_inj (state : UInt64) (one other : UInt8) :
    absorb state one = absorb state other ↔ one = other := by
  constructor
  · intro same
    have undone : state ^^^ one.toUInt64 = state ^^^ other.toUInt64 := by
      have divided := congrArg (· * primeInverse) same
      simpa only [absorb, UInt64.mul_assoc, prime_inverse, UInt64.mul_one] using divided
    exact UInt8.toUInt64_inj.mp ((UInt64.xor_right_inj state).mp undone)
  · rintro rfl
    rfl

/-- The state before the bytes were written: they are released from the last one back. -/
def rewind (state : UInt64) (bytes : Bytes) : UInt64 :=
  bytes.foldr (fun byte later => release later byte) state

theorem rewind_write (state : UInt64) (bytes : Bytes) :
    rewind (write state bytes) bytes = state := by
  induction bytes generalizing state with
  | nil => rfl
  | cons byte rest ih =>
      show release (rewind (write (absorb state byte) rest) rest) byte = state
      rw [ih, release_absorb]

theorem write_rewind (state : UInt64) (bytes : Bytes) :
    write (rewind state bytes) bytes = state := by
  induction bytes with
  | nil => rfl
  | cons byte rest ih =>
      show write (absorb (release (rewind state rest) byte) byte) rest = state
      rw [absorb_release, ih]

theorem write_bijective (bytes : Bytes) : Function.Bijective fun state => write state bytes :=
  Function.bijective_iff_has_inverse.mpr
    ⟨fun state => rewind state bytes, fun state => rewind_write state bytes,
      fun state => write_rewind state bytes⟩

/-- Write calls one after the other. -/
def writes (state : UInt64) (chunks : List Bytes) : UInt64 := chunks.foldl write state

theorem writes_joined (state : UInt64) (chunks : List Bytes) :
    writes state chunks = write state chunks.flatten := by
  induction chunks generalizing state with
  | nil => rfl
  | cons chunk rest ih =>
      rw [List.flatten_cons, write_append]
      exact ih (write state chunk)

/-- The byte strings are of one length and differ at exactly one place. -/
def DifferOnce (one other : Bytes) : Prop :=
  one.length = other.length ∧ ∃! place : Nat, one[place]? ≠ other[place]?

theorem differ_once_parts (one other : Bytes) (differ : DifferOnce one other) :
    ∃ front a b back, a ≠ b ∧ one = front ++ a :: back ∧ other = front ++ b :: back := by
  induction one generalizing other with
  | nil =>
      obtain ⟨long, place, apart, _⟩ := differ
      rw [List.eq_nil_of_length_eq_zero long.symm] at apart
      exact absurd rfl apart
  | cons a rest ih =>
      obtain ⟨long, place, apart, only⟩ := differ
      cases other with
      | nil => cases long
      | cons b others =>
          by_cases same : a = b
          · -- The place lies further on, and stays the only one there.
            subst same
            cases place with
            | zero => exact absurd rfl apart
            | succ later =>
                have further : DifferOnce rest others := by
                  refine ⟨Nat.succ.inj long, later, by simpa using apart, ?_⟩
                  intro place different
                  exact Nat.succ.inj (only (place + 1) (by simpa using different))
                obtain ⟨front, c, d, back, unlike, rfl, rfl⟩ := ih others further
                exact ⟨a :: front, c, d, back, unlike, rfl, rfl⟩
          · have here : 0 = place := only 0 (by simpa using same)
            have alike : rest = others := by
              apply List.ext_getElem?
              intro later
              by_contra different
              have again : later + 1 = place := only (later + 1) (by simpa using different)
              omega
            exact ⟨[], a, b, rest, same, rfl, by rw [alike, List.nil_append]⟩

theorem write_differs (state : UInt64) (one other : Bytes) (differ : DifferOnce one other) :
    write state one ≠ write state other := by
  obtain ⟨front, a, b, back, unlike, rfl, rfl⟩ := differ_once_parts one other differ
  rw [write_append, write_append]
  intro met
  have parted : absorb (write state front) a = absorb (write state front) b :=
    (write_bijective back).injective met
  exact unlike ((absorb_inj _ a b).mp parted)

/-- Writing a byte string is one bijection of the states, however it is cut into pieces. Byte strings
of one length that differ in one byte lead from any state to different ones, and as keys, whose
equal lengths are written first, they have different hashes. -/
theorem one_byte_parts :
    (∀ bytes : Bytes, ∃ turn : UInt64 → UInt64, Function.Bijective turn ∧
      ∀ chunks : List Bytes, chunks.flatten = bytes → ∀ state, writes state chunks = turn state) ∧
    (∀ state (one other : List Bytes), DifferOnce one.flatten other.flatten →
      writes state one ≠ writes state other) ∧
    (∀ (key : Bytes) (chunks : List Bytes),
      chunks.flatten = Bytes.ofNat 8 key.length ++ key → writes offsetBasis chunks = keyHash key) ∧
    ∀ key other : Bytes, DifferOnce key other → keyHash key ≠ keyHash other := by
  refine ⟨?_, ?_, ?_, ?_⟩
  · intro bytes
    refine ⟨fun state => write state bytes, write_bijective bytes, ?_⟩
    rintro chunks rfl state
    exact writes_joined state chunks
  · intro state one other differ
    rw [writes_joined, writes_joined]
    exact write_differs state one.flatten other.flatten differ
  · intro key chunks joined
    rw [writes_joined, joined, write_append, keyHash]
  · intro key other differ
    rw [keyHash, keyHash, differ.1]
    exact write_differs _ key other differ

-- Two keys that differ in their second byte, cut at different places.
theorem one_byte_parts_recut :
    DifferOnce [0x6b, 0x31, 0x79, 0x7a] [0x6b, 0x32, 0x79, 0x7a] ∧
      writes offsetBasis [[0x6b], [0x31, 0x79], [0x7a]] ≠
        writes offsetBasis [[0x6b, 0x32], [], [0x79, 0x7a]] ∧
      keyHash [0x6b, 0x31, 0x79, 0x7a] ≠ keyHash [0x6b, 0x32, 0x79, 0x7a] := by
  have differ : DifferOnce [0x6b, 0x31, 0x79, 0x7a] [0x6b, 0x32, 0x79, 0x7a] := by
    refine ⟨rfl, 1, by decide, ?_⟩
    intro place apart
    match place with
    | 0 => exact absurd rfl apart
    | 1 => rfl
    | later + 2 => exact absurd rfl apart
  obtain ⟨_, chunked, _, keyed⟩ := one_byte_parts
  exact ⟨differ, chunked offsetBasis _ _ differ, keyed _ _ differ⟩

end FlashStore.HashStates

/-! The number of shards -/

namespace FlashStore.ShardAmounts

open private Nat.nextPowerOfTwo.go from Init.Data.Nat.Power2.Basic

def PowersFrom (n : Nat) : Set Nat := {power | (∃ k, power = 2 ^ k) ∧ n ≤ power}

/-- Doubling goes on as long as the power is too small, so it passes no power that is not. -/
theorem doubled_least (n power : Nat) (positive : power > 0) (start : ∃ k, power = 2 ^ k)
    (passed : ∀ other ∈ PowersFrom n, power ≤ other) :
    IsLeast (PowersFrom n) (Nat.nextPowerOfTwo.go n power positive) := by
  fun_induction Nat.nextPowerOfTwo.go n power positive with
  | case1 power positive small ih =>
      obtain ⟨k, rfl⟩ := start
      apply ih ⟨k + 1, rfl⟩
      rintro _ ⟨⟨j, rfl⟩, large⟩
      have above : k < j :=
        (Nat.pow_lt_pow_iff_right Nat.one_lt_two).mp (Nat.lt_of_lt_of_le small large)
      exact Nat.pow_le_pow_right Nat.zero_lt_two above
  | case2 power positive large => exact ⟨⟨start, by omega⟩, passed⟩

theorem rounded_least (n : Nat) : IsLeast (PowersFrom n) n.nextPowerOfTwo := by
  apply doubled_least n 1 _ ⟨0, rfl⟩
  rintro _ ⟨⟨k, rfl⟩, _⟩
  exact Nat.one_le_two_pow

theorem amount_least (n : Nat) :
    IsLeast (PowersFrom (min (max n 2) 65536)) (shardAmount n) :=
  rounded_least _

theorem amount_bounds (n : Nat) : 2 ≤ shardAmount n ∧ shardAmount n ≤ 65536 := by
  obtain ⟨⟨_, reached⟩, least⟩ := amount_least n
  have top : 65536 ∈ PowersFrom (min (max n 2) 65536) := ⟨⟨16, rfl⟩, by omega⟩
  exact ⟨by omega, least top⟩

theorem amount_mono (n m : Nat) (le : n ≤ m) : shardAmount n ≤ shardAmount m := by
  apply (amount_least n).2
  obtain ⟨⟨power, reached⟩, _⟩ := amount_least m
  exact ⟨power, by omega⟩

theorem amount_fixed_iff (n : Nat) :
    shardAmount n = n ↔ (∃ k, n = 2 ^ k) ∧ 2 ≤ n ∧ n ≤ 65536 := by
  constructor
  · intro fixed
    have power := (amount_least n).1.1
    have bounds := amount_bounds n
    rw [fixed] at power bounds
    exact ⟨power, bounds⟩
  · rintro ⟨power, lower, upper⟩
    have within : min (max n 2) 65536 = n := by omega
    have least := amount_least n
    rw [within] at least
    exact least.unique ⟨⟨power, le_refl n⟩, fun other member => member.2⟩

theorem amount_twice (n : Nat) : shardAmount (shardAmount n) = shardAmount n :=
  (amount_fixed_iff _).mpr ⟨(amount_least n).1.1, amount_bounds n⟩

theorem leading_power_iff (n : Nat) : Settings.isPowerOfTwo n = true ↔ ∃ k, n = 2 ^ k := by
  rw [Settings.isPowerOfTwo, beq_iff_eq, Nat.one_shiftLeft]
  constructor
  · intro whole
    exact ⟨n.log2, whole.symm⟩
  · rintro ⟨k, rfl⟩
    rw [Nat.log2_two_pow]

theorem check_fixed_iff (n : UInt64) :
    Settings.check ⟨.sharded, n⟩ = .ok () ↔ shardAmount n.toNat = n.toNat := by
  rw [amount_fixed_iff, ← leading_power_iff]
  simp only [Settings.check, maxShardAmount]
  by_cases power : Settings.isPowerOfTwo n.toNat = true <;>
    by_cases lower : n.toNat < 2 <;> by_cases upper : 65536 < n.toNat <;>
      simp [power, lower, upper]
  all_goals omega

def shards? : Drive → Option Nat
  | .single _ => none
  | .sharded entries => some entries.shards.size

theorem opened_shards (n : Nat) (place : UInt64 → Nat) :
    shards? (Drive.openSharded n place).drive = some (shardAmount n) := by
  have lower := (amount_bounds n).1
  simp only [shards?, Drive.openSharded, ShardedTable.ofAmount, Array.size_replicate,
    Option.some.injEq]
  omega

theorem opens_iff (n : UInt64) (opened : Drive.Opened) :
    Drive.openWith ⟨.sharded, n⟩ = .ok opened ↔
      shardAmount n.toNat = n.toNat ∧ opened = Drive.openSharded n.toNat := by
  rw [← check_fixed_iff, Drive.openWith]
  cases checked : Settings.check ⟨.sharded, n⟩ with
  | error failure => simp
  | ok => simp [eq_comm]

/-- The number of shards is the least power of two from the asked number on, once this is brought
between 2 and 65536. It is a power of two in that range, grows with the asked number and is left as it
is when it is asked for again. The check of settings accepts exactly the numbers that are left as they
are, so a drive that is opened with settings has as many shards as they say. -/
theorem shard_amount_exact (n : UInt64) :
    IsLeast (PowersFrom (min (max n.toNat 2) 65536)) (shardAmount n.toNat) ∧
    (∀ place, shards? (Drive.openSharded n.toNat place).drive = some (shardAmount n.toNat)) ∧
    (∃ k, 0 < k ∧ shardAmount n.toNat = 2 ^ k) ∧
    (2 ≤ shardAmount n.toNat ∧ shardAmount n.toNat ≤ 65536) ∧
    (∀ other, n ≤ other → shardAmount n.toNat ≤ shardAmount other.toNat) ∧
    shardAmount (shardAmount n.toNat) = shardAmount n.toNat ∧
    (shardAmount n.toNat = n.toNat ↔ Settings.check ⟨.sharded, n⟩ = .ok ()) ∧
    (shardAmount n.toNat = n.toNat ↔ ∃ opened, Drive.openWith ⟨.sharded, n⟩ = .ok opened) ∧
    ∀ opened, Drive.openWith ⟨.sharded, n⟩ = .ok opened →
      shards? opened.drive = some n.toNat := by
  have bounds := amount_bounds n.toNat
  refine ⟨amount_least n.toNat, opened_shards n.toNat, ?_, bounds, ?_, amount_twice n.toNat,
    (check_fixed_iff n).symm, ?_, ?_⟩
  · obtain ⟨k, power⟩ := (amount_least n.toNat).1.1
    refine ⟨k, Nat.pos_of_ne_zero ?_, power⟩
    rintro rfl
    omega
  · intro other le
    exact amount_mono _ _ (UInt64.le_iff_toNat_le.mp le)
  · simp only [opens_iff, exists_and_left, exists_eq, and_true]
  · intro opened opens
    obtain ⟨fixed, rfl⟩ := (opens_iff n opened).mp opens
    rw [opened_shards, fixed]

-- The greatest number of shards, asked for as it is and by a number far beyond it.
theorem shard_amount_exact_greatest :
    (∃ opened, Drive.openWith ⟨.sharded, 65536⟩ = .ok opened ∧
      shards? opened.drive = some 65536) ∧
    shardAmount (UInt64.ofNat 18446744073709551615).toNat = 65536 := by
  obtain ⟨_, _, _, _, grows, _, checked, opens, exactly⟩ := shard_amount_exact 65536
  have fixed : shardAmount (65536 : UInt64).toNat = (65536 : UInt64).toNat := checked.mpr rfl
  obtain ⟨opened, opening⟩ := opens.mp fixed
  refine ⟨⟨opened, opening, exactly opened opening⟩, ?_⟩
  obtain ⟨_, _, _, ⟨_, upper⟩, _⟩ := shard_amount_exact (UInt64.ofNat 18446744073709551615)
  apply Nat.le_antisymm upper
  exact fixed ▸ grows _ (by decide)

end FlashStore.ShardAmounts
