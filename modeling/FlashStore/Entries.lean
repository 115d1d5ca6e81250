import FlashStore.Request
import Std.Data.HashMap

/-!
The entries of a drive: a map from key contents to stored values, with a count.

A backend decides how entries are kept. What it keeps is seen through `find?` alone, and `count`
moves by one exactly when `put` meets a new key or `erase` a present one. Nothing is said about
order. `add?` is for a key that a look-up has just missed. A backend may look again before it adds,
and then answers none if the key is there after all; where the key is missing, adding is putting.

One backend is a single hash table, the other has several of them, the shards. The 64-bit FNV-1a
hash of a key chooses its shard and no other shard is touched, so the shards together answer as one
table would, however `place` deals the hashes out. The hash is a left fold over bytes, so only the
joined bytes of what is written count (`write_append`). The number of shards is a power of two: an
asked number is first brought between 2 and 65536 and then rounded up.
-/

namespace FlashStore

class EntryMap (τ : Type) where
  find? : τ → Bytes → Option StoredValue
  add? : τ → Bytes → StoredValue → Option τ
  put : τ → Bytes → StoredValue → τ
  erase : τ → Bytes → τ
  count : τ → Nat
  source : τ → Source

export EntryMap (find? add? put erase count)

class LawfulEntryMap (τ : Type) [EntryMap τ] : Prop where
  find?_put (entries : τ) (key other : Bytes) (value : StoredValue) :
    find? (put entries key value) other = if key = other then some value else find? entries other
  add?_missing (entries : τ) (key : Bytes) (value : StoredValue) :
    find? entries key = none → add? entries key value = some (put entries key value)
  find?_erase (entries : τ) (key other : Bytes) :
    find? (erase entries key) other = if key = other then none else find? entries other
  count_put (entries : τ) (key : Bytes) (value : StoredValue) :
    count (put entries key value) =
      if (find? entries key).isSome then count entries else count entries + 1
  count_erase (entries : τ) (key : Bytes) :
    count (erase entries key) =
      if (find? entries key).isSome then count entries - 1 else count entries
  count_pos (entries : τ) (key : Bytes) :
    (find? entries key).isSome → 0 < count entries

/-! One table -/

abbrev Table := Std.HashMap Bytes StoredValue

instance : EntryMap Table where
  find? entries key := entries[key]?
  add? entries key value := some (entries.insert key value)
  put entries key value := entries.insert key value
  erase entries key := entries.erase key
  count entries := entries.size
  source _ := .singleTable

namespace Table

theorem find?_eq (entries : Table) (key : Bytes) : find? entries key = entries[key]? := rfl

theorem isSome_find? (entries : Table) (key : Bytes) :
    (find? entries key).isSome = true ↔ key ∈ entries := by
  simp [find?_eq]

end Table

instance : LawfulEntryMap Table where
  find?_put entries key other value := by
    show (entries.insert key value)[other]? = _
    simp [Std.HashMap.getElem?_insert, Table.find?_eq]
  add?_missing _ _ _ _ := rfl
  find?_erase entries key other := by
    show (entries.erase key)[other]? = _
    simp [Std.HashMap.getElem?_erase, Table.find?_eq]
  count_put entries key value := by
    show (entries.insert key value).size = if _ then entries.size else entries.size + 1
    simp [Std.HashMap.size_insert, Table.isSome_find?]
  count_erase entries key := by
    show (entries.erase key).size = if _ then entries.size - 1 else entries.size
    simp [Std.HashMap.size_erase, Table.isSome_find?]
  count_pos entries key present := by
    show 0 < entries.size
    have mem := (Table.isSome_find? entries key).mp present
    have : entries.isEmpty = false := Std.HashMap.isEmpty_eq_false_iff_exists_mem.mpr ⟨key, mem⟩
    rw [Std.HashMap.isEmpty_eq_size_eq_zero] at this
    simpa [Nat.pos_iff_ne_zero] using this

end FlashStore

/-! Shards -/

namespace FlashStore.Fnv

def offsetBasis : UInt64 := 0xcbf29ce484222325

def prime : UInt64 := 0x100000001b3

def absorb (state : UInt64) (byte : UInt8) : UInt64 :=
  (state ^^^ byte.toUInt64) * prime

def write (state : UInt64) (bytes : Bytes) : UInt64 :=
  bytes.foldl absorb state

theorem write_append (state : UInt64) (a b : Bytes) :
    write state (a ++ b) = write (write state a) b := by
  simp [write]

def hash (bytes : Bytes) : UInt64 := write offsetBasis bytes

/-- The hash of a key puts its length, as eight bytes, before its content, so that a key is hashed
like a list: keys that run together are told apart. -/
def keyHash (key : Bytes) : UInt64 :=
  write (write offsetBasis (Bytes.ofNat 8 key.length)) key

end FlashStore.Fnv

namespace FlashStore

def defaultShardAmount : Nat := 64
def maxShardAmount : Nat := 65536

def shardAmount (asked : Nat) : Nat :=
  (min (max asked 2) maxShardAmount).nextPowerOfTwo

structure ShardedTable where
  shards : Array Table
  nonempty : 0 < shards.size
  place : UInt64 → Nat

namespace ShardedTable

def ofAmount (amount : Nat) (place : UInt64 → Nat) : ShardedTable where
  shards := Array.replicate (max amount 1) ∅
  nonempty := by
    rw [Array.size_replicate]
    exact Nat.le_max_right amount 1
  place := place

def total {α : Type} (weight : α → Nat) (l : List α) : Nat :=
  l.foldr (fun x sum => weight x + sum) 0

def route (entries : ShardedTable) (key : Bytes) : Nat :=
  entries.place (Fnv.keyHash key) % entries.shards.size

theorem route_lt (entries : ShardedTable) (key : Bytes) :
    entries.route key < entries.shards.size :=
  Nat.mod_lt _ entries.nonempty

def shard (entries : ShardedTable) (key : Bytes) : Table :=
  have within := entries.route_lt key
  entries.shards[entries.route key]

def change (entries : ShardedTable) (key : Bytes) (f : Table → Table) : ShardedTable where
  shards := entries.shards.modify (entries.route key) f
  nonempty := by simpa using entries.nonempty
  place := entries.place

def size (entries : ShardedTable) : Nat :=
  total Std.HashMap.size entries.shards.toList

end ShardedTable

/-- Adding looks at the key's shard once more and leaves an occupied entry alone. -/
instance : EntryMap ShardedTable where
  find? entries key := find? (entries.shard key) key
  add? entries key value :=
    match find? (entries.shard key) key with
    | some _ => none
    | none => some (entries.change key fun table => put table key value)
  put entries key value := entries.change key fun table => put table key value
  erase entries key := entries.change key fun table => erase table key
  count entries := entries.size
  source _ := .shardedTable

namespace ShardedTable

theorem find?_eq (entries : ShardedTable) (key : Bytes) :
    find? entries key = find? (entries.shard key) key := rfl

theorem route_change (entries : ShardedTable) (key other : Bytes) (f : Table → Table) :
    (entries.change key f).route other = entries.route other := by
  simp [route, change]

theorem shard_change (entries : ShardedTable) (key other : Bytes) (f : Table → Table) :
    (entries.change key f).shard other =
      if entries.route key = entries.route other then f (entries.shard other)
      else entries.shard other := by
  have stays := entries.route_change key other f
  simp only [change] at stays
  simp [shard, change, Array.getElem_modify, stays]

theorem total_modify {α : Type} (weight : α → Nat) (f : α → α) (l : List α) (i : Nat)
    (h : i < l.length) :
    total weight (l.modify i f) + weight l[i] = total weight l + weight (f l[i]) := by
  induction l generalizing i with
  | nil => simp at h
  | cons x rest ih =>
    cases i with
    | zero =>
      show weight (f x) + total weight rest + weight x = weight x + total weight rest + weight (f x)
      omega
    | succ i =>
      have within : i < rest.length := by simpa using h
      have := ih i within
      show weight x + total weight (rest.modify i f) + weight rest[i] =
        weight x + total weight rest + weight (f rest[i])
      omega

theorem size_change (entries : ShardedTable) (key : Bytes) (f : Table → Table) :
    (entries.change key f).size + (entries.shard key).size =
      entries.size + (f (entries.shard key)).size := by
  have := total_modify Std.HashMap.size f entries.shards.toList (entries.route key)
    (by simpa using entries.route_lt key)
  simpa [size, change, shard] using this

theorem size_shard_le (entries : ShardedTable) (key : Bytes) :
    (entries.shard key).size ≤ entries.size := by
  have := entries.size_change key fun _ => ∅
  simp at this
  omega

end ShardedTable

instance : LawfulEntryMap ShardedTable where
  find?_put entries key other value := by
    show find? ((entries.change key fun table => put table key value).shard other) other = _
    rw [ShardedTable.shard_change]
    by_cases same : key = other
    · subst same
      simp [LawfulEntryMap.find?_put]
    · by_cases meet : entries.route key = entries.route other <;>
        simp [meet, same, LawfulEntryMap.find?_put, ShardedTable.find?_eq]
  add?_missing entries key value missing := by
    rw [ShardedTable.find?_eq] at missing
    simp [add?, missing, put]
  find?_erase entries key other := by
    show find? ((entries.change key fun table => erase table key).shard other) other = _
    rw [ShardedTable.shard_change]
    by_cases same : key = other
    · subst same
      simp [LawfulEntryMap.find?_erase]
    · by_cases meet : entries.route key = entries.route other <;>
        simp [meet, same, LawfulEntryMap.find?_erase, ShardedTable.find?_eq]
  count_put entries key value := by
    show (entries.change key fun table => put table key value).size =
      if (find? (entries.shard key) key).isSome then entries.size else entries.size + 1
    have moved := entries.size_change key fun table => put table key value
    have within : Std.HashMap.size (put (entries.shard key) key value) = _ :=
      LawfulEntryMap.count_put (entries.shard key) key value
    have fold : count (entries.shard key) = (entries.shard key).size := rfl
    rw [fold] at within
    split at within
    · next present =>
      simp only [present, if_true]
      omega
    · next missing =>
      rw [if_neg missing]
      omega
  count_erase entries key := by
    show (entries.change key fun table => erase table key).size =
      if (find? (entries.shard key) key).isSome then entries.size - 1 else entries.size
    have moved := entries.size_change key fun table => erase table key
    have within : Std.HashMap.size (erase (entries.shard key) key) = _ :=
      LawfulEntryMap.count_erase (entries.shard key) key
    have fold : count (entries.shard key) = (entries.shard key).size := rfl
    have positive : (find? (entries.shard key) key).isSome → 0 < (entries.shard key).size :=
      LawfulEntryMap.count_pos (entries.shard key) key
    rw [fold] at within
    split at within
    · next present =>
      have := positive present
      simp only [present, if_true]
      omega
    · next absent =>
      simp only [absent]
      simp
      omega
  count_pos entries key present := by
    show 0 < entries.size
    have : 0 < (entries.shard key).size := LawfulEntryMap.count_pos (entries.shard key) key present
    exact Nat.lt_of_lt_of_le this (entries.size_shard_le key)

end FlashStore
