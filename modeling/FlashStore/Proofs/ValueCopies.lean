import FlashStore.Device.Rack
import FlashStore.Proofs.StoredEntries

/-!
Copying a stored value from drive to drive. Every value that a drive ever stores has the sizes of its
bytes and an aligned offset, so the descriptor of a value that was read passes the check of any other
drive, and the copy made from that descriptor is the value again. Only presence is left to decide
whether the copy is written. Along a chain of copies the invariant is that the value is read at the
place where the chain has come to.
-/

namespace FlashStore.ValueCopies
open CallEffects CallRuns DriveCalls RequestChecks StoredEntries

section Descriptors
variable (key : Bytes) (value : StoredValue) (sound : Sound key value)
include sound

theorem sound_passes : value.toRef.check = .ok () := by
  have short : ¬ maxValueLength < value.toRef.length.toNat := by
    show ¬ 2097152 < value.length.toNat
    have measured := sound.length_exact
    have fits := sound.value_short
    omega
  have aligned : ¬ value.toRef.offset.toNat % alignmentUnit ≠ 0 := not_not.mpr sound.aligned
  have present : value.toRef.content? ≠ none := by
    simp [ValueRef.content?, StoredValue.toRef, Bytes.split?, sound.length_exact]
  simp only [ValueRef.check, short, aligned, present, if_false, and_false]

theorem sound_kept : kept value.toRef = value := by
  have sizes : value.length = value.actual := by
    apply UInt32.toNat_inj.mp
    rw [sound.length_exact, sound.actual_exact]
  have whole : value.bytes.take value.length.toNat = value.bytes := by
    rw [sound.length_exact, List.take_length]
  cases value
  simp_all [kept, StoredValue.toRef]
end Descriptors

theorem read_sound (source : Drive) (reached : Reached source) (key : KeyRef) (value : StoredValue)
    (read : (Device.read source key).answer = .ok value) :
    checkRequest key none = .ok () ∧ Sound (content key) value := by
  obtain ⟨passed, found⟩ := (read_found_iff source key value).mp read
  exact ⟨passed, (reached_upheld source reached).sound _ value found⟩

section Writes
variable (key : KeyRef) (value : StoredValue)
variable (passed : checkRequest key none = .ok ()) (sound : Sound (content key) value)
include passed sound

theorem copy_checked : checkRequest key (some value.toRef) = .ok () := by
  obtain ⟨keyPassed, _⟩ := (request_passed_iff key none).mp passed
  refine (request_passed_iff key (some value.toRef)).mpr ⟨keyPassed, ?_⟩
  rintro given ⟨⟩
  exact sound_passes (content key) value sound

variable {τ : Type} [EntryMap τ] [LawfulEntryMap τ]

theorem copy_exact (mode : Device.WriteMode) (target : τ) :
    Device.write mode target key value.toRef =
      if admits mode (find? target (content key)).isSome then
        ⟨.ok (), logged target (writeName mode) (content key) [], put target (content key) value⟩
      else ⟨.error (conflict mode), [], target⟩ := by
  rw [write_exact, copy_checked key value passed sound, sound_kept (content key) value sound]

theorem copy_refused_iff (mode : Device.WriteMode) (target : τ) (failure : ResultCode) :
    (Device.write mode target key value.toRef).answer = .error failure ↔
      failure = conflict mode ∧ admits mode (find? target (content key)).isSome = false := by
  rw [copy_exact key value passed sound]
  cases admits mode (find? target (content key)).isSome <;> simp [eq_comm]

theorem copy_arrives (mode : Device.WriteMode) (target : τ)
    (done : (Device.write mode target key value.toRef).answer = .ok ()) :
    (Device.read (Device.write mode target key value.toRef).state key).answer = .ok value := by
  apply (read_found_iff _ key value).mpr
  refine ⟨passed, ?_⟩
  rw [copy_exact key value passed sound] at done ⊢
  split at done
  · next admitted => simp [admitted, LawfulEntryMap.find?_put]
  · cases done
end Writes

def Holds (drive : Drive) (key : KeyRef) : Prop := ∃ held, (Device.read drive key).answer = .ok held

theorem holds_iff (drive : Drive) (key : KeyRef) (passed : checkRequest key none = .ok ()) :
    Holds drive key ↔ (find? drive (content key)).isSome = true := by
  simp only [Holds, read_found_iff, passed, true_and]
  exact Option.isSome_iff_exists.symm

-- Copies in a rack.

/-- Copies what is under the key from place to place, each time from the place it was last copied to.
A copy that fails ends the chain. -/
def carry? (key : KeyRef) :
    List (Device.WriteMode × Nat) → Nat → Rack Drive → Option (Nat × Rack Drive)
  | [], place, rack => some (place, rack)
  | (mode, target) :: hops, place, rack =>
    match rack.copy? mode key place target with
    | some ⟨.wrote _ (.ok ()), _, next⟩ => carry? key hops target next
    | _ => none

def ReadAt (rack : Rack Drive) (place : Nat) (key : KeyRef) (value : StoredValue) : Prop :=
  ∃ drive, rack[place]? = some drive ∧ (Device.read drive key).answer = .ok value

theorem call_inside {σ α : Type} (rack : Rack σ) (place : Nat) (inside : place < rack.size)
    (request : σ → Reply σ α) :
    rack.call? place request =
      some ⟨(request rack[place]).answer, (request rack[place]).events,
        rack.set place (request rack[place]).state⟩ :=
  dif_pos inside

theorem call_outside {σ α : Type} (rack : Rack σ) (place : Nat) (outside : ¬ place < rack.size)
    (request : σ → Reply σ α) : rack.call? place request = none :=
  dif_neg outside

section Hops
variable (rack : Rack Drive) (place target : Nat) (mode : Device.WriteMode)
variable (key : KeyRef) (value : StoredValue) (readAt : ReadAt rack place key value)
include readAt

theorem called_read :
    ∃ events, rack.call? place (fun device => Device.read device key) =
      some ⟨.ok value, events, rack⟩ := by
  obtain ⟨drive, here, read⟩ := readAt
  obtain ⟨inside, rfl⟩ := Array.getElem?_eq_some_iff.mp here
  have kept : (Device.read rack[place] key).state = rack[place] :=
    look_keeps (.device (.read key)) rack[place] rfl
  refine ⟨(Device.read rack[place] key).events, ?_⟩
  rw [call_inside rack place inside, read, kept, Array.set_getElem_self]

theorem copy_hop (inside : target < rack.size) :
    ∃ events, rack.copy? mode key place target =
      some ⟨.wrote value (Device.write mode rack[target] key value.toRef).answer, events,
        rack.set target (Device.write mode rack[target] key value.toRef).state⟩ := by
  obtain ⟨events, called⟩ := called_read rack place key value readAt
  refine ⟨events ++ (Device.write mode rack[target] key value.toRef).events, ?_⟩
  simp only [Rack.copy?, called, call_inside rack target inside, Option.map_some]

theorem copy_outside (outside : ¬ target < rack.size) :
    rack.copy? mode key place target = none := by
  obtain ⟨events, called⟩ := called_read rack place key value readAt
  simp only [Rack.copy?, called, call_outside rack target outside, Option.map_none]

variable (passed : checkRequest key none = .ok ()) (sound : Sound (content key) value)
include passed sound

/-- One step of a chain: a copy that was written is read where it was written to. -/
theorem hop_arrives (moved : StoredValue) (events : List Event) (next : Rack Drive)
    (copied : rack.copy? mode key place target = some ⟨.wrote moved (.ok ()), events, next⟩) :
    ReadAt next target key value ∧ next.size = rack.size := by
  by_cases inside : target < rack.size
  · obtain ⟨logged, written⟩ := copy_hop rack place target mode key value readAt inside
    rw [written] at copied
    simp only [Option.some.injEq, Reply.mk.injEq, Rack.Copied.wrote.injEq] at copied
    obtain ⟨⟨_, done⟩, _, rfl⟩ := copied
    refine ⟨⟨_, Array.getElem?_set_self inside, ?_⟩, Array.size_set inside⟩
    exact copy_arrives key value passed sound mode rack[target] done
  · rw [copy_outside rack place target mode key value readAt inside] at copied
    cases copied

theorem hop_possible (inside : target < rack.size) :
    ∃ mode events next,
      rack.copy? mode key place target = some ⟨.wrote value (.ok ()), events, next⟩ := by
  have admitted : ∃ mode, admits mode (find? rack[target] (content key)).isSome = true := by
    cases (find? rack[target] (content key)).isSome with
    | false => exact ⟨.insert, rfl⟩
    | true => exact ⟨.update, rfl⟩
  obtain ⟨mode, admitted⟩ := admitted
  obtain ⟨events, written⟩ := copy_hop rack place target mode key value readAt inside
  have done : (Device.write mode rack[target] key value.toRef).answer = .ok () := by
    rw [copy_exact key value passed sound mode, if_pos admitted]
  rw [done] at written
  exact ⟨mode, events, _, written⟩
end Hops

section Chains
variable (key : KeyRef) (value : StoredValue)
variable (passed : checkRequest key none = .ok ()) (sound : Sound (content key) value)
include passed sound

theorem carry_arrives (hops : List (Device.WriteMode × Nat)) (place : Nat) (rack : Rack Drive)
    (readAt : ReadAt rack place key value) (last : Nat) (moved : Rack Drive)
    (carried : carry? key hops place rack = some (last, moved)) : ReadAt moved last key value := by
  induction hops generalizing place rack with
  | nil =>
      cases carried
      exact readAt
  | cons hop rest ih =>
      obtain ⟨mode, target⟩ := hop
      simp only [carry?] at carried
      split at carried
      · next copy events next copied =>
        obtain ⟨arrived, _⟩ := hop_arrives rack place target mode key value readAt passed sound
          copy events next copied
        exact ih target next arrived carried
      · cases carried

theorem carry_possible (places : List Nat) (place : Nat) (rack : Rack Drive)
    (readAt : ReadAt rack place key value) (inside : ∀ next ∈ places, next < rack.size) :
    ∃ hops, hops.map Prod.snd = places ∧ (carry? key hops place rack).isSome = true := by
  induction places generalizing place rack with
  | nil => exact ⟨[], rfl, rfl⟩
  | cons target rest ih =>
      obtain ⟨mode, events, next, copied⟩ := hop_possible rack place target key value readAt passed
        sound (inside target List.mem_cons_self)
      obtain ⟨arrived, size⟩ := hop_arrives rack place target mode key value readAt passed sound
        value events next copied
      obtain ⟨hops, along, carried⟩ := ih target next arrived fun later member => by
        rw [size]
        exact inside later (List.mem_cons_of_mem target member)
      refine ⟨(mode, target) :: hops, by rw [List.map_cons, along], ?_⟩
      simpa only [carry?, copied] using carried
end Chains

/-- A value that is read on a drive can be written to any other under the same key, presence allowing,
and is read there as it was: bytes, actual size and offset. So it arrives unchanged at the end of
every chain of copies, and a chain can take in any places in any order. -/
theorem copies_exact (source : Drive) (reached : Reached source) (key : KeyRef)
    (value : StoredValue) (read : (Device.read source key).answer = .ok value) :
    value.toRef.check = .ok () ∧
      (∀ target : Drive,
        (∀ failure, (Device.insert target key value.toRef).answer = .error failure ↔
          failure = .keyAlreadyExists ∧ Holds target key) ∧
        (∀ failure, (Device.update target key value.toRef).answer = .error failure ↔
          failure = .keyNotExist ∧ ¬ Holds target key) ∧
        ∀ mode, (Device.write mode target key value.toRef).answer = .ok () →
          (Device.read (Device.write mode target key value.toRef).state key).answer = .ok value) ∧
      ∀ (rack : Rack Drive) (place : Nat), rack[place]? = some source →
        (∀ hops last moved, carry? key hops place rack = some (last, moved) →
          ReadAt moved last key value) ∧
        ∀ places : List Nat, (∀ next ∈ places, next < rack.size) →
          ∃ hops, hops.map Prod.snd = places ∧ (carry? key hops place rack).isSome = true := by
  obtain ⟨passed, sound⟩ := read_sound source reached key value read
  refine ⟨sound_passes (content key) value sound, ?_, ?_⟩
  · intro target
    refine ⟨?_, ?_, fun mode => copy_arrives key value passed sound mode target⟩
    · intro failure
      rw [holds_iff target key passed]
      simpa [Device.write, admits, conflict] using
        copy_refused_iff key value passed sound .insert target failure
    · intro failure
      rw [holds_iff target key passed]
      simpa [Device.write, admits, conflict] using
        copy_refused_iff key value passed sound .update target failure
  · intro rack place here
    have readAt : ReadAt rack place key value := ⟨source, here, read⟩
    exact ⟨fun hops => carry_arrives key value passed sound hops place rack readAt,
      fun places => carry_possible key value passed sound places place rack readAt⟩

def overlong : Call := .device (.insert (.ofText "user") ⟨some [1, 2, 3, 4], 2, 99, 512⟩)

def overlongSource : Drive := leaves Call.run [overlong] (Opening.single none).drive

theorem overlong_left :
    overlongSource = put (Opening.single none).drive (content (.ofText "user"))
      (kept ⟨some [1, 2, 3, 4], 2, 99, 512⟩) := by
  have passed : checkRequest (.ofText "user") (some ⟨some [1, 2, 3, 4], 2, 99, 512⟩) = .ok () := by
    decide
  show (DeviceCall.run (.insert (.ofText "user") ⟨some [1, 2, 3, 4], 2, 99, 512⟩)
    (Opening.single none).drive).state = _
  rw [run_exact]
  simp [keyOf, valueOf, passed, serve, opening_empty]

def overlongRack : Rack Drive := #[overlongSource, (Opening.sharded 4 UInt64.toNat).drive]

theorem copies_exact_overlong :
    Reached overlongSource ∧
      (Device.read overlongSource (.ofText "user")).answer = .ok ⟨[1, 2], 2, 512⟩ ∧
      ∃ hops last moved, hops.map Prod.snd = [1, 0, 1] ∧
        carry? (.ofText "user") hops 0 overlongRack = some (last, moved) ∧
        ReadAt moved last (.ofText "user") ⟨[1, 2], 2, 512⟩ := by
  have reached : Reached overlongSource := ⟨.single none, [overlong], rfl⟩
  have read : (Device.read overlongSource (.ofText "user")).answer = .ok ⟨[1, 2], 2, 512⟩ := by
    refine (read_found_iff _ _ _).mpr ⟨by decide, ?_⟩
    rw [overlong_left, LawfulEntryMap.find?_put, if_pos rfl]
    rfl
  obtain ⟨_, _, chain⟩ := copies_exact overlongSource reached (.ofText "user") _ read
  obtain ⟨arrives, possible⟩ := chain overlongRack 0 rfl
  obtain ⟨hops, along, carried⟩ := possible [1, 0, 1] (by decide)
  obtain ⟨⟨last, moved⟩, carried⟩ := Option.isSome_iff_exists.mp carried
  exact ⟨reached, read, hops, last, moved, along, carried, arrives hops last moved carried⟩

end FlashStore.ValueCopies
