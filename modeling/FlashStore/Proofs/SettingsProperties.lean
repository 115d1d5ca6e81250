import FlashStore.Proofs.TextReaders
import FlashStore.Settings
import Mathlib.Data.List.TakeWhile

/-!
Which properties are settings. Two of them are looked at, each for itself, and each without the white
space around it: one has to be the name of a backend and the other a natural number of 64 bits. The
error tells which of the two is at fault, and it is the backend if both are.
-/

namespace FlashStore.SettingsProperties
open NaturalTexts TextReaders

def whiteSpace : List Nat :=
  [0x9, 0xa, 0xb, 0xc, 0xd, 0x20, 0x85, 0xa0, 0x1680, 0x2000, 0x2001, 0x2002, 0x2003, 0x2004, 0x2005,
    0x2006, 0x2007, 0x2008, 0x2009, 0x200a, 0x2028, 0x2029, 0x202f, 0x205f, 0x3000]

def White (c : Char) : Prop := c.toNat ∈ whiteSpace

/-- The text is the core with white space around it, and the core has none at its ends. -/
structure Stripped (text core : List Char) : Prop where
  padded : ∃ before after, (∀ c ∈ before, White c) ∧ (∀ c ∈ after, White c) ∧
    text = before ++ core ++ after
  bare : ∀ c, core.head? = some c ∨ core.getLast? = some c → ¬ White c

theorem blank_white (c : Char) : Text.isBlank c = true ↔ White c := by
  simp only [Text.isBlank, White, whiteSpace, List.mem_cons, List.not_mem_nil, or_false,
    Bool.or_eq_true, Bool.and_eq_true, decide_eq_true_eq, beq_iff_eq]
  omega

theorem digit_not_white (c : Char) (digit : c.isDigit = true) : ¬ White c := by
  have lower : '0'.val.toNat = 48 := rfl
  have upper : '9'.val.toNat = 57 := rfl
  simp only [Char.isDigit, Bool.and_eq_true, decide_eq_true_eq, ge_iff_le,
    UInt32.le_iff_toNat_le] at digit
  simp only [White, whiteSpace, List.mem_cons, List.not_mem_nil, or_false, Char.toNat]
  omega

theorem front_dropped (front rest : List Char) (blank : ∀ c ∈ front, White c)
    (bare : ∀ c, rest.head? = some c → ¬ White c) :
    (front ++ rest).dropWhile Text.isBlank = rest := by
  apply (run_ends Text.isBlank front rest (fun c member => (blank_white c).mpr (blank c member)) _).2
  intro c first
  rw [← Bool.not_eq_true, blank_white]
  exact bare c first

theorem stripped_trim (text core : List Char) (stripped : Stripped text core) :
    Text.trim text = core := by
  obtain ⟨⟨before, after, front, back, rfl⟩, bare⟩ := stripped
  have backwards : ∀ c ∈ after.reverse, White c := by simpa using back
  rw [Text.trim, List.append_assoc]
  cases core with
  | nil =>
      have all : ∀ c ∈ before ++ after, White c := by
        intro c member
        exact (List.mem_append.mp member).elim (front c) (back c)
      have nothing := front_dropped (before ++ after) [] all (by simp)
      rw [List.append_nil] at nothing
      rw [List.nil_append, nothing]
      rfl
  | cons c rest =>
      rw [front_dropped before _ front (by simpa using bare c (.inl rfl)), List.reverse_append,
        front_dropped after.reverse _ backwards, List.reverse_reverse]
      intro last found
      rw [List.head?_reverse] at found
      exact bare last (.inr found)

theorem trim_stripped (text : List Char) : Stripped text (Text.trim text) := by
  have pieces (s : List Char) : ∃ front, (∀ c ∈ front, White c) ∧
      s = front ++ s.dropWhile Text.isBlank ∧
      ∀ c, (s.dropWhile Text.isBlank).head? = some c → ¬ White c := by
    refine ⟨s.takeWhile Text.isBlank, ?_, List.takeWhile_append_dropWhile.symm, ?_⟩
    · intro c member
      exact (blank_white c).mp (List.mem_takeWhile_imp member)
    · intro c first white
      have other := List.head?_dropWhile_not Text.isBlank s
      simp only [first, (blank_white c).mpr white] at other
      cases other
  obtain ⟨before, front, begins, headed⟩ := pieces text
  obtain ⟨after, back, ends, lasted⟩ := pieces (text.dropWhile Text.isBlank).reverse
  have core : text.dropWhile Text.isBlank = Text.trim text ++ after.reverse := by
    rw [Text.trim, ← List.reverse_append, ← ends, List.reverse_reverse]
  refine ⟨⟨before, after.reverse, front, by simpa using back, ?_⟩, ?_⟩
  · rw [List.append_assoc, ← core]
    exact begins
  · rintro c (first | last)
    · apply headed c
      rw [core, List.head?_append, first]
      rfl
    · apply lasted c
      rw [Text.trim, List.getLast?_reverse] at last
      exact last

theorem stripped_iff (text core : List Char) : Stripped text core ↔ Text.trim text = core :=
  ⟨stripped_trim text core, fun same => same ▸ trim_stripped text⟩

def Names (text : String) (backend : Backend) : Prop := Stripped text.toList backend.name.toList

def Counts (text : String) (amount : UInt64) : Prop :=
  ∃ core, Stripped text.toList core ∧ Numeral core amount.toNat

theorem backend_read_iff (text : String) (backend : Backend) :
    Settings.backendOfProperty text = .ok backend ↔ Names text backend := by
  rw [Names, stripped_iff, Settings.backendOfProperty]
  cases known : Backend.ofName? (String.ofList (Text.trim text.toList)) with
  | none =>
      constructor
      · rintro ⟨⟩
      · intro same
        rw [same, String.ofList_toList, Backend.ofName?_name] at known
        cases known
  | some found =>
      have spelled := Backend.eq_name_of_ofName? known
      constructor
      · rintro ⟨⟩
        rw [← spelled, String.toList_ofList]
      · intro same
        rw [same, String.ofList_toList, Backend.ofName?_name] at known
        cases known
        rfl

theorem backend_refused_iff (text : String) (failure : SettingsError) :
    Settings.backendOfProperty text = .error failure ↔
      ∃ core : String, Stripped text.toList core.toList ∧ (∀ backend : Backend, core ≠ backend.name) ∧
        failure = .badProperty "kvssd.backend" core := by
  have accepted := backend_read_iff text
  constructor
  · intro refused
    refine ⟨String.ofList (Text.trim text.toList), ?_, ?_, ?_⟩
    · rw [stripped_iff, String.toList_ofList]
    · intro backend same
      have named : Names text backend := by
        rw [Names, stripped_iff, ← same, String.toList_ofList]
      rw [← accepted, refused] at named
      cases named
    · rw [Settings.backendOfProperty] at refused
      split at refused <;> cases refused
      rfl
  · rintro ⟨core, stripped, unknown, rfl⟩
    have same : String.ofList (Text.trim text.toList) = core := by
      rw [stripped_trim _ _ stripped, String.ofList_toList]
    rw [Settings.backendOfProperty, same]
    cases known : Backend.ofName? core with
    | none => simp only [backendProperty]
    | some backend => exact absurd (Backend.eq_name_of_ofName? known) (unknown backend)

theorem amount_read_iff (text : String) (amount : UInt64) :
    Settings.shardAmountOfProperty text = .ok amount ↔ Counts text amount := by
  simp only [Counts, stripped_iff, exists_eq_left', ← natural_read_iff,
    Settings.shardAmountOfProperty]
  cases read : Text.readNatural (Text.trim text.toList) with
  | error fault => simp
  | ok n =>
      have small := natural_small _ n read
      simp only [Except.ok.injEq]
      constructor
      · rintro rfl
        exact (UInt64.toNat_ofNat_of_lt' small).symm
      · rintro rfl
        exact UInt64.ofNat_toNat

theorem amount_refused_iff (text : String) (failure : SettingsError) :
    Settings.shardAmountOfProperty text = .error failure ↔
      (∀ amount, ¬ Counts text amount) ∧ failure = .badProperty "kvssd.shard_amount" text := by
  simp only [← amount_read_iff, Settings.shardAmountOfProperty]
  cases Text.readNatural (Text.trim text.toList) with
  | error fault => simp [shardAmountProperty, eq_comm]
  | ok n => simp

/-- An entry spells the value; without an entry it is the standard one. -/
def Given {α : Type} (spells : String → α → Prop) (standard : α) (entry : Option String)
    (value : α) : Prop :=
  match entry with
  | none => value = standard
  | some text => spells text value

/-- The error of properties that are no settings. -/
inductive Refused (properties : Properties) : SettingsError → Prop where
  | backend (text core : String) (entry : properties.lookup "kvssd.backend" = some text)
      (stripped : Stripped text.toList core.toList)
      (unknown : ∀ backend : Backend, core ≠ backend.name) :
      Refused properties (.badProperty "kvssd.backend" core)
  | shardAmount (backend : Backend) (text : String)
      (given : Given Names .singleTable (properties.lookup "kvssd.backend") backend)
      (entry : properties.lookup "kvssd.shard_amount" = some text)
      (uncounted : ∀ amount, ¬ Counts text amount) :
      Refused properties (.badProperty "kvssd.shard_amount" text)

section Properties
variable (properties : Properties)

def readEntry {α : Type} (read : String → Except SettingsError α) (standard : α)
    (entry : Option String) : Except SettingsError α :=
  match entry with
  | none => .ok standard
  | some text => read text

theorem entry_given_iff {α : Type} (read : String → Except SettingsError α)
    (spells : String → α → Prop) (reads : ∀ text value, read text = .ok value ↔ spells text value)
    (standard : α) (entry : Option String) (value : α) :
    readEntry read standard entry = .ok value ↔ Given spells standard entry value := by
  cases entry with
  | none => simp [readEntry, Given, eq_comm]
  | some text => exact reads text value

def backendEntry : Except SettingsError Backend :=
  readEntry Settings.backendOfProperty .singleTable (properties.lookup "kvssd.backend")

def amountEntry : Except SettingsError UInt64 :=
  readEntry Settings.shardAmountOfProperty 64 (properties.lookup "kvssd.shard_amount")

theorem properties_entries :
    Settings.ofProperties properties =
      (backendEntry properties).bind fun backend =>
        (amountEntry properties).map fun amount => ⟨backend, amount⟩ := by
  simp only [Settings.ofProperties, backendEntry, amountEntry, backendProperty, shardAmountProperty]
  cases properties.lookup "kvssd.backend" <;> cases properties.lookup "kvssd.shard_amount" <;> rfl

theorem properties_read_iff (settings : Settings) :
    Settings.ofProperties properties = .ok settings ↔
      Given Names .singleTable (properties.lookup "kvssd.backend") settings.backend ∧
      Given Counts 64 (properties.lookup "kvssd.shard_amount") settings.shardAmount := by
  rw [properties_entries, ← entry_given_iff _ _ backend_read_iff,
    ← entry_given_iff _ _ amount_read_iff]
  show _ ↔ backendEntry properties = .ok _ ∧ amountEntry properties = .ok _
  obtain ⟨wantedBackend, wantedAmount⟩ := settings
  cases backendEntry properties with
  | error failure => simp [Except.bind]
  | ok backend => cases amountEntry properties <;> simp [Except.bind, Except.map]

theorem properties_refused_iff (failure : SettingsError) :
    Settings.ofProperties properties = .error failure ↔ Refused properties failure := by
  have given := entry_given_iff _ _ backend_read_iff .singleTable (properties.lookup "kvssd.backend")
  rw [properties_entries]
  constructor
  · intro refused
    cases first : backendEntry properties with
    | error fault =>
        rw [first] at refused
        cases refused
        rw [backendEntry, readEntry.eq_def] at first
        split at first
        · cases first
        · next text entry =>
          obtain ⟨core, stripped, unknown, rfl⟩ := (backend_refused_iff _ _).mp first
          exact .backend text core entry stripped unknown
    | ok backend =>
        cases second : amountEntry properties with
        | ok amount =>
            rw [first, second] at refused
            cases refused
        | error fault =>
            rw [first, second] at refused
            cases refused
            rw [amountEntry, readEntry.eq_def] at second
            split at second
            · cases second
            · next text entry =>
              obtain ⟨uncounted, rfl⟩ := (amount_refused_iff _ _).mp second
              exact .shardAmount backend text ((given backend).mp first) entry uncounted
  · intro refused
    cases refused with
    | backend text core entry stripped unknown =>
        have first := (backend_refused_iff text _).mpr ⟨core, stripped, unknown, rfl⟩
        simp only [backendEntry, readEntry, entry, first]
        rfl
    | shardAmount backend text named entry uncounted =>
        have first : backendEntry properties = .ok backend := (given backend).mpr named
        have second := (amount_refused_iff text _).mpr ⟨uncounted, rfl⟩
        simp only [first, amountEntry, readEntry, entry, second]
        rfl

theorem padded_counts (n : Nat) (small : n < UInt64.size) (before after : List Char)
    (front : ∀ c ∈ before, White c) (back : ∀ c ∈ after, White c) :
    Counts (String.ofList (before ++ Nat.toDigits 10 n ++ after)) (UInt64.ofNat n) := by
  refine ⟨Nat.toDigits 10 n, ⟨⟨before, after, front, back, String.toList_ofList⟩, ?_⟩, ?_⟩
  · intro c ends
    have member : c ∈ Nat.toDigits 10 n := ends.elim List.mem_of_head? List.mem_of_getLast?
    exact digit_not_white c (Nat.isDigit_of_mem_toDigits (by decide) (by decide) member)
  · rw [UInt64.toNat_ofNat_of_lt' small]
    exact decimal_numeral n small

/-- Properties are settings if and only if the backend that is given is a name and the amount that is
given is a numeral below `2 ^ 64`, white space around them apart; what is not given is standard, and
nothing else is looked at. A bad backend is reported as it stands without the white space, a bad
amount behind a good backend with it. An amount that is written out in decimal is read back. -/
theorem properties_exact :
    (∀ others : Properties, others.lookup "kvssd.backend" = properties.lookup "kvssd.backend" →
      others.lookup "kvssd.shard_amount" = properties.lookup "kvssd.shard_amount" →
      Settings.ofProperties others = Settings.ofProperties properties) ∧
    (∀ settings, Settings.ofProperties properties = .ok settings ↔
      Given Names .singleTable (properties.lookup "kvssd.backend") settings.backend ∧
      Given Counts 64 (properties.lookup "kvssd.shard_amount") settings.shardAmount) ∧
    (∀ failure, Settings.ofProperties properties = .error failure ↔ Refused properties failure) ∧
    ∀ (backend : Backend) (n : Nat) (before after : List Char), n < UInt64.size →
      (∀ c ∈ before, White c) → (∀ c ∈ after, White c) →
      Given Names .singleTable (properties.lookup "kvssd.backend") backend →
      properties.lookup "kvssd.shard_amount" =
        some (String.ofList before ++ toString n ++ String.ofList after) →
      ∃ settings, Settings.ofProperties properties = .ok settings ∧
        settings.backend = backend ∧ settings.shardAmount.toNat = n := by
  refine ⟨?_, properties_read_iff properties, properties_refused_iff properties, ?_⟩
  · intro others sameBackend sameAmount
    rw [properties_entries, properties_entries, backendEntry, amountEntry, sameBackend, sameAmount]
    rfl
  · intro backend n before after small front back given entry
    have counts := padded_counts n small before after front back
    rw [String.ofList_append, String.ofList_append, ← Nat.toString_eq_ofList_toDigits] at counts
    refine ⟨⟨backend, UInt64.ofNat n⟩, ?_, rfl, UInt64.toNat_ofNat_of_lt' small⟩
    rw [properties_read_iff, entry]
    exact ⟨given, counts⟩

end Properties

def spacious : Properties :=
  [("kvssd.shard_amount", "\u3000\t18446744073709551615\n"), ("kvssd.backend", "\u00a0kvssd"),
    ("table", "t")]

def twiceBad : Properties := [("kvssd.backend", " rocks db\n"), ("kvssd.shard_amount", "1 8")]

theorem properties_exact_spacious :
    (∃ settings, Settings.ofProperties spacious = .ok settings ∧ settings.backend = .physical ∧
      settings.shardAmount.toNat = 18446744073709551615) ∧
    Settings.ofProperties (spacious.take 2) = Settings.ofProperties spacious ∧
    Settings.ofProperties twiceBad = .error (.badProperty "kvssd.backend" "rocks db") := by
  obtain ⟨looks, _, _, reads⟩ := properties_exact spacious
  obtain ⟨_, _, refuses, _⟩ := properties_exact twiceBad
  refine ⟨?_, looks (spacious.take 2) rfl rfl, (refuses _).mpr ?_⟩
  · exact reads .physical 18446744073709551615 ['\u3000', '\t'] ['\n'] (by decide)
      (by simp [White, whiteSpace]) (by simp [White, whiteSpace]) ((backend_read_iff _ _).mp rfl) rfl
  · obtain ⟨core, stripped, unknown, same⟩ := (backend_refused_iff " rocks db\n" _).mp rfl
    cases same
    exact .backend " rocks db\n" _ rfl stripped unknown

end FlashStore.SettingsProperties
