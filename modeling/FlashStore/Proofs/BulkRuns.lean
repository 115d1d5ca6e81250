import FlashStore.Proofs.ScriptRuns
import FlashStore.Proofs.TextReaders

/-!
The generated keys and rows of the bulk script, and its run on a drive that may hold anything else.

As long as no value of an index leaves the 64-bit range while its row is made, the index has at most
nineteen digits, so every key has a length that a drive takes and every row is encoded in three
hundred bytes at most. Different indexes have different keys and different rows.

Each round takes the generated keys one after the other from one content to another and leaves all
other entries alone; a round that is cut short has done so for the first keys only. If the keys are
free at the start, six rounds end where they began; the first key that is not free stops the first
round.
-/

namespace FlashStore.SampleRows
open DriveCalls FieldRecords NaturalTexts RowBlobs RowCalls Smoke TextReaders

/-- The row of this index is made without an overflow. -/
def InRange (index : Nat) : Prop := index * 7 + 3 < UInt64.size

instance (index : Nat) : Decidable (InRange index) := inferInstanceAs (Decidable (_ < _))

theorem size_ascii (text : List Char) (ascii : ∀ c ∈ text, c.utf8Size = 1) :
    (String.ofList text).utf8ByteSize = text.length := by
  induction text with
  | nil => rfl
  | cons c rest ih =>
      have tail := ih fun later member => ascii later (List.mem_cons_of_mem c member)
      rw [String.ofList_cons, String.utf8ByteSize_append, tail, String.utf8ByteSize_singleton,
        ascii c List.mem_cons_self, List.length_cons, Nat.add_comm]

theorem digit_ascii (c : Char) (digit : c.isDigit = true) : c.utf8Size = 1 := by
  simp only [Char.isDigit, Bool.and_eq_true, decide_eq_true_eq] at digit
  rw [Char.utf8Size_eq_one_iff]
  exact Nat.le_trans digit.2 (by decide)

theorem size_decimal (n : Nat) : (toString n).utf8ByteSize = (Nat.toDigits 10 n).length := by
  rw [Nat.toString_eq_ofList_toDigits]
  exact size_ascii _ fun c member =>
    digit_ascii c (Nat.isDigit_of_mem_toDigits (by decide) (by decide) member)

theorem size_index (index : Nat) (inRange : InRange index) :
    1 ≤ (toString index).utf8ByteSize ∧ (toString index).utf8ByteSize ≤ 19 := by
  rw [size_decimal]
  refine ⟨Nat.length_toDigits_pos, (Nat.length_toDigits_le_iff (by decide) (by decide)).mpr ?_⟩
  -- A seventh of the 64-bit range lies below ten to the nineteenth power.
  simp only [InRange, UInt64.size] at inRange
  omega

theorem size_number (n : Nat) (single : n < 10) : (toString n).utf8ByteSize ≤ 1 := by
  rw [size_decimal]
  exact (Nat.length_toDigits_le_iff (by decide) (by decide)).mpr (by omega)

theorem size_filler (n : Nat) : ("".pushn 'x' n).utf8ByteSize = n := by
  rw [String.pushn_eq_repeat_push]
  induction n with
  | zero => rfl
  | succ n ih => rw [Nat.repeat, String.utf8ByteSize_push, ih]; rfl

theorem size_key (index : Nat) (inRange : InRange index) :
    4 ≤ (sampleKey index).utf8ByteSize ∧ (sampleKey index).utf8ByteSize ≤ 22 := by
  have digits := size_index index inRange
  rw [sampleKey, String.utf8ByteSize_append]
  have front : "key".utf8ByteSize = 3 := by decide
  omega

theorem key_fits (index : Nat) (inRange : InRange index) : KeyFits (sampleKey index) := by
  have size := size_key index inRange
  exact ⟨size.1, by omega⟩

theorem key_inj (one other : Nat) : sampleKey one = sampleKey other ↔ one = other := by
  rw [sampleKey, sampleKey, String.append_right_inj]
  exact Nat.repr_inj

theorem digits_end (n : Nat) (back : String) :
    (toString n ++ ("_" ++ back)).toList.takeWhile Char.isDigit = Nat.toDigits 10 n ∧
      (toString n ++ ("_" ++ back)).toList.dropWhile Char.isDigit = '_' :: back.toList := by
  have text : (toString n ++ ("_" ++ back)).toList = Nat.toDigits 10 n ++ '_' :: back.toList := by
    rw [String.toList_append, String.toList_append, Nat.toString_eq_ofList_toDigits,
      String.toList_ofList]
    rfl
  rw [text]
  apply run_ends
  · exact fun c member => Nat.isDigit_of_mem_toDigits (by decide) (by decide) member
  · rintro c ⟨⟩
    rfl

theorem number_inj (one other : Nat) (back behind : String) :
    toString one ++ ("_" ++ back) = toString other ++ ("_" ++ behind) ↔
      one = other ∧ back = behind := by
  constructor
  · intro same
    obtain ⟨digits, rest⟩ := digits_end one back
    rw [same, (digits_end other behind).1] at digits
    rw [same, (digits_end other behind).2] at rest
    have value := congrArg (fun digits => Nat.ofDigitChars 10 digits 0) digits
    simp only [Nat.ofDigitChars_ten_toDigits] at value
    exact ⟨value.symm, String.toList_inj.mp (List.cons.inj rest).2.symm⟩
  · rintro ⟨rfl, rfl⟩
    rfl

theorem name_inj (one n other m : Nat) :
    (sampleField one n).name = (sampleField other m).name ↔ one = other ∧ n = m := by
  simp only [sampleField, String.append_assoc, String.append_right_inj, number_inj]
  exact and_congr_right fun _ => Nat.repr_inj

theorem value_inj (one n other m : Nat) :
    (sampleField one n).value = (sampleField other m).value ↔ one = other ∧ n = m := by
  simp only [sampleField, String.append_assoc, String.append_right_inj, number_inj]
  constructor
  · rintro ⟨rfl, rfl, _⟩
    exact ⟨rfl, rfl⟩
  · rintro ⟨rfl, rfl⟩
    exact ⟨rfl, rfl, rfl⟩

theorem row_fields (index : Nat) (field : Field) (member : field ∈ sampleRow index) :
    ∃ n, field = sampleField index n := by
  simp only [sampleRow, List.mem_cons, List.not_mem_nil, or_false] at member
  rcases member with rfl | rfl | rfl <;> exact ⟨_, rfl⟩

theorem row_inj (one other : Nat) : sampleRow one = sampleRow other ↔ one = other := by
  constructor
  · intro same
    obtain ⟨first, _⟩ := List.cons.inj same
    exact ((name_inj one 1 other 1).mp (congrArg Field.name first)).1
  · rintro rfl
    rfl

theorem size_field (index n : Nat) (inRange : InRange index) (single : n < 10) :
    (sampleField index n).name.utf8ByteSize + (sampleField index n).value.utf8ByteSize ≤ 84 := by
  have digits := size_index index inRange
  have number := size_number n single
  have filler := size_filler ((index * 7 + n) % 32)
  have short : (index * 7 + n) % 32 < 32 := Nat.mod_lt _ (by decide)
  simp only [sampleField, String.utf8ByteSize_append, filler]
  have name : "field".utf8ByteSize = 5 := by decide
  have value : "value".utf8ByteSize = 5 := by decide
  have line : "_".utf8ByteSize = 1 := by decide
  omega

theorem size_row (index : Nat) (inRange : InRange index) : spelledSize (sampleRow index) ≤ 300 := by
  have first := size_field index 1 inRange (by decide)
  have second := size_field index 2 inRange (by decide)
  have third := size_field index 3 inRange (by decide)
  simp only [sampleRow, spelledSize]
  omega

theorem fits_small (row : Row) (small : spelledSize row < UInt32.size) : Fits row := by
  induction row with
  | nil =>
      intro field member
      cases member
  | cons first rest ih =>
      simp only [spelledSize] at small
      intro field member
      rcases List.mem_cons.mp member with rfl | later
      · exact ⟨by omega, by omega⟩
      · exact ih (by omega) field later

theorem row_blob (index : Nat) (inRange : InRange index) :
    ∃ blob, (sampleRow index).encode = .ok blob ∧ Row.decode blob = .ok (sampleRow index) ∧
      blob.length ≤ 300 := by
  have small := size_row index inRange
  have fits : Fits (sampleRow index) :=
    fits_small _ (Nat.lt_of_le_of_lt small (by decide))
  obtain ⟨blob, encoded, spelled⟩ := encode_spells (sampleRow index) fits
  refine ⟨blob, encoded, spelled_decodes _ blob spelled, ?_⟩
  rw [length_spelled _ blob spelled]
  exact small

theorem shifted_lt (rows index : Nat) (within : index < rows) : shifted rows index < rows :=
  Nat.mod_lt _ (Nat.lt_of_le_of_lt (Nat.zero_le index) within)

/-- The generated keys and rows can be used: a key has a length that a drive takes, and a row is
written under any such key, new or present as the write asks. They can be told apart as well: the
fields of a row by their names, and those of two rows by each of their texts. -/
theorem samples_told_apart (one other : Nat) (inRange : InRange one) :
    (4 ≤ (sampleKey one).utf8ByteSize ∧ (sampleKey one).utf8ByteSize ≤ 23) ∧
    (KeyRef.ofText (sampleKey one)).check = .ok () ∧
    (sampleKey one = sampleKey other → one = other) ∧
    (sampleRow one).length = 3 ∧ ((sampleRow one).map Field.name).Nodup ∧
    (one ≠ other → ∀ field ∈ sampleRow one, ∀ twin ∈ sampleRow other,
      field.name ≠ twin.name ∧ field.value ≠ twin.value) ∧
    (∃ blob, (sampleRow one).encode = .ok blob ∧ blob.length ≤ 300) ∧
    ∀ mode (drive : Drive) (key : String), KeyFits key →
      ((RowStore.write mode drive key (sampleRow one)).answer = .ok () ↔
        admits mode (find? drive (Bytes.ofText key)).isSome = true) := by
  obtain ⟨blob, encoded, _, short⟩ := row_blob one inRange
  refine ⟨?_, ?_, (key_inj one other).mp, rfl, ?_, ?_, ⟨blob, encoded, short⟩, ?_⟩
  · have size := size_key one inRange
    omega
  · rw [row_key_verdict, if_pos (key_fits one inRange)]
  · simp [sampleRow, name_inj]
  · intro different field member twin twinMember
    obtain ⟨n, rfl⟩ := row_fields one field member
    obtain ⟨m, rfl⟩ := row_fields other twin twinMember
    exact ⟨fun same => different ((name_inj one n other m).mp same).1,
      fun same => different ((value_inj one n other m).mp same).1⟩
  · intro mode drive key fits
    rw [write_done_iff mode drive key _ blob encoded fits]
    exact and_iff_right (Nat.le_trans short (by decide))

-- The greatest index in range, against the index that its digits without the last one make.
theorem samples_told_apart_greatest :
    InRange 2635249153387078801 ∧ ¬ InRange 2635249153387078802 ∧
      (sampleKey 2635249153387078801).utf8ByteSize ≤ 23 ∧
      ((sampleRow 2635249153387078801).map Field.name).Nodup ∧
      (∀ field ∈ sampleRow 2635249153387078801, ∀ twin ∈ sampleRow 263524915338707880,
        field.name ≠ twin.name ∧ field.value ≠ twin.value) ∧
      (RowStore.write .insert (Opening.single none).drive (sampleKey 2635249153387078801)
        (sampleRow 2635249153387078801)).answer = .ok () := by
  have inRange : InRange 2635249153387078801 := by decide
  obtain ⟨size, _, _, _, names, apart, _, written⟩ :=
    samples_told_apart 2635249153387078801 263524915338707880 inRange
  refine ⟨inRange, by decide, size.2, names, apart (by decide), ?_⟩
  apply (written .insert _ _ (key_fits _ inRange)).mpr
  rw [opening_empty]
  rfl

end FlashStore.SampleRows

/-! The bulk run -/

namespace FlashStore.BulkRuns
open DriveCalls RequestChecks RowCalls SampleRows ScriptRuns Smoke

def keyBytes (index : Nat) : Bytes := Bytes.ofText (sampleKey index)

theorem keyBytes_inj (one other : Nat) : keyBytes one = keyBytes other ↔ one = other :=
  Bytes.ofText_inj.trans (key_inj one other)

def Shows : Option Nat → Option StoredValue → Prop
  | none, found => found = none
  | some source, found => ∃ blob, (sampleRow source).encode = .ok blob ∧
      found = some ⟨blob, saturatedLength blob, 0⟩

section Rounds
variable {τ : Type} [EntryMap τ]

/-- The entries are those of `base`, but for the first `rows` generated keys: under each of them is
the row that `held` names. -/
structure Stands (base : τ) (rows : Nat) (held : Nat → Option Nat) (entries : τ) : Prop where
  mine : ∀ index < rows, Shows (held index) (find? entries (keyBytes index))
  others : ∀ key, (∀ index < rows, key ≠ keyBytes index) → find? entries key = find? base key

variable (base : τ) (rows : Nat) (held : Nat → Option Nat) (entries : τ)

theorem put_stands [LawfulEntryMap τ] (stands : Stands base rows held entries) (index source : Nat)
    (within : index < rows) (blob : Bytes) (encoded : (sampleRow source).encode = .ok blob)
    (small : blob.length ≤ 2097152) :
    Stands base rows (Function.update held index (some source))
      (put entries (keyBytes index) (kept (.ofBytes blob))) := by
  constructor
  · intro other below
    rw [LawfulEntryMap.find?_put]
    by_cases same : index = other
    · subst same
      rw [if_pos rfl, Function.update_self, kept_whole blob small]
      exact ⟨blob, encoded, rfl⟩
    · simpa [keyBytes_inj, same, Function.update_of_ne (Ne.symm same)] using stands.mine other below
  · intro key foreign
    rw [LawfulEntryMap.find?_put, if_neg (foreign index within).symm]
    exact stands.others key foreign

theorem erase_stands [LawfulEntryMap τ] (stands : Stands base rows held entries) (index : Nat)
    (within : index < rows) :
    Stands base rows (Function.update held index none) (erase entries (keyBytes index)) := by
  constructor
  · intro other below
    rw [LawfulEntryMap.find?_erase]
    by_cases same : index = other
    · subst same
      simp [Shows]
    · simpa [keyBytes_inj, same, Function.update_of_ne (Ne.symm same)] using stands.mine other below
  · intro key foreign
    rw [LawfulEntryMap.find?_erase, if_neg (foreign index within).symm]
    exact stands.others key foreign

theorem present_at (stands : Stands base rows held entries) (index source : Nat)
    (within : index < rows) (holds : held index = some source) :
    (find? entries (keyBytes index)).isSome = true := by
  have shows := stands.mine index within
  rw [holds] at shows
  obtain ⟨blob, _, found⟩ := shows
  rw [found, Option.isSome_some]

theorem absent_at (stands : Stands base rows held entries) (index : Nat) (within : index < rows)
    (free : held index = none) : find? entries (keyBytes index) = none := by
  have shows := stands.mine index within
  rw [free] at shows
  exact shows

/-- Where the index holds `old`, the step passes and makes it hold `new`; of the counted entries
`gone` go and `come` come. -/
def Moves (step : Step) (index : Nat) (old new : Option Nat) (gone come : Nat) : Prop :=
  ∀ held (entries : τ), Stands base rows held entries → held index = old →
    (step.run .silent entries).answer = .ok () ∧
      Stands base rows (Function.update held index new) (step.run .silent entries).state ∧
      count (step.run .silent entries).state + gone = count entries + come

section Moving
variable (index source : Nat) (within : index < rows) (inRange : InRange index)
include within inRange

theorem insert_moves [LawfulEntryMap τ] (sourceInRange : InRange source) :
    Moves base rows (.insert (sampleKey index) (sampleRow source)) index none (some source) 0 1 := by
  intro held entries stands free
  obtain ⟨blob, encoded, _, short⟩ := row_blob source sourceInRange
  have absent := absent_at base rows held entries stands index within free
  obtain ⟨passed, next⟩ := insert_passes .silent entries (sampleKey index) (sampleRow source) blob
    (key_fits index inRange) encoded (by omega) absent
  rw [next]
  refine ⟨passed, put_stands base rows held entries stands index source within blob encoded
    (by omega), ?_⟩
  show count (put entries (keyBytes index) _) + 0 = count entries + 1
  simp [LawfulEntryMap.count_put, absent]

theorem expect_moves (sourceInRange : InRange source) :
    Moves base rows (.expect (sampleKey index) (sampleRow source)) index (some source)
      (some source) 0 0 := by
  intro held entries stands holds
  obtain ⟨blob, encoded, decoded, _⟩ := row_blob source sourceInRange
  have shows := stands.mine index within
  rw [holds] at shows
  obtain ⟨same, sameEncoded, found⟩ := shows
  cases encoded.symm.trans sameEncoded
  obtain ⟨passed, next⟩ := expect_passes .silent entries (sampleKey index) (sampleRow source) _
    (key_fits index inRange) found decoded
  rw [next, ← holds, Function.update_eq_self]
  exact ⟨passed, stands, rfl⟩

theorem update_moves [LawfulEntryMap τ] (old : Nat) (sourceInRange : InRange source) :
    Moves base rows (.update (sampleKey index) (sampleRow source)) index (some old)
      (some source) 0 0 := by
  intro held entries stands holds
  obtain ⟨blob, encoded, _, short⟩ := row_blob source sourceInRange
  have present := present_at base rows held entries stands index old within holds
  obtain ⟨passed, next⟩ := update_passes .silent entries (sampleKey index) (sampleRow source) blob
    (key_fits index inRange) encoded (by omega) present
  rw [next]
  refine ⟨passed, put_stands base rows held entries stands index source within blob encoded
    (by omega), ?_⟩
  show count (put entries (keyBytes index) _) + 0 = count entries + 0
  simp [LawfulEntryMap.count_put, present]

theorem delete_moves [LawfulEntryMap τ] :
    Moves base rows (.delete (sampleKey index)) index (some source) none 1 0 := by
  intro held entries stands holds
  have present := present_at base rows held entries stands index source within holds
  obtain ⟨passed, next⟩ := delete_passes .silent entries (sampleKey index) (key_fits index inRange)
    present
  rw [next]
  refine ⟨passed, erase_stands base rows held entries stands index within, ?_⟩
  have positive := LawfulEntryMap.count_pos entries (keyBytes index) present
  show count (erase entries (keyBytes index)) + 1 = count entries + 0
  rw [LawfulEntryMap.count_erase, if_pos present]
  omega

theorem missing_moves : Moves base rows (.missing (sampleKey index)) index none none 0 0 := by
  intro held entries stands free
  have absent := absent_at base rows held entries stands index within free
  obtain ⟨passed, next⟩ := missing_passes .silent entries (sampleKey index) (key_fits index inRange)
    absent
  rw [next, ← free, Function.update_eq_self]
  exact ⟨passed, stands, rfl⟩
end Moving

section Round
variable (step : Nat → Step) (old new : Nat → Option Nat) (gone come : Nat)
variable (moves : ∀ index < rows,
  Moves base rows (step index) index (old index) (new index) gone come)
variable (stands : Stands base rows old entries)
include moves stands

theorem round_begun (made : Nat) (within : made ≤ rows) :
    ∃ middle, Passes .silent ((List.range made).map step) entries middle ∧
      Stands base rows (fun index => if index < made then new index else old index) middle ∧
      count middle + made * gone = count entries + made * come := by
  apply round_turns step old new (fun made held middle => Stands base rows held middle ∧
    count middle + made * gone = count entries + made * come) made entries ⟨stands, by simp⟩
  rintro index below held store ⟨begun, counted⟩ holds
  obtain ⟨passed, next, moved⟩ := moves index (by omega) held store begun holds
  refine ⟨passed, next, ?_⟩
  rw [Nat.succ_mul, Nat.succ_mul]
  omega

theorem round_passes :
    ∃ last, Passes .silent ((List.range rows).map step) entries last ∧
      Stands base rows new last ∧ count last + rows * gone = count entries + rows * come := by
  obtain ⟨last, passes, begun, counted⟩ :=
    round_begun base rows entries step old new gone come moves stands rows (Nat.le_refl rows)
  refine ⟨last, passes, ⟨?_, begun.others⟩, counted⟩
  intro index within
  simpa [within] using begun.mine index within
end Round

theorem base_stands (free : ∀ index < rows, find? base (keyBytes index) = none) :
    Stands base rows (fun _ => none) base :=
  ⟨free, fun _ _ => rfl⟩

variable [LawfulEntryMap τ] (inRange : ∀ index < rows, InRange index)
include inRange

theorem insert_round (free : ∀ index < rows, find? base (keyBytes index) = none) :
    ∃ last, Passes .silent
        ((List.range rows).map fun index => Step.insert (sampleKey index) (sampleRow index))
        base last ∧
      Stands base rows some last ∧ count last = count base + rows := by
  obtain ⟨last, passes, stands, counted⟩ := round_passes base rows base _ _ some 0 1
    (fun index within => insert_moves base rows index index within (inRange index within)
      (inRange index within)) (base_stands base rows free)
  exact ⟨last, passes, stands, by simpa using counted⟩

theorem script_passes (free : ∀ index < rows, find? base (keyBytes index) = none) :
    ∃ last, Passes .silent (bulkScript rows) base last ∧
      (∀ key, find? last key = find? base key) ∧ count last = count base := by
  have shiftedInRange : ∀ index < rows, InRange (shifted rows index) :=
    fun index within => inRange _ (shifted_lt rows index within)
  obtain ⟨inserted, one, stands, firstCount⟩ := insert_round base rows inRange free
  obtain ⟨_, two, stands, secondCount⟩ := round_passes base rows inserted _ some some 0 0
    (fun index within => expect_moves base rows index index within (inRange index within)
      (inRange index within)) stands
  obtain ⟨_, three, stands, thirdCount⟩ := round_passes base rows _ _ some
    (fun index => some (shifted rows index)) 0 0
    (fun index within => update_moves base rows index _ within (inRange index within) index
      (shiftedInRange index within)) stands
  obtain ⟨_, four, stands, fourthCount⟩ := round_passes base rows _ _
    (fun index => some (shifted rows index)) (fun index => some (shifted rows index)) 0 0
    (fun index within => expect_moves base rows index _ within (inRange index within)
      (shiftedInRange index within)) stands
  obtain ⟨_, five, stands, fifthCount⟩ := round_passes base rows _ _
    (fun index => some (shifted rows index)) (fun _ => none) 1 0
    (fun index within => delete_moves base rows index _ within (inRange index within)) stands
  obtain ⟨last, six, stands, sixthCount⟩ := round_passes base rows _ _ (fun _ => none)
    (fun _ => none) 0 0
    (fun index within => missing_moves base rows index within (inRange index within)) stands
  refine ⟨last, ?_, ?_, by omega⟩
  · exact passes_append (passes_append (passes_append (passes_append (passes_append one two)
      three) four) five) six
  · intro key
    by_cases mine : ∃ index, index < rows ∧ key = keyBytes index
    · obtain ⟨index, within, rfl⟩ := mine
      rw [stands.mine index within, free index within]
    · exact stands.others key fun index within same => mine ⟨index, within, same⟩
end Rounds

theorem script_report (rows : Nat) :
    (bulkScript rows).foldl Report.count {} = ⟨6 * rows, rows⟩ := by
  have length : (bulkScript rows).length = 6 * rows := by
    simp [bulkScript]
    omega
  have failures : (bulkScript rows).countP failing = rows := by
    simp [bulkScript, List.countP_map, Function.comp_def, failing]
  rw [count_script, length, failures]
  simp

theorem script_split (rows index : Nat) (within : index < rows) :
    ∃ back, bulkScript rows =
      ((List.range index).map fun i => Step.insert (sampleKey i) (sampleRow i)) ++
        Step.insert (sampleKey index) (sampleRow index) :: back := by
  obtain ⟨back, split⟩ :=
    round_split (fun i => Step.insert (sampleKey i) (sampleRow i)) rows index within
  simp [bulkScript, split]

theorem script_stops {τ : Type} [EntryMap τ] [LawfulEntryMap τ] (base : τ) (rows taken : Nat)
    (inRange : ∀ index < rows, InRange index) (within : taken < rows)
    (present : (find? base (keyBytes taken)).isSome)
    (free : ∀ index < taken, find? base (keyBytes index) = none) :
    (play .silent (bulkScript rows) base).answer =
        .error (.failed ("insert " ++ sampleKey taken) (.device .keyAlreadyExists)) ∧
      Stands base taken some (play .silent (bulkScript rows) base).state ∧
      count (play .silent (bulkScript rows) base).state = count base + taken := by
  obtain ⟨back, split⟩ := script_split rows taken within
  obtain ⟨middle, passes, stands, counted⟩ := insert_round base taken
    (fun index below => inRange index (Nat.lt_trans below within)) free
  -- The rows inserted so far stand under other keys, so what was there is still there.
  have still : (find? middle (keyBytes taken)).isSome := by
    rw [stands.others (keyBytes taken)]
    · exact present
    · intro index below same
      exact Nat.ne_of_gt below ((keyBytes_inj taken index).mp same)
  obtain ⟨blob, encoded, _, short⟩ := row_blob taken (inRange taken within)
  obtain ⟨stopped, stays⟩ := insert_stops .silent middle (sampleKey taken) (sampleRow taken) blob
    (key_fits taken (inRange taken within)) encoded (by omega) still
  obtain ⟨answered, ended⟩ := play_stops _ back _ base middle _ passes stopped
  rw [split, ended, stays]
  exact ⟨answered, stands, counted⟩

/-- A bulk run over free keys passes and leaves the drive as it was. If a key is taken, the run stops
at the first one that is, and what it leaves behind are the rows inserted before. Rows are taken by
positions of the generated list, and there are rows wherever a position is computed. -/
theorem bulk_run_exact (drive : Drive) (rows : Nat) (inRange : ∀ index < rows, InRange index) :
    ((∀ index < rows, find? drive (Bytes.ofText (sampleKey index)) = none) →
      (playBulk drive rows).answer = .ok ⟨6 * rows, rows⟩ ∧
        (∀ key, find? (playBulk drive rows).state key = find? drive key) ∧
        count (playBulk drive rows).state = count drive) ∧
    (∀ taken < rows, (find? drive (Bytes.ofText (sampleKey taken))).isSome →
      (∀ index < taken, find? drive (Bytes.ofText (sampleKey index)) = none) →
      (playBulk drive rows).answer =
          .error (.failed ("insert " ++ sampleKey taken) (.device .keyAlreadyExists)) ∧
        (∀ index < taken, ∃ blob, (sampleRow index).encode = .ok blob ∧
          find? (playBulk drive rows).state (Bytes.ofText (sampleKey index)) =
            some ⟨blob, saturatedLength blob, 0⟩) ∧
        (∀ key, (∀ index < taken, key ≠ Bytes.ofText (sampleKey index)) →
          find? (playBulk drive rows).state key = find? drive key) ∧
        count (playBulk drive rows).state = count drive + taken) ∧
    (∀ index < rows, rows ≠ 0 ∧
      ((List.range rows).map sampleRow)[shifted rows index]? =
        some (sampleRow (shifted rows index))) := by
  obtain ⟨answered, left⟩ := playBulk_play drive rows
  rw [answered, left]
  refine ⟨?_, ?_, ?_⟩
  · intro free
    obtain ⟨last, passes, same, counted⟩ := script_passes drive rows inRange free
    obtain ⟨reported, ended⟩ := play_passes (bulkScript rows) drive last passes
    rw [reported, ended, script_report]
    exact ⟨rfl, same, counted⟩
  · intro taken within present free
    obtain ⟨stopped, stands, counted⟩ :=
      script_stops drive rows taken inRange within present free
    exact ⟨stopped, stands.mine, stands.others, counted⟩
  · intro index within
    have below := shifted_lt rows index within
    refine ⟨by omega, ?_⟩
    simp [below]

def leftover : Drive := put (Opening.sharded 4 UInt64.toNat).drive (keyBytes 2) ⟨[9], 1, 0⟩

theorem leftover_taken (index : Nat) :
    find? leftover (keyBytes index) = if 2 = index then some ⟨[9], 1, 0⟩ else none := by
  rw [leftover, LawfulEntryMap.find?_put, opening_empty]
  simp only [keyBytes_inj]

-- Two rows do not reach the byte under the third key, five do.
theorem bulk_run_exact_leftover :
    (∀ index < 5, InRange index) ∧ (find? leftover (keyBytes 2)).isSome ∧
      (∀ index < 2, find? leftover (keyBytes index) = none) ∧
      (playBulk leftover 5).answer =
        .error (.failed "insert key2" (.device .keyAlreadyExists)) ∧
      (playBulk leftover 2).answer = .ok ⟨12, 2⟩ ∧
      find? (playBulk leftover 2).state (keyBytes 2) = some ⟨[9], 1, 0⟩ := by
  have inRange : ∀ index < 5, InRange index := by decide
  have present : (find? leftover (keyBytes 2)).isSome := by rw [leftover_taken]; rfl
  have free : ∀ index < 2, find? leftover (keyBytes index) = none := by
    intro index below
    rw [leftover_taken, if_neg (Nat.ne_of_gt below)]
  obtain ⟨stopped, _⟩ := (bulk_run_exact leftover 5 inRange).2.1 2 (by decide) present free
  obtain ⟨passed, same, _⟩ := (bulk_run_exact leftover 2 (by decide)).1 free
  refine ⟨inRange, present, free, stopped, passed, ?_⟩
  rw [same, leftover_taken]
  rfl

end FlashStore.BulkRuns
