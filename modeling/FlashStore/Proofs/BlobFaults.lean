import FlashStore.Proofs.RowBlobs
import Mathlib.Algebra.GroupWithZero.Nat
import Mathlib.Order.Bounds.Defs

/-!
Blobs that are faulty, whole, cut short and joined.

Every blob splits into the longest front that spells a row and a rest that begins with no further
field; the decoder's verdict is decided by the rest alone and reported at the length of the front. A
fault in an early record therefore hides all later damage, and in one record a missing byte hides
bad text, in the name as in the value. The blobs that are accepted are those that the encoder
writes: an accepted blob is the complete records of its row and nothing else, and lengths and texts
leave no choice of the bytes of a record.

What a cut leaves of a record holds no record of its own: the lengths in front of it still promise
the bytes that are gone, and no text is looked at before all of its record is there. So the fields
whose records are whole are still read, and a cut inside a character is a cut like any other. A
decoder that has used up one blob goes on with the next as if it stood alone, except that it names
positions from the front of both; where the first blob is cut, what follows can only complete its
last record.
-/

namespace FlashStore.BlobFaults
open FieldRecords RowBlobs

/-- What stops the decoder at `offset`, where `rest` is left. -/
inductive Stops (offset : Nat) : Bytes → Option BlobError → Prop where
  | finished : Stops offset [] none
  | truncated {rest : Bytes} (left : rest ≠ []) (short : ¬ ∃ name value, Leads name value rest) :
      Stops offset rest (some (.truncated offset))
  | badName {name value rest : Bytes} (leads : Leads name value rest)
      (bad : Bytes.toText? name = none) : Stops offset rest (some (.notUtf8 .name offset))
  | badValue {name value rest : Bytes} (leads : Leads name value rest)
      (good : Bytes.toText? name ≠ none) (bad : Bytes.toText? value = none) :
      Stops offset rest (some (.notUtf8 .value offset))

def verdict (row : Row) : Option BlobError → Except BlobError Row
  | none => .ok row
  | some failure => .error failure

theorem field_stops (offset : Nat) (b : Bytes) (record : Record) (rest : Bytes)
    (found : Record.read? b = some (record, rest)) (failure : BlobError)
    (faulty : record.toField offset = .error failure) : Stops offset b (some failure) := by
  obtain ⟨first, complete, bytes⟩ := read_complete b rest record found
  have leads : Leads record.name record.value b := ⟨first, rest, complete, bytes⟩
  simp only [Record.toField] at faulty
  split at faulty
  · next bad =>
    cases faulty
    exact .badName leads bad
  · next name named =>
    split at faulty
    · next bad =>
      cases faulty
      exact .badValue leads (by simp [named]) bad
    · cases faulty

theorem field_named (record : Record) (offset : Nat) (field : Field)
    (sound : record.toField offset = .ok field) :
    Bytes.toText? record.name = some field.name ∧
      Bytes.toText? record.value = some field.value := by
  simp only [Record.toField] at sound
  split at sound
  · cases sound
  · next name named =>
    split at sound
    · cases sound
    · next value valued =>
      cases sound
      exact ⟨named, valued⟩

/-- The decoder spells the front of every blob and stops behind it. The induction is the decoder's
own: each turn moves one complete record from the rest to the front. -/
theorem decode_splits (offset : Nat) (decoded : List Field) (b : Bytes) :
    ∃ row front rest stop, b = front ++ rest ∧ Spells row front ∧
      Stops (offset + front.length) rest stop ∧
      Row.decodeFrom offset decoded b = verdict (decoded.reverse ++ row) stop := by
  induction offset, decoded, b using Row.decodeFrom.induct with
  | case1 offset decoded =>
      exact ⟨[], [], [], none, rfl, .nil, .finished, by simp [Row.decodeFrom, verdict]⟩
  | case2 offset decoded first more missing =>
      refine ⟨[], [], first :: more, some (.truncated offset), rfl, .nil, ?_, ?_⟩
      · exact .truncated (by simp) ((read_none_iff _).mp missing)
      · rw [decode_cut offset decoded first more missing]
        rfl
  | case3 offset decoded first more record rest found failure faulty =>
      refine ⟨[], [], first :: more, some failure, rfl, .nil, ?_, ?_⟩
      · exact field_stops offset _ record rest found failure faulty
      · rw [decode_record offset decoded _ rest record found, faulty]
        rfl
  | case4 offset decoded first more record rest found field sound ih =>
      obtain ⟨row, front, tail, stop, rfl, spelled, stops, decoded_tail⟩ := ih
      obtain ⟨head, complete, bytes⟩ := read_complete _ _ record found
      obtain ⟨named, valued⟩ := field_named record offset field sound
      have size := length_complete _ _ head complete
      refine ⟨field :: row, head ++ front, tail, stop, by simp [bytes],
        .cons complete named valued spelled, ?_, ?_⟩
      · rw [List.length_append, ← Nat.add_assoc, size]
        exact stops
      · rw [decode_record offset decoded _ _ record found, sound]
        simpa using decoded_tail

def faultOffset : BlobError → Nat
  | .truncated offset => offset
  | .notUtf8 _ offset => offset
  | .tooLarge _ _ => 0

theorem stops_located (offset : Nat) (rest : Bytes) (failure : BlobError)
    (stops : Stops offset rest (some failure)) : faultOffset failure = offset := by
  cases stops <;> rfl

def SpelledLengths (b : Bytes) : Set Nat := {n | n ≤ b.length ∧ ∃ row, Spells row (b.take n)}

/-- No spelled front is longer than the one the decoder stops behind: it would be taken first, and
every later fault lies at its end or behind it. -/
theorem decode_longest (b : Bytes) :
    ∃ row front rest stop, b = front ++ rest ∧ Stops front.length rest stop ∧
      Row.decode b = verdict row stop ∧ IsGreatest (SpelledLengths b) front.length := by
  obtain ⟨row, front, rest, stop, bytes, spelled, stops, decoded⟩ := decode_splits 0 [] b
  rw [Nat.zero_add] at stops
  refine ⟨row, front, rest, stop, bytes, stops, decoded, ?_, ?_⟩
  · exact ⟨by simp [bytes], row, by simpa [bytes] using spelled⟩
  · rintro n ⟨within, other, otherSpelled⟩
    have taken := decode_spelled other (b.take n) (b.drop n) otherSpelled 0 []
    rw [List.take_append_drop, Nat.zero_add, List.length_take, Nat.min_eq_left within] at taken
    obtain ⟨_, after, left, otherStop, _, _, otherStops, otherDecoded⟩ :=
      decode_splits n (other.reverse ++ []) (b.drop n)
    rw [← taken, decoded] at otherDecoded
    -- Both splits end in the one verdict of the decoder, so either both finish or both name one
    -- offset, which is the end of the first front and at or behind the end of the second.
    cases stop with
    | none =>
        cases stops
        simpa [bytes] using within
    | some failure =>
        cases otherStop with
        | none => cases otherDecoded
        | some otherFailure =>
            cases otherDecoded
            have here := stops_located _ _ _ stops
            have there := stops_located _ _ _ otherStops
            omega

section Verdicts
variable (offset : Nat) (rest : Bytes) (stop : Option BlobError)

theorem stop_none_iff (stops : Stops offset rest stop) : stop = none ↔ rest = [] := by
  cases stops with
  | finished => simp
  | truncated left _ => simpa using left
  | badName leads _ | badValue leads _ _ => simpa using leads_nonempty _ _ rest leads

theorem stop_truncated_iff (stops : Stops offset rest stop) :
    stop = some (.truncated offset) ↔ rest ≠ [] ∧ ¬ ∃ name value, Leads name value rest := by
  cases stops with
  | finished => simp
  | truncated left short => simp [left, short]
  | badName leads _ | badValue leads _ _ =>
      simp only [Option.some.injEq, reduceCtorEq, false_iff]
      exact fun ⟨_, short⟩ => short ⟨_, _, leads⟩

theorem stop_name_iff (stops : Stops offset rest stop) :
    stop = some (.notUtf8 .name offset) ↔
      ∃ name value, Leads name value rest ∧ Bytes.toText? name = none := by
  cases stops with
  | finished =>
      simp only [reduceCtorEq, false_iff]
      exact fun ⟨name, value, leads, _⟩ => leads_nonempty name value [] leads rfl
  | truncated left short =>
      simp only [Option.some.injEq, reduceCtorEq, false_iff]
      exact fun ⟨name, value, leads, _⟩ => short ⟨name, value, leads⟩
  | badName leads bad => exact ⟨fun _ => ⟨_, _, leads, bad⟩, fun _ => rfl⟩
  | badValue leads good _ =>
      simp only [Option.some.injEq, BlobError.notUtf8.injEq, reduceCtorEq, false_and, false_iff]
      rintro ⟨name, value, others, bad⟩
      exact good ((leads_unique _ _ _ _ _ others leads).1 ▸ bad)

theorem stop_value_iff (stops : Stops offset rest stop) :
    stop = some (.notUtf8 .value offset) ↔
      ∃ name value, Leads name value rest ∧ Bytes.toText? name ≠ none := by
  cases stops with
  | finished =>
      simp only [reduceCtorEq, false_iff]
      exact fun ⟨name, value, leads, _⟩ => leads_nonempty name value [] leads rfl
  | truncated left short =>
      simp only [Option.some.injEq, reduceCtorEq, false_iff]
      exact fun ⟨name, value, leads, _⟩ => short ⟨name, value, leads⟩
  | badName leads bad =>
      simp only [Option.some.injEq, BlobError.notUtf8.injEq, reduceCtorEq, false_and, false_iff]
      rintro ⟨name, value, others, good⟩
      exact good ((leads_unique _ _ _ _ _ leads others).1 ▸ bad)
  | badValue leads good _ => exact ⟨fun _ => ⟨_, _, leads, good⟩, fun _ => rfl⟩
end Verdicts

/-- The classification of a blob's fault. `o` is the length of the longest front that spells a row;
the three outcomes exclude each other and leave no other. -/
theorem decode_fault_exact (b : Bytes) :
    ∃ o, IsGreatest {n | n ≤ b.length ∧ ∃ row, Spells row (b.take n)} o ∧
      ((∃ failure, Row.decode b = .error failure) ↔ o < b.length) ∧
      (Row.decode b = .error (.truncated o) ↔
        o < b.length ∧ ¬ ∃ name value, Leads name value (b.drop o)) ∧
      (Row.decode b = .error (.notUtf8 .name o) ↔
        ∃ name value, Leads name value (b.drop o) ∧ Bytes.toText? name = none) ∧
      (Row.decode b = .error (.notUtf8 .value o) ↔
        ∃ name value, Leads name value (b.drop o) ∧ Bytes.toText? name ≠ none) := by
  obtain ⟨row, front, rest, stop, rfl, stops, decoded, longest⟩ := decode_longest b
  have left : front.length < (front ++ rest).length ↔ rest ≠ [] := by
    rw [List.length_append, Nat.lt_add_right_iff_pos, List.length_pos_iff]
  have answered (failure : BlobError) :
      Row.decode (front ++ rest) = .error failure ↔ stop = some failure := by
    rw [decoded]
    cases stop <;> simp [verdict]
  refine ⟨front.length, longest, ?_, ?_, ?_, ?_⟩
  · rw [left, ne_eq, ← stop_none_iff _ rest stop stops, ← ne_eq, Option.ne_none_iff_exists']
    exact exists_congr answered
  · rw [answered, left, List.drop_left]
    exact stop_truncated_iff _ rest stop stops
  · rw [answered, List.drop_left]
    exact stop_name_iff _ rest stop stops
  · rw [answered, List.drop_left]
    exact stop_value_iff _ rest stop stops

-- A bad name hides the stray byte behind its record; a value cut short hides the bad name before it.
example : Row.decode [1, 0, 0, 0, 0xff, 0, 0, 0, 0, 7] = .error (.notUtf8 .name 0) := by cbv
example : Row.decode [1, 0, 0, 0, 0xff, 9, 0, 0, 0, 7] = .error (.truncated 0) := by cbv

end FlashStore.BlobFaults

/-! Whole blobs -/

namespace FlashStore.BlobImage
open BlobFaults FieldRecords RowBlobs

theorem size_unique (one other : Bytes) (oneFour : one.length = 4) (otherFour : other.length = 4)
    (same : Bytes.toNat one = Bytes.toNat other) : one = other := by
  rw [← Bytes.ofNat_toNat one, ← Bytes.ofNat_toNat other, oneFour, otherFour, same]

theorem complete_unique (name value b c : Bytes) (one : Complete name value b)
    (other : Complete name value c) : b = c := by
  obtain ⟨nameSize, valueSize, nameFour, valueFour, nameCounts, valueCounts, rfl⟩ := one
  obtain ⟨otherName, otherValue, otherNameFour, otherValueFour, otherNameCounts, otherValueCounts,
    rfl⟩ := other
  have names : nameSize = otherName :=
    size_unique _ _ nameFour otherNameFour (nameCounts.trans otherNameCounts.symm)
  have values : valueSize = otherValue :=
    size_unique _ _ valueFour otherValueFour (valueCounts.trans otherValueCounts.symm)
  rw [names, values]

theorem spelled_unique (row : Row) (b c : Bytes) (one : Spells row b) (other : Spells row c) :
    b = c := by
  induction one generalizing c with
  | nil =>
      cases other
      rfl
  | cons complete named valued _ ih =>
      cases other with
      | cons otherComplete otherNamed otherValued otherTail =>
          -- Both first records are records of the same field's texts; no cut of the bytes is compared.
          rw [Bytes.eq_ofText_of_toText? named, Bytes.eq_ofText_of_toText? valued] at complete
          rw [Bytes.eq_ofText_of_toText? otherNamed, Bytes.eq_ofText_of_toText? otherValued]
            at otherComplete
          rw [complete_unique _ _ _ _ complete otherComplete, ih _ otherTail]

theorem counted_small (size : Bytes) (n : Nat) (four : size.length = 4)
    (counts : Bytes.toNat size = n) : n < UInt32.size := by
  have below := Bytes.toNat_lt size
  rw [four, counts] at below
  exact below

theorem spelled_fits (row : Row) (b : Bytes) (spelled : Spells row b) : Fits row := by
  induction spelled with
  | nil =>
      intro field member
      cases member
  | cons complete named valued _ ih =>
      obtain ⟨nameSize, valueSize, nameFour, valueFour, nameCounts, valueCounts, rfl⟩ := complete
      rw [Bytes.eq_ofText_of_toText? named, Bytes.length_ofText] at nameCounts
      rw [Bytes.eq_ofText_of_toText? valued, Bytes.length_ofText] at valueCounts
      intro field member
      rcases List.mem_cons.mp member with rfl | later
      · exact ⟨counted_small _ _ nameFour nameCounts, counted_small _ _ valueFour valueCounts⟩
      · exact ih field later

theorem spelled_encodes (row : Row) (b : Bytes) (spelled : Spells row b) :
    Row.encode row = .ok b := by
  obtain ⟨blob, encoded, written⟩ := encode_spells row (spelled_fits row b spelled)
  rw [spelled_unique row b blob spelled written]
  exact encoded

theorem part_counted (part : FieldPart) (s : String) (length : UInt32)
    (counted : Record.partLength part (Bytes.ofText s) = .ok length) :
    s.utf8ByteSize < UInt32.size := by
  simp only [Record.partLength, Bytes.length_ofText] at counted
  split at counted
  · assumption
  · cases counted

theorem written_fits (field : Field) (record : Record) (written : Record.ofField field = .ok record) :
    FieldFits field := by
  simp only [Record.ofField] at written
  split at written
  · cases written
  · next nameCounted =>
    split at written
    · cases written
    · next valueCounted =>
      exact ⟨part_counted _ _ _ nameCounted, part_counted _ _ _ valueCounted⟩

theorem encoded_fits (row : Row) (b : Bytes) (encoded : Row.encode row = .ok b) : Fits row := by
  induction row generalizing b with
  | nil =>
      intro field member
      cases member
  | cons field row ih =>
      cases written : Record.ofField field with
      | error failure =>
          simp [Row.encode, List.mapM_cons, written, bind, Except.bind, Except.map] at encoded
      | ok record =>
          rw [encode_cons field row record written] at encoded
          cases rest : Row.encode row with
          | error failure =>
              rw [rest] at encoded
              cases encoded
          | ok tail =>
              intro other member
              rcases List.mem_cons.mp member with rfl | later
              · exact written_fits _ record written
              · exact ih tail rest other later

theorem encoded_spelled (row : Row) (b : Bytes) (encoded : Row.encode row = .ok b) :
    Spells row b := by
  obtain ⟨blob, same, spelled⟩ := encode_spells row (encoded_fits row b encoded)
  cases encoded.symm.trans same
  exact spelled

theorem decoded_spelled (b : Bytes) (row : Row) (decoded : Row.decode b = .ok row) :
    Spells row b := by
  obtain ⟨found, front, rest, stop, rfl, spelled, stops, verdicts⟩ := decode_splits 0 [] b
  -- The verdict names the stop: without one, nothing is left behind the records read.
  rw [← Row.decode, decoded] at verdicts
  cases stop with
  | some failure => cases verdicts
  | none =>
      cases verdicts
      rw [(stop_none_iff _ rest none stops).mp rfl, List.append_nil]
      exact spelled

/-- The decoder accepts exactly the encoder's image. What it accepts is used up by the records of
the row to the last byte, and no other blob gives the same row. -/
theorem decodes_iff_encodes (b : Bytes) (row : Row) :
    Row.decode b = .ok row ↔
      Row.encode row = .ok b ∧ Spells row b ∧ ∀ other, Row.decode other = .ok row → other = b := by
  constructor
  · intro decoded
    have spelled := decoded_spelled b row decoded
    refine ⟨spelled_encodes row b spelled, spelled, ?_⟩
    intro other otherDecoded
    exact spelled_unique row other b (decoded_spelled other row otherDecoded) spelled
  · rintro ⟨encoded, _, _⟩
    exact spelled_decodes row b (encoded_spelled row b encoded)

end FlashStore.BlobImage

/-! Cut blobs -/

namespace FlashStore.BlobCuts
open BlobFaults BlobImage FieldRecords RowBlobs

theorem cut_bare (name value record : Bytes) (keep : Nat) (complete : Complete name value record)
    (short : keep < record.length) :
    ¬ ∃ other found, Leads other found (record.take keep) := by
  rintro ⟨other, found, first, rest, otherComplete, cut⟩
  have whole : record = first ++ (rest ++ record.drop keep) := by
    rw [← List.append_assoc, ← cut, List.take_append_drop]
  -- The record inside would lead the uncut one too, so it is that one, and too long for the cut.
  have inside : Leads other found record := ⟨first, rest ++ record.drop keep, otherComplete, whole⟩
  have itself : Leads name value record := ⟨record, [], complete, (List.append_nil record).symm⟩
  obtain ⟨rfl, rfl⟩ := leads_unique record other found name value inside itself
  have long := length_complete other found record complete
  have alike := length_complete other found first otherComplete
  have left := congrArg List.length cut
  rw [List.length_take, List.length_append] at left
  omega

/-- Where a cut falls in the bytes of a row. The first `kept` fields have their records before it,
and no more of them would fit; `rest` is what is left of the next record. -/
structure Cut (row : Row) (b : Bytes) (kept : Nat) (front rest : Bytes) : Prop where
  within : kept ≤ row.length
  spelled : Spells (row.take kept) front
  bytes : b = front ++ rest
  bare : ¬ ∃ name value, Leads name value rest
  most : ∀ n ≤ row.length, spelledSize (row.take n) ≤ b.length → n ≤ kept

/-- Every cut falls somewhere. The induction is on the records: the cut is in the first one, or it is
a cut of the others. -/
theorem cut_falls (row : Row) (b : Bytes) (spelled : Spells row b) (keep : Nat)
    (within : keep ≤ b.length) :
    ∃ kept front rest, Cut row (b.take keep) kept front rest := by
  induction spelled generalizing keep with
  | nil =>
      refine ⟨0, [], [], ?_⟩
      constructor
      · exact Nat.le_refl 0
      · exact .nil
      · exact List.take_nil
      · rintro ⟨name, value, leads⟩
        exact leads_nonempty name value [] leads rfl
      · intro n short _
        exact short
  | @cons field row name value first tail complete named valued _ ih =>
      have size := length_spelled [field] (first ++ []) (.cons complete named valued .nil)
      rw [List.append_nil] at size
      rcases Nat.lt_or_ge keep first.length with inside | behind
      · have cut : (first ++ tail).take keep = first.take keep :=
          List.take_append_of_le_length (Nat.le_of_lt inside)
        refine ⟨0, [], first.take keep, ?_⟩
        constructor
        · exact Nat.zero_le _
        · exact .nil
        · exact cut
        · exact cut_bare name value first keep complete inside
        · intro n _ fits
          cases n with
          | zero => exact Nat.le_refl 0
          | succ n =>
              rw [cut, List.length_take, List.take_succ_cons] at fits
              simp only [spelledSize] at fits size
              omega
      · have left : keep - first.length ≤ tail.length := by
          rw [List.length_append] at within
          omega
        obtain ⟨kept, front, rest, found⟩ := ih (keep - first.length) left
        have cut : (first ++ tail).take keep = first ++ tail.take (keep - first.length) := by
          rw [List.take_append, List.take_of_length_le behind]
        refine ⟨kept + 1, first ++ front, rest, ?_⟩
        constructor
        · exact Nat.succ_le_succ found.within
        · exact .cons complete named valued found.spelled
        · rw [cut, found.bytes, List.append_assoc]
        · exact found.bare
        · intro n short fits
          cases n with
          | zero => exact Nat.zero_le _
          | succ n =>
              apply Nat.succ_le_succ
              apply found.most n (Nat.le_of_succ_le_succ short)
              rw [cut, List.length_append, List.take_succ_cons] at fits
              simp only [spelledSize] at fits size
              omega

section Falling
variable (row : Row) (b : Bytes) (kept : Nat) (front rest : Bytes) (cut : Cut row b kept front rest)
include cut

theorem cut_decodes :
    Row.decode b =
      if front.length = b.length then .ok (row.take kept) else .error (.truncated front.length) := by
  have taken := decode_spelled (row.take kept) front rest cut.spelled 0 []
  rw [Row.decode, cut.bytes, taken, Nat.zero_add, List.append_nil]
  cases bytes : rest with
  | nil => simp [Row.decodeFrom]
  | cons first more =>
      have missing : Record.read? (first :: more) = none := by
        rw [read_none_iff, ← bytes]
        exact cut.bare
      rw [decode_cut front.length _ first more missing, if_neg (by simp)]

theorem cut_greatest :
    IsGreatest {n | n ≤ row.length ∧ ∃ blob, Row.encode (row.take n) = .ok blob ∧
      blob.length ≤ b.length} kept := by
  constructor
  · refine ⟨cut.within, front, spelled_encodes _ front cut.spelled, ?_⟩
    rw [cut.bytes, List.length_append]
    exact Nat.le_add_right _ _
  · rintro n ⟨within, blob, encoded, short⟩
    apply cut.most n within
    rw [← length_spelled _ blob (encoded_spelled _ blob encoded)]
    exact short
end Falling

/-- The law of truncation. Of the first `keep` bytes of a row's blob the decoder makes the most fields
whose records fit into them: it answers with these if they use the bytes up, and else names the end of
the last one. It never blames a text, and what it answers is the beginning of the row. -/
theorem cut_blob_exact (row : Row) (fits : Fits row) :
    ∃ blob, Row.encode row = .ok blob ∧ ∀ keep ≤ blob.length, ∃ kept front,
      IsGreatest {n | n ≤ row.length ∧ ∃ b, Row.encode (row.take n) = .ok b ∧ b.length ≤ keep}
        kept ∧
      Row.encode (row.take kept) = .ok front ∧
      (Row.decode (blob.take keep) =
        if front.length = keep then .ok (row.take kept) else .error (.truncated front.length)) ∧
      (∀ part offset, Row.decode (blob.take keep) ≠ .error (.notUtf8 part offset)) ∧
      ∀ found, Row.decode (blob.take keep) = .ok found → found <+: row := by
  obtain ⟨blob, encoded, spelled⟩ := encode_spells row fits
  refine ⟨blob, encoded, ?_⟩
  intro keep within
  obtain ⟨kept, front, rest, cut⟩ := cut_falls row blob spelled keep within
  have left : (blob.take keep).length = keep := by
    rw [List.length_take, Nat.min_eq_left within]
  have greatest := cut_greatest row _ kept front rest cut
  have decoded := cut_decodes row _ kept front rest cut
  rw [left] at greatest decoded
  refine ⟨kept, front, greatest, spelled_encodes _ front cut.spelled, decoded, ?_, ?_⟩
  · intro part offset blamed
    rw [decoded] at blamed
    split at blamed <;> cases blamed
  · intro found answered
    rw [decoded] at answered
    split at answered
    · cases answered
      exact List.take_prefix kept row
    · cases answered

def accented : Row := [⟨"", ""⟩, ⟨"\u00e9", "w"⟩]

def accentedBlob : Bytes := [0, 0, 0, 0, 0, 0, 0, 0, 2, 0, 0, 0, 0xc3, 0xa9, 1, 0, 0, 0, 0x77]

-- The cut falls inside the character.
theorem cut_blob_exact_accented :
    Fits accented ∧ Row.encode accented = .ok accentedBlob ∧ 13 ≤ accentedBlob.length ∧
      Row.decode (accentedBlob.take 13) = .error (.truncated 8) := by
  have fits : Fits accented := by decide
  have whole : Row.encode accented = .ok accentedBlob := rfl
  have first : Row.encode (accented.take 1) = .ok [0, 0, 0, 0, 0, 0, 0, 0] := rfl
  obtain ⟨blob, encoded, cuts⟩ := cut_blob_exact accented fits
  cases whole.symm.trans encoded
  have within : 13 ≤ accentedBlob.length := by decide
  obtain ⟨kept, front, ⟨⟨few, b, spelled, short⟩, most⟩, kept_encoded, decoded, _⟩ := cuts 13 within
  have one : 1 ≤ kept := most ⟨by decide, _, first, by decide⟩
  have two : kept ≠ 2 := by
    rintro rfl
    cases whole.symm.trans spelled
    exact absurd short (by decide)
  obtain rfl : kept = 1 := by
    have fields : accented.length = 2 := rfl
    omega
  cases first.symm.trans kept_encoded
  exact ⟨fits, whole, within, decoded⟩

end FlashStore.BlobCuts

/-! Joined blobs -/

namespace FlashStore.BlobJoins
open BlobFaults BlobImage FieldRecords RowBlobs

def later (n : Nat) : BlobError → BlobError
  | .truncated offset => .truncated (offset + n)
  | .notUtf8 part offset => .notUtf8 part (offset + n)
  | .tooLarge part length => .tooLarge part length

theorem field_later (record : Record) (offset n : Nat) :
    record.toField (offset + n) = (record.toField offset).mapError (later n) := by
  simp only [Record.toField]
  split
  · rfl
  · split <;> rfl

/-- A decoder behind other fields and further on finds the same fields and the same error. The
induction is the decoder's own; its offset and its fields vary together. -/
theorem decode_later (earlier decoded : List Field) (offset n : Nat) (b : Bytes) :
    Row.decodeFrom (offset + n) (decoded ++ earlier) b =
      match Row.decodeFrom offset decoded b with
      | .ok row => .ok (earlier.reverse ++ row)
      | .error failure => .error (later n failure) := by
  induction offset, decoded, b using Row.decodeFrom.induct with
  | case1 offset decoded => simp [Row.decodeFrom]
  | case2 offset decoded first more missing =>
      rw [decode_cut _ _ first more missing, decode_cut _ _ first more missing]
      rfl
  | case3 offset decoded first more record rest found failure faulty =>
      rw [decode_record _ _ _ rest record found, decode_record _ _ _ rest record found,
        field_later, faulty]
      rfl
  | case4 offset decoded first more record rest found field sound ih =>
      rw [decode_record _ _ _ rest record found, decode_record _ _ _ rest record found,
        field_later, sound]
      rw [Nat.add_right_comm] at ih
      exact ih

theorem spelled_joins (row : Row) (front b : Bytes) (spelled : Spells row front) :
    Row.decode (front ++ b) =
      match Row.decode b with
      | .ok more => .ok (row ++ more)
      | .error failure => .error (later front.length failure) := by
  have taken := decode_spelled row front b spelled 0 []
  have moved := decode_later row.reverse [] 0 front.length b
  rw [List.reverse_reverse] at moved
  rw [Row.decode, taken, List.append_nil]
  exact moved

theorem refused_stays (offset : Nat) (rest more : Bytes) (part : FieldPart) (named : Nat)
    (stops : Stops offset rest (some (.notUtf8 part named))) (decoded : List Field) :
    Row.decodeFrom offset decoded (rest ++ more) = .error (.notUtf8 part named) := by
  cases stops with
  | badName leads bad =>
      obtain ⟨first, behind, complete, rfl⟩ := leads
      have found := complete_read _ _ first (behind ++ more) complete
      rw [List.append_assoc, decode_record offset decoded _ _ _ found]
      simp [Record.toField, bad]
  | badValue leads good bad =>
      obtain ⟨first, behind, complete, rfl⟩ := leads
      obtain ⟨name, named⟩ := Option.ne_none_iff_exists'.mp good
      have found := complete_read _ _ first (behind ++ more) complete
      rw [List.append_assoc, decode_record offset decoded _ _ _ found]
      simp [Record.toField, named, bad]

section Faulty
variable (a : Bytes) (failure : BlobError) (faulty : Row.decode a = .error failure)
include faulty

theorem faulty_splits :
    ∃ row front rest, a = front ++ rest ∧ Spells row front ∧
      Stops front.length rest (some failure) := by
  obtain ⟨row, front, rest, stop, bytes, spelled, stops, answered⟩ := decode_splits 0 [] a
  rw [← Row.decode, faulty] at answered
  rw [Nat.zero_add] at stops
  cases stop with
  | none => cases answered
  | some named =>
      cases answered
      exact ⟨row, front, rest, bytes, spelled, stops⟩
end Faulty

theorem refused_joins (a b : Bytes) (part : FieldPart) (offset : Nat)
    (refused : Row.decode a = .error (.notUtf8 part offset)) :
    Row.decode (a ++ b) = .error (.notUtf8 part offset) := by
  obtain ⟨row, front, rest, rfl, spelled, stops⟩ := faulty_splits a _ refused
  have taken := decode_spelled row front (rest ++ b) spelled 0 []
  rw [List.append_assoc, Row.decode, taken, Nat.zero_add]
  exact refused_stays front.length rest b part offset stops _

/-- Nothing that follows undoes the fields in front of a cut, and no later fault lies before it. -/
theorem truncated_joins (a b : Bytes) (offset : Nat)
    (truncated : Row.decode a = .error (.truncated offset)) :
    ∃ row, Row.decode (a.take offset) = .ok row ∧
      (∀ found, Row.decode (a ++ b) = .ok found → row <+: found) ∧
      ∀ failure, Row.decode (a ++ b) = .error failure → offset ≤ faultOffset failure := by
  obtain ⟨row, front, rest, rfl, spelled, stops⟩ := faulty_splits a _ truncated
  obtain rfl : offset = front.length := stops_located _ _ _ stops
  have taken := decode_spelled row front (rest ++ b) spelled 0 []
  obtain ⟨more, between, behind, stop, bytes, _, ends, answered⟩ :=
    decode_splits front.length (row.reverse ++ []) (rest ++ b)
  have joined : Row.decode (front ++ rest ++ b) = verdict (row ++ more) stop := by
    rw [List.append_assoc, Row.decode, taken, Nat.zero_add, answered]
    simp
  refine ⟨row, ?_, ?_, ?_⟩
  · rw [List.take_left]
    exact spelled_decodes row front spelled
  · intro found sound
    rw [joined] at sound
    cases stop with
    | none =>
        cases sound
        exact List.prefix_append row more
    | some named => cases sound
  · intro failure faulty
    rw [joined] at faulty
    cases stop with
    | none => cases faulty
    | some named =>
        cases faulty
        rw [stops_located _ _ _ ends]
        exact Nat.le_add_right _ _

theorem spells_append (row more : Row) (front rest : Bytes) (spelled : Spells row front)
    (spelledMore : Spells more rest) : Spells (row ++ more) (front ++ rest) := by
  induction spelled with
  | nil => exact spelledMore
  | cons complete named valued _ ih =>
      rw [List.append_assoc]
      exact .cons complete named valued ih

theorem length_encoded (row : Row) (blob : Bytes) (encoded : Row.encode row = .ok blob) :
    ∃ records, row.mapM Record.ofField = .ok records ∧
      blob.length = (records.map Record.size).sum := by
  simp only [Row.encode] at encoded
  cases written : row.mapM Record.ofField with
  | error failure =>
      rw [written] at encoded
      cases encoded
  | ok records =>
      rw [written] at encoded
      cases encoded
      refine ⟨records, rfl, ?_⟩
      simp only [List.length_flatMap, Record.length_write]

/-- The law of concatenation, for decoding and for encoding. -/
theorem joined_blobs (a b : Bytes) :
    (∀ row, Row.decode a = .ok row →
      (∀ more, Row.decode b = .ok more → Row.decode (a ++ b) = .ok (row ++ more)) ∧
      ∀ failure, Row.decode b = .error failure →
        Row.decode (a ++ b) = .error (later a.length failure)) ∧
    (∀ part offset, Row.decode a = .error (.notUtf8 part offset) →
      Row.decode (a ++ b) = .error (.notUtf8 part offset)) ∧
    (∀ offset, Row.decode a = .error (.truncated offset) →
      ∃ row, Row.decode (a.take offset) = .ok row ∧
        (∀ found, Row.decode (a ++ b) = .ok found → row <+: found) ∧
        ∀ failure, Row.decode (a ++ b) = .error failure → offset ≤ faultOffset failure) ∧
    (∀ row more, Row.encode row = .ok a → Row.encode more = .ok b →
      Row.encode (row ++ more) = .ok (a ++ b)) ∧
    ∀ row, Row.encode row = .ok a →
      ∃ records, row.mapM Record.ofField = .ok records ∧
        a.length = (records.map Record.size).sum := by
  refine ⟨?_, refused_joins a b, truncated_joins a b, ?_, fun row => length_encoded row a⟩
  · intro row sound
    have joined := spelled_joins row a b (decoded_spelled a row sound)
    constructor
    · intro more soundMore
      rw [joined, soundMore]
    · intro failure faulty
      rw [joined, faulty]
  · intro row more encoded encodedMore
    apply spelled_encodes
    exact spells_append row more a b (encoded_spelled row a encoded)
      (encoded_spelled more b encodedMore)

def bareBlob : Bytes := [0, 0, 0, 0, 0, 0, 0, 0]

-- Half of a length is a cut at its own start, and behind another blob at that blob's end; there the
-- rest of the record may follow.
theorem joined_blobs_halved :
    Row.decode bareBlob = .ok [⟨"", ""⟩] ∧ Row.decode [1, 0] = .error (.truncated 0) ∧
      Row.decode (bareBlob ++ [1, 0]) = .error (.truncated 8) ∧
      ∀ found, Row.decode (bareBlob ++ [1, 0] ++ [0, 0, 0x61, 0, 0, 0, 0]) = .ok found →
        [⟨"", ""⟩] <+: found := by
  have written : Row.encode [⟨"", ""⟩] = .ok bareBlob := rfl
  have whole := spelled_decodes _ bareBlob (encoded_spelled _ bareBlob written)
  have half : Row.decode [1, 0] = .error (.truncated 0) := by cbv
  obtain ⟨first, _⟩ := joined_blobs bareBlob [1, 0]
  have cut : Row.decode (bareBlob ++ [1, 0]) = .error (.truncated 8) :=
    (first _ whole).2 _ half
  obtain ⟨_, _, resumed, _⟩ := joined_blobs (bareBlob ++ [1, 0]) [0, 0, 0x61, 0, 0, 0, 0]
  obtain ⟨row, kept, begins, _⟩ := resumed 8 cut
  cases whole.symm.trans kept
  exact ⟨whole, half, cut, begins⟩

end FlashStore.BlobJoins
