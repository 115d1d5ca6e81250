import FlashStore.Proofs.JsonNumbers
import Mathlib.Data.List.DropRight

/-!
Skipping values, and reading strings and natural numbers.

Whatever the grammar takes for a value is skipped to its last character and no further, however deep
lists and objects are nested in it. The machine that does this keeps a stack of what is open, and
with a value of the grammar it comes back to the stack that it began with.

What a reader takes is said as a relation between a value of the grammar and what it means, and a
reader is exact if it answers with that and stops behind the value. It is said of every value, so of
a value that means nothing to it an exact reader makes nothing.
-/

namespace FlashStore.JsonSkips
open Json JsonGrammar JsonNumbers JsonStrings

-- White space.

theorem blank_kinds (c : Char) : Json.isBlank c = true ↔ c ∈ [' ', '\t', '\n', '\r'] := by
  simp only [Json.isBlank, Bool.or_eq_true, beq_iff_eq, List.mem_cons, List.not_mem_nil, or_false]
  tauto

theorem blank_nil : Blank [] := by
  simp [Blank]

theorem blank_skipped (blank cs : List Char) (nothing : Blank blank) :
    skipBlank (blank ++ cs) = skipBlank cs :=
  List.dropWhile_append_of_pos fun c member => (blank_kinds c).mpr (nothing c member)

theorem found_behind (blank cs : List Char) (c : Char) (nothing : Blank blank)
    (solid : Json.isBlank c = false) : skipBlank (blank ++ c :: cs) = c :: cs := by
  rw [blank_skipped _ _ nothing]
  exact List.dropWhile_cons_of_neg (by simp [solid])

theorem found_here (cs : List Char) (c : Char) (solid : Json.isBlank c = false) :
    skipBlank (c :: cs) = c :: cs := found_behind [] cs c blank_nil solid

theorem skipBlank_twice (cs : List Char) : skipBlank (skipBlank cs) = skipBlank cs :=
  List.dropWhile_idempotent Json.isBlank cs

theorem ends_behind (blank cs : List Char) (c : Char) (nothing : Blank blank)
    (mark : c ∈ [',', ']', '}']) : Ends (blank ++ c :: cs) := by
  have others : ∀ d ∈ [' ', '\t', '\n', '\r'] ++ [',', ']', '}'],
      d.isDigit = false ∧ d ≠ '.' ∧ d ≠ 'e' ∧ d ≠ 'E' := by simp
  intro d first
  apply others d
  cases blank with
  | nil =>
      cases first
      exact List.mem_append_right _ mark
  | cons b blank =>
      cases first
      exact List.mem_append_left _ (nothing d List.mem_cons_self)

/-- The character is neither white space nor a closing bracket. -/
def Opens (c : Char) : Prop := Json.isBlank c = false ∧ c ≠ ']' ∧ c ≠ '}'

instance : DecidablePred Opens := fun c => inferInstanceAs (Decidable (Json.isBlank c = false ∧ _))

theorem digit_opens (c : Char) (digit : c.isDigit = true) : Opens c := by
  refine ⟨?_, digit_ne c ']' digit rfl, digit_ne c '}' digit rfl⟩
  rw [← Bool.not_eq_true, blank_kinds]
  simp only [List.mem_cons, List.not_mem_nil, or_false]
  rintro (rfl | rfl | rfl | rfl) <;> cases digit

theorem value_opens (v : List Char) (value : Value v) : ∃ c s, v = c :: s ∧ Opens c := by
  cases value with
  | null | yes | no | text | list | object => exact ⟨_, _, rfl, by decide⟩
  | number number =>
      obtain ⟨c, tail, same, digit | rfl⟩ := number_first v number
      · exact ⟨c, tail, same, digit_opens c digit⟩
      · exact ⟨'-', tail, same, by decide⟩

theorem elements_open (values : List (List Char)) (s rest : List Char) (elements : Elements values s)
    (others : values ≠ []) : ∃ c behind, skipBlank (s ++ rest) = c :: behind ∧ Opens c := by
  cases elements with
  | none => exact absurd rfl others
  | one front element =>
      obtain ⟨c, tail, rfl, opens⟩ := value_opens _ element
      exact ⟨c, _, by simp [found_behind _ _ c front opens.1]; rfl, opens⟩
  | more front element =>
      obtain ⟨c, tail, rfl, opens⟩ := value_opens _ element
      exact ⟨c, _, by simp [found_behind _ _ c front opens.1]; rfl, opens⟩

theorem members_open (members : List Member) (s rest : List Char) (inside : Members members s)
    (others : members ≠ []) : ∃ c behind, skipBlank (s ++ rest) = c :: behind ∧ Opens c := by
  have quote : Opens '"' := by decide
  cases inside with
  | none => exact absurd rfl others
  | one key =>
      obtain ⟨front, _⟩ := key
      exact ⟨'"', _, by simp [found_behind _ _ '"' front quote.1]; rfl, quote⟩
  | more key =>
      obtain ⟨front, _⟩ := key
      exact ⟨'"', _, by simp [found_behind _ _ '"' front quote.1]; rfl, quote⟩

-- The machine.

section Machine
variable (opened : List Frame)

/-- One turn at a value, where its matches carry no proofs. -/
theorem value_turn (cs : List Char) :
    skipFrom .value opened cs =
      match skipBlank cs with
      | [] => .error .ended
      | '[' :: rest => skipFrom (.inside false) (.list :: opened) rest
      | '{' :: rest => skipFrom (.inside false) (.object :: opened) rest
      | c :: rest =>
        match skipScalar c rest with
        | .error failure => .error failure
        | .ok rest => skipFrom (.inside true) opened rest := by
  rw [skipFrom]
  split
  · next none => rw [none]
  · next rest list => simp only [list]
  · next rest object => simp only [object]
  · next c rest list object scalar =>
    rw [scalar]
    split <;> next skip => simp [skip]

/-- What the machine does at the place of an item. -/
def enter (frame : Frame) (cs : List Char) : Except ReadError (List Char) :=
  match skipToItem frame cs with
  | .error failure => .error failure
  | .ok rest => skipFrom .value (frame :: opened) rest

theorem inside_turn (afterItem : Bool) (frame : Frame) (cs : List Char) :
    skipFrom (.inside afterItem) (frame :: opened) cs =
      match skipBlank cs with
      | [] => .error .ended
      | c :: rest =>
        if (c = ']' ∧ frame = .list) ∨ (c = '}' ∧ frame = .object) then
          skipFrom (.inside true) opened rest
        else if afterItem ∧ c ≠ ',' then
          .error .malformed
        else
          enter opened frame (afterComma afterItem c rest) := by
  rw [skipFrom]
  split
  · next none => simp only [none]
  · next c rest some =>
    simp only [some, enter]
    split
    · rfl
    split
    · rfl
    · split <;> next skip => simp only [skip]

theorem value_blank (blank cs : List Char) (nothing : Blank blank) :
    skipFrom .value opened (blank ++ cs) = skipFrom .value opened cs := by
  rw [value_turn, value_turn, blank_skipped _ _ nothing]

theorem enter_blank (frame : Frame) (cs : List Char) :
    enter opened frame (skipBlank cs) = enter opened frame cs := by
  cases frame with
  | list => simp only [enter, skipToItem, value_turn (.list :: opened), skipBlank_twice]
  | object => simp only [enter, skipToItem, skipName, skipBlank_twice]

def opening : Frame → Char
  | .list => '['
  | .object => '{'

def closing : Frame → Char
  | .list => ']'
  | .object => '}'

theorem inside_closed (afterItem : Bool) (frame : Frame) (blank rest : List Char)
    (nothing : Blank blank) :
    skipFrom (.inside afterItem) (frame :: opened) (blank ++ closing frame :: rest) =
      skipFrom (.inside true) opened rest := by
  rw [inside_turn, found_behind _ _ _ nothing (by cases frame <;> decide)]
  cases frame <;> simp [closing]

theorem inside_comma (frame : Frame) (blank rest : List Char) (nothing : Blank blank) :
    skipFrom (.inside true) (frame :: opened) (blank ++ ',' :: rest) = enter opened frame rest := by
  rw [inside_turn, found_behind _ _ _ nothing (by decide)]
  simp [afterComma]

theorem inside_first (frame : Frame) (cs behind : List Char) (c : Char)
    (found : skipBlank cs = c :: behind) (opens : Opens c) :
    skipFrom (.inside false) (frame :: opened) cs = enter opened frame cs := by
  rw [inside_turn, ← enter_blank, found]
  simp [opens.2, afterComma]

theorem enter_element (front rest : List Char) (blank : Blank front) :
    enter opened .list (front ++ rest) = skipFrom .value (.list :: opened) rest :=
  value_blank _ front rest blank

theorem enter_member (name : Option String) (key rest : List Char) (front : Key name key) :
    enter opened .object (key ++ rest) = skipFrom .value (.object :: opened) rest := by
  obtain ⟨before, named, inner, back⟩ := front
  simp only [List.append_assoc, List.cons_append]
  rw [enter, skipToItem, skipName, found_behind _ _ _ before (by decide)]
  simp only [quotable_skipped _ _ (named_quotable _ _ named), found_behind _ _ ':' inner (by decide)]
  exact value_blank _ _ _ back

theorem scalar_passed (c : Char) (cs rest : List Char) (opens : Opens c) (list : c ≠ '[')
    (object : c ≠ '{') (skip : skipScalar c cs = .ok rest) :
    skipFrom .value opened (c :: cs) = skipFrom (.inside true) opened rest := by
  rw [value_turn, found_here cs c opens.1]
  simp [skip]

theorem digit_passed (c : Char) (cs rest : List Char) (digit : c.isDigit = true)
    (skip : skipNumber (c :: cs) = .ok rest) :
    skipFrom .value opened (c :: cs) = skipFrom (.inside true) opened rest := by
  have scalar : skipScalar c cs = .ok rest := by
    simp only [skipScalar, digit_ne c 'n' digit rfl, digit_ne c 't' digit rfl,
      digit_ne c 'f' digit rfl, digit_ne c '"' digit rfl, digit_ne c '-' digit rfl, if_false, skip]
  exact scalar_passed opened c cs rest (digit_opens c digit) (digit_ne c '[' digit rfl)
    (digit_ne c '{' digit rfl) scalar

theorem number_passed (s rest : List Char) (number : Number s) (ends : Ends rest) :
    skipFrom .value opened (s ++ rest) = skipFrom (.inside true) opened rest := by
  obtain ⟨signed, counts, divides, scales⟩ := number
  have skipped := unsigned_skipped _ _ rest ends _ counts divides scales
  simp only [List.append_assoc]
  simp only [List.mem_cons, List.not_mem_nil, or_false] at signed
  rcases signed with rfl | rfl
  · have digits := whole_digits _ counts
    cases counts <;> exact digit_passed opened _ _ _ (digits _ List.mem_cons_self) skipped
  · exact scalar_passed opened '-' _ _ (by decide) (by decide) (by decide) skipped

theorem frame_passed (frame : Frame) (s rest : List Char)
    (inside : Blank s ∨ ∃ c behind, skipBlank (s ++ closing frame :: rest) = c :: behind ∧ Opens c ∧
      enter opened frame (s ++ closing frame :: rest) = skipFrom (.inside true) opened rest) :
    skipFrom .value opened (opening frame :: (s ++ closing frame :: rest)) =
      skipFrom (.inside true) opened rest := by
  have enters : skipFrom .value opened (opening frame :: (s ++ closing frame :: rest)) =
      skipFrom (.inside false) (frame :: opened) (s ++ closing frame :: rest) := by
    rw [value_turn]
    cases frame <;> rfl
  rw [enters]
  rcases inside with nothing | ⟨c, behind, found, opens, passed⟩
  · exact inside_closed opened false frame s rest nothing
  · rw [inside_first opened frame _ behind c found opens, passed]

theorem list_passed (values : List (List Char)) (s rest : List Char) (elements : Elements values s)
    (passed : values ≠ [] →
      enter opened .list (s ++ ']' :: rest) = skipFrom (.inside true) opened rest) :
    skipFrom .value opened ('[' :: (s ++ ']' :: rest)) = skipFrom (.inside true) opened rest := by
  refine frame_passed opened .list s rest ?_
  by_cases others : values = []
  · cases elements with
    | none nothing => exact .inl nothing
    | _ => cases others
  · obtain ⟨c, behind, found, opens⟩ := elements_open values s (']' :: rest) elements others
    exact .inr ⟨c, behind, found, opens, passed others⟩

theorem object_passed (members : List Member) (s rest : List Char) (inside : Members members s)
    (passed : members ≠ [] →
      enter opened .object (s ++ '}' :: rest) = skipFrom (.inside true) opened rest) :
    skipFrom .value opened ('{' :: (s ++ '}' :: rest)) = skipFrom (.inside true) opened rest := by
  refine frame_passed opened .object s rest ?_
  by_cases others : members = []
  · cases inside with
    | none nothing => exact .inl nothing
    | _ => cases others
  · obtain ⟨c, behind, found, opens⟩ := members_open members s ('}' :: rest) inside others
    exact .inr ⟨c, behind, found, opens, passed others⟩
end Machine

-- A value leaves the stack as it was, and so do the items of a list or an object with the bracket that
-- closes it, one frame down. Each follows the derivation of the text, so depth does not count.
mutual
/-- A value leaves the stack as it was. -/
theorem value_skipped (v : List Char) (value : Value v) (opened : List Frame) (rest : List Char)
    (ends : Ends rest) :
    skipFrom .value opened (v ++ rest) = skipFrom (.inside true) opened rest := by
  match value with
  | .null => exact scalar_passed _ 'n' _ _ (by decide) (by decide) (by decide) rfl
  | .yes => exact scalar_passed _ 't' _ _ (by decide) (by decide) (by decide) rfl
  | .no => exact scalar_passed _ 'f' _ _ (by decide) (by decide) (by decide) rfl
  | .number number => exact number_passed _ _ _ number ends
  | .text quotable =>
    rw [List.cons_append, List.append_assoc]
    exact scalar_passed _ '"' _ _ (by decide) (by decide) (by decide) (quotable_skipped _ rest quotable)
  | .list elements =>
    rw [List.cons_append, List.append_assoc]
    exact list_passed opened _ _ rest elements fun others =>
      elements_skipped _ _ elements others opened rest
  | .object inside =>
    rw [List.cons_append, List.append_assoc]
    exact object_passed opened _ _ rest inside fun others =>
      members_skipped _ _ inside others opened rest

theorem elements_skipped (values : List (List Char)) (s : List Char) (elements : Elements values s)
    (others : values ≠ []) (opened : List Frame) (rest : List Char) :
    enter opened .list (s ++ ']' :: rest) = skipFrom (.inside true) opened rest := by
  match elements with
  | .none _ => exact absurd rfl others
  | .one front element back =>
    rw [List.append_assoc, List.append_assoc, enter_element _ _ _ front,
      value_skipped _ element _ _ (ends_behind _ _ _ back (by decide))]
    exact inside_closed opened true .list _ rest back
  | .more front element back tail left =>
    -- The first element comes back to this frame, where the others stand behind the comma.
    simp only [List.append_assoc, List.cons_append]
    rw [enter_element _ _ _ front,
      value_skipped _ element _ _ (ends_behind _ _ _ back (by decide)), inside_comma _ _ _ _ back]
    exact elements_skipped _ _ tail left opened rest

theorem members_skipped (members : List Member) (s : List Char) (inside : Members members s)
    (others : members ≠ []) (opened : List Frame) (rest : List Char) :
    enter opened .object (s ++ '}' :: rest) = skipFrom (.inside true) opened rest := by
  match inside with
  | .none _ => exact absurd rfl others
  | .one key element back =>
    rw [List.append_assoc, List.append_assoc, enter_member _ _ _ _ key,
      value_skipped _ element _ _ (ends_behind _ _ _ back (by decide))]
    exact inside_closed opened true .object _ rest back
  | .more key element back tail left =>
    simp only [List.append_assoc, List.cons_append]
    rw [enter_member _ _ _ _ key,
      value_skipped _ element _ _ (ends_behind _ _ _ back (by decide)), inside_comma _ _ _ _ back]
    exact members_skipped _ _ tail left opened rest
end

theorem value_passed (blank v rest : List Char) (nothing : Blank blank) (value : Value v)
    (ends : Ends rest) : skipValue (blank ++ (v ++ rest)) = .ok rest := by
  rw [skipValue, value_blank _ _ _ nothing, value_skipped v value [] rest ends, skipFrom]

end FlashStore.JsonSkips

/-! Exact readers -/

namespace FlashStore.JsonReaders
open Json JsonGrammar JsonNumbers JsonStrings JsonSkips NaturalTexts

/-- The reader takes the values that mean something, and stops behind them. -/
def Exact {α : Type} (read : Reader α) (Means : List Char → α → Prop) : Prop :=
  ∀ blank v rest x behind, Blank blank → Value v → Ends rest →
    (read (blank ++ (v ++ rest)) = .ok (x, behind) ↔ Means v x ∧ behind = rest)

theorem exact_then {α β : Type} (read : Reader α) (Means : List Char → α → Prop)
    (exact : Exact read Means) (blank v rest : List Char) (nothing : Blank blank) (value : Value v)
    (ends : Ends rest) (later : α → List Char → Except ReadError β) (last : β) :
    (match read (blank ++ (v ++ rest)) with
      | .error failure => Except.error failure
      | .ok (x, behind) => later x behind) = .ok last ↔
      ∃ x, Means v x ∧ later x rest = .ok last := by
  have meant (x : α) (behind : List Char) := exact blank v rest x behind nothing value ends
  constructor
  · intro done
    split at done
    · cases done
    · next x behind answer =>
      obtain ⟨means, rfl⟩ := (meant x behind).mp answer
      exact ⟨x, means, done⟩
  · rintro ⟨x, means, done⟩
    rw [(meant x rest).mpr ⟨means, rfl⟩]
    exact done

theorem exact_bind {α β : Type} (read : Reader α) (Means : List Char → α → Prop)
    (exact : Exact read Means) (v rest : List Char) (value : Value v) (ends : Ends rest)
    (later : α × List Char → Except ReadError β) (last : β) (Then : α → Prop) (End : Prop)
    (goes : ∀ x, later (x, rest) = .ok last ↔ Then x ∧ End) :
    (read (v ++ rest) >>= later) = .ok last ↔ (∃ x, Means v x ∧ Then x) ∧ End := by
  have meant := exact_then read Means exact [] v rest blank_nil value ends
    (fun x behind => later (x, behind)) last
  simp only [goes, ← and_assoc, exists_and_right] at meant
  rw [← meant, List.nil_append]
  cases read (v ++ rest) <;> exact Iff.rfl

inductive Says : List Char → String → Prop where
  | mk {s : List Char} {text : String} (spelled : Spells s text.toList) :
      Says ('"' :: (s ++ ['"'])) text

theorem said_iff (s : List Char) (text : String) :
    Says ('"' :: (s ++ ['"'])) text ↔ Spells s text.toList := by
  constructor
  · generalize whole : '"' :: (s ++ ['"']) = v
    rintro ⟨spelled⟩
    rw [List.cons.injEq, List.append_cancel_right_eq] at whole
    exact whole.2 ▸ spelled
  · exact .mk

theorem text_said (text : String) : Says (writtenText text) text :=
  .mk (written_spelled text.toList)

theorem said_value (v : List Char) (text : String) (said : Says v text) : Value v := by
  obtain ⟨spelled⟩ := said
  exact .text (spelled_quotable _ _ spelled)

-- What the first character of a value tells about it.

theorem no_number (c : Char) (tail : List Char) (other : ¬ (c.isDigit = true ∨ c = '-')) :
    ¬ Number (c :: tail) := by
  intro number
  obtain ⟨_, _, same, first⟩ := number_first _ number
  cases same
  exact other first

theorem value_string (tail : List Char) (value : Value ('"' :: tail)) :
    ∃ s, Quotable s ∧ tail = s ++ ['"'] := by
  cases value with
  | number number => exact absurd number (no_number _ _ (by decide))
  | text quotable => exact ⟨_, quotable, rfl⟩

theorem value_object (tail : List Char) (value : Value ('{' :: tail)) :
    ∃ members s, Members members s ∧ tail = s ++ ['}'] := by
  cases value with
  | number number => exact absurd number (no_number _ _ (by decide))
  | object inside => exact ⟨_, _, inside, rfl⟩

theorem value_digit (c : Char) (tail : List Char) (digit : c.isDigit = true)
    (value : Value (c :: tail)) : Number (c :: tail) := by
  cases value with
  | number number => exact number
  | _ => cases digit

theorem value_null (tail : List Char) (value : Value ('n' :: tail)) : tail = ['u', 'l', 'l'] := by
  cases value with
  | null => rfl
  | number number => exact absurd number (no_number _ _ (by decide))

-- Reading strings.

theorem string_exact (expected : String) : Exact (readString expected) Says := by
  intro blank v rest text behind nothing value ends
  obtain ⟨c, tail, rfl, opens⟩ := value_opens v value
  rw [readString, List.cons_append, found_behind _ _ c nothing opens.1]
  by_cases quote : c = '"'
  · subst quote
    obtain ⟨s, quotable, rfl⟩ := value_string tail value
    rw [said_iff, List.append_assoc]
    exact quoted_read_iff s rest behind text quotable
  · constructor
    · intro read
      split at read
      · cases read
      · next same =>
        cases same
        exact absurd rfl quote
      · cases read
    · rintro ⟨said, _⟩
      cases said
      exact absurd rfl quote

-- Reading natural numbers.

def Counts (v : List Char) (n : UInt64) : Prop := Whole v ∧ JsonNumbers.value v = n.toNat

theorem whole_unique (v rest whole behind : List Char) (number : Number v) (counts : Whole whole)
    (ends : Ends rest) (stops : Ends behind) (same : v ++ rest = whole ++ behind) :
    v = whole ∧ rest = behind := by
  have skipped := unsigned_skipped [] [] behind stops whole counts .absent .absent
  rw [List.nil_append, List.nil_append, ← same] at skipped
  obtain ⟨signed, counted, divides, scales⟩ := number
  simp only [List.mem_cons, List.not_mem_nil, or_false] at signed
  rcases signed with rfl | rfl
  · have other := unsigned_skipped _ _ rest ends _ counted divides scales
    simp only [List.nil_append, List.append_assoc] at skipped
    rw [other] at skipped
    cases skipped
    exact ⟨List.append_cancel_right same, rfl⟩
  · cases skipped

theorem natural_taken (expected : String) (read : Except ReadError (Json.Number × List Char))
    (n : UInt64) (behind : List Char) :
    (match read with
      | .error failure => Except.error failure
      | .ok (number, rest) => (naturalOfNumber expected number).map fun n => (n, rest)) =
        .ok (n, behind) ↔
      ∃ m, read = .ok (.natural m, behind) ∧ UInt64.ofNat m = n := by
  cases read with
  | error failure => simp
  | ok found =>
      obtain ⟨number, rest⟩ := found
      cases number <;> simp [naturalOfNumber, Except.map, and_comm]

theorem natural_exact (expected : String) : Exact (readNatural expected) Counts := by
  intro blank v rest n behind nothing value ends
  obtain ⟨c, tail, rfl, opens⟩ := value_opens v value
  rw [readNatural, List.cons_append, found_behind _ _ c nothing opens.1]
  dsimp only
  constructor
  · intro read
    split at read
    · cases read
    · next same =>
      obtain ⟨m, found, _⟩ := (natural_taken _ _ n behind).mp read
      exact absurd (read_natural _ _ _ _ found).1 (by decide)
    · next same =>
      cases same
      split_ifs at read with digit
      rw [digit_kinds] at digit
      obtain ⟨m, found, made⟩ := (natural_taken _ _ n behind).mp read
      obtain ⟨_, whole, counts, rfl, small, stops, same⟩ := read_natural _ _ _ _ found
      have number := value_digit c tail digit value
      obtain ⟨rfl, rfl⟩ := whole_unique _ rest whole behind number counts ends stops same
      exact ⟨⟨counts, by rw [← made, UInt64.toNat_ofNat_of_lt' small]⟩, rfl⟩
  · rintro ⟨⟨counts, same⟩, rfl⟩
    have digit := whole_digits _ counts c List.mem_cons_self
    have small : JsonNumbers.value (c :: tail) < UInt64.size := same ▸ n.toNat_lt
    have read := natural_read (c :: tail) behind counts small ends
    split
    · next none => cases none
    · next minus =>
      cases minus
      cases digit
    · next again =>
      cases again
      rw [if_pos ((digit_kinds c).trans digit)]
      exact (natural_taken _ _ n behind).mpr ⟨_, read, by rw [same, UInt64.ofNat_toNat]⟩

end FlashStore.JsonReaders
