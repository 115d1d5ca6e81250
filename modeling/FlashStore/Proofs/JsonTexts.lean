import FlashStore.Proofs.JsonObjects
import FlashStore.Row.Json
import FlashStore.Settings

/-!
Fields and settings as JSON. Both are written as an object of their two members, and what is written
is one of the texts that are read back.

An object is read as a field if each of the two members is there once and is a string, whatever else
is in it and whatever the order; a list is if it holds two strings and nothing more. An object is
read as settings if each of the two is there at most once, a backend by its name and an amount in
plain decimal digits; what is not there is standard, and all other members are passed over.
-/

namespace FlashStore.FieldTexts
open Json JsonGrammar JsonNumbers JsonStrings JsonSkips JsonReaders JsonObjects

/-- The member is there once, and its value is a string that stands for the text. -/
def Gives (members : List Member) (name text : String) : Prop :=
  ∃ v, valuesOf name members = [v] ∧ Says v text

theorem gives_iff (members : List Member) (name text : String) :
    Gives members name text ↔ List.Forall₂ Says (valuesOf name members) (some text).toList := by
  rw [Gives, Option.toList_some, List.forall₂_cons_right_iff]
  simp only [List.forall₂_nil_right_iff, exists_and_left]
  constructor
  · rintro ⟨v, same, said⟩
    exact ⟨v, said, [], rfl, same⟩
  · rintro ⟨v, said, _, rfl, same⟩
    exact ⟨v, same, said⟩

theorem members_made (name value : Option String) (field : Field) :
    Field.ofMembers name value = .ok field ↔ name = some field.name ∧ value = some field.value := by
  obtain ⟨itsName, itsValue⟩ := field
  cases name <;> cases value <;> simp [Field.ofMembers]

theorem object_field (members : List Member) (text : String) (object : ObjectText members text)
    (field : Field) :
    Field.ofJson text = .ok field ↔
      (∀ member ∈ members, member.name ≠ none) ∧ Gives members "name" field.name ∧
        Gives members "value" field.value := by
  have string := string_exact "a string"
  have read := object_text_read Field.shape Says Says string string text field (by decide) members object
  rw [gives_iff, gives_iff, Field.ofJson, read]
  simp only [Field.shape, members_made]
  constructor
  · rintro ⟨named, _, _, name, value, rfl, rfl⟩
    exact ⟨named, name, value⟩
  · rintro ⟨named, name, value⟩
    exact ⟨named, _, _, name, value, rfl, rfl⟩

theorem list_field (values : List (List Char)) (text : String) (list : ListText values text)
    (field : Field) :
    Field.ofJson text = .ok field ↔
      ∃ v w, values = [v, w] ∧ Says v field.name ∧ Says w field.value := by
  have string := string_exact "a string"
  rw [Field.ofJson, list_text_read Field.shape Says Says string string text field values list]
  match values with
  | [] => simp [MakesOfList, Field.shape, Field.ofElements]
  | [v] => simp [MakesOfList, MakesBehind, Field.shape, Field.ofElements]
  | [v, w] =>
    obtain ⟨name, value⟩ := field
    simp [MakesOfList, MakesBehind, Field.shape, Field.ofElements]
  | v :: w :: u :: others => simp [MakesOfList, MakesBehind]

theorem written_object (field : Field) :
    ∃ name value, ObjectText [⟨some "name", name⟩, ⟨some "value", value⟩] field.toJson ∧
      Says name field.name ∧ Says value field.value :=
  have name := text_said field.name
  have value := text_said field.value
  ⟨_, _, pair_object _ _ _ _ (said_value _ _ name) (said_value _ _ value), name, value⟩

theorem refused (text : String) (never : ∀ field, Field.ofJson text ≠ .ok field) :
    ∃ failure, Field.ofJson text = .error failure := by
  cases answer : Field.ofJson text with
  | error failure => exact ⟨failure, rfl⟩
  | ok field => exact absurd answer (never field)

/-- A field is read back from what is written for it. An object is read as the field that its two
members give, in whatever order and among whatever others, as long as all names stand for texts; a list
is read as the field of its two strings. An object in which one of the two members is missing or
repeated is refused, and so is any other list. -/
theorem field_texts_exact :
    (∀ field : Field, Field.ofJson field.toJson = .ok field) ∧
    (∀ members text, ObjectText members text →
      (∀ field, Field.ofJson text = .ok field ↔
        (∀ member ∈ members, member.name ≠ none) ∧ Gives members "name" field.name ∧
          Gives members "value" field.value) ∧
      ∀ name ∈ ["name", "value"], (valuesOf name members).length ≠ 1 →
        ∃ failure, Field.ofJson text = .error failure) ∧
    ∀ values text, ListText values text →
      (∀ field, Field.ofJson text = .ok field ↔
        ∃ v w, values = [v, w] ∧ Says v field.name ∧ Says w field.value) ∧
      (values.length ≠ 2 → ∃ failure, Field.ofJson text = .error failure) := by
  refine ⟨?_, ?_, ?_⟩
  · intro field
    obtain ⟨name, value, object, saidName, saidValue⟩ := written_object field
    refine (object_field _ _ object field).mpr ⟨by simp, ⟨name, ?_, saidName⟩, value, ?_, saidValue⟩
    · simp [valuesOf]
    · simp [valuesOf]
  · intro members text object
    refine ⟨object_field members text object, fun name either count => refused text ?_⟩
    intro field read
    obtain ⟨_, ⟨v, one, _⟩, w, other, _⟩ := (object_field members text object field).mp read
    simp only [List.mem_cons, List.not_mem_nil, or_false] at either
    rcases either with rfl | rfl
    · simp [one] at count
    · simp [other] at count
  · intro values text list
    refine ⟨list_field values text list, fun count => refused text ?_⟩
    intro field read
    obtain ⟨v, w, rfl, _⟩ := (list_field values text list field).mp read
    exact count rfl

-- The other order, one more member, and escapes in a name and in both values.

def smiling : List Char := "\"\\ud83d\\ude00\"".toList

def nestedValue : List Char := "[1, \x7b\"name\":null\x7d]".toList

def shuffled : String :=
  "\x7b\"value\":\"\\ud83d\\ude00\",\"note\":[1, \x7b\"name\":null\x7d],\"na\\u006de\" : \"q\\\"\"\x7d"

theorem smiling_said : Says smiling "😀" := by
  have high : CodeUnit "d83d".toList 0xd83d :=
    .digits (k := 0xd) (l := 0x8) (m := 0x3) (n := 0xd) (by decide) (by decide) (by decide) (by decide)
  have low : CodeUnit "de00".toList 0xde00 :=
    .digits (k := 0xd) (l := 0xe) (m := 0x0) (n := 0x0) (by decide) (by decide) (by decide) (by decide)
  have pair : Escape "ud83d\\ude00".toList '😀' := .pair high low (by decide) (by decide) (by decide)
  have spelled : Spells "\\ud83d\\ude00".toList "😀".toList := .escape pair .nil
  exact .mk spelled

theorem nested_value : Value nestedValue := by
  have one : Value ['1'] := .number (whole_number _ (.digits (by decide) ⟨by simp, by simp⟩))
  have inner : Value "\x7b\"name\":null\x7d".toList :=
    .object (.one (written_key "name") .null blank_nil)
  have space : Blank [' '] := by simp [Blank]
  exact .list (.more blank_nil one blank_nil (.one space inner blank_nil) (by simp))

theorem shuffled_object :
    ObjectText [⟨some "value", smiling⟩, ⟨some "note", nestedValue⟩, ⟨some "name", writtenText "q\""⟩]
      shuffled := by
  have escaped : Escape "u006d".toList 'm' := .unit
    (.digits (k := 0x0) (l := 0x0) (m := 0x6) (n := 0xd) (by decide) (by decide) (by decide) (by decide))
  have spelled : Spells ('n' :: 'a' :: '\\' :: "u006de".toList) ('n' :: 'a' :: "me".toList) :=
    .plain (by decide) (.plain (by decide) (.escape escaped (written_spelled "e".toList)))
  have named : Named _ (some "name") := .text spelled
  have space : Blank [' '] := by simp [Blank]
  have last := Members.one (.mk blank_nil named space space) (said_value _ _ (text_said "q\"")) blank_nil
  have middle := Members.more (written_key "note") nested_value blank_nil last (by simp)
  have inside := Members.more (written_key "value") (said_value _ _ smiling_said) blank_nil middle
    (by simp)
  convert ObjectText.mk blank_nil inside blank_nil using 1
  decide +kernel

theorem field_texts_exact_shuffled :
    Field.ofJson shuffled = .ok ⟨"q\"", "😀"⟩ ∧
      ∃ failure, Field.ofJson "[\"q\"]" = .error failure := by
  obtain ⟨_, objects, lists⟩ := field_texts_exact
  constructor
  · refine ((objects _ _ shuffled_object).1 _).mpr ⟨by simp, ⟨_, rfl, text_said "q\""⟩,
      ⟨_, rfl, smiling_said⟩⟩
  · refine (lists [writtenText "q"] _ ?_).2 (by simp)
    exact .mk blank_nil (.one blank_nil (said_value _ _ (text_said "q")) blank_nil) blank_nil

end FlashStore.FieldTexts

/-! Settings -/

namespace FlashStore.SettingsTexts
open Json JsonGrammar JsonNumbers JsonStrings JsonSkips JsonReaders JsonObjects TextReaders

def backends : List (String × Backend) :=
  [("hashmap", .singleTable), ("sharded", .sharded), ("kvssd", .physical)]

/-- The value selects a backend: its name, or an object with one member of that name, which is null. -/
inductive Selects : List Char → Backend → Prop where
  | text {v : List Char} {name : String} {backend : Backend} (listed : (name, backend) ∈ backends)
      (said : Says v name) : Selects v backend
  | object {s : List Char} {name : String} {backend : Backend} (listed : (name, backend) ∈ backends)
      (inside : Members [⟨some name, ['n', 'u', 'l', 'l']⟩] s) : Selects ('{' :: (s ++ ['}'])) backend

theorem listed_iff (name : String) (backend : Backend) :
    (name, backend) ∈ backends ↔ name = backend.name := by
  cases backend <;> simp [backends, Backend.name]

theorem name_read_iff (name : String) (backend : Backend) :
    Settings.backendOfName name = .ok backend ↔ (name, backend) ∈ backends := by
  rw [listed_iff, Settings.backendOfName]
  constructor
  · intro read
    split at read
    · next found known =>
      cases read
      exact Backend.eq_name_of_ofName? known
    · cases read
  · rintro rfl
    rw [Backend.ofName?_name]

-- A backend is read piece by piece, and each piece ends where the next one begins.

theorem null_read_iff (blank v rest behind : List Char) (nothing : Blank blank) (value : Value v) :
    Settings.readNull (blank ++ (v ++ rest)) = .ok behind ↔
      v = ['n', 'u', 'l', 'l'] ∧ behind = rest := by
  obtain ⟨c, tail, rfl, solid, _⟩ := value_opens v value
  rw [Settings.readNull, List.cons_append, found_behind _ _ _ nothing solid]
  by_cases null : c = 'n'
  · subst null
    cases value_null tail value
    simp [skipWord, eq_comm]
  · constructor
    · intro read
      split at read
      · cases read
      · next same =>
        cases same
        exact absurd rfl null
      · cases read
    · rintro ⟨same, _⟩
      cases same
      exact absurd rfl null

theorem brace_read_iff (blank rest behind : List Char) (mark : Char) (nothing : Blank blank)
    (ends : mark ∈ ['}', ',']) :
    Settings.closeObject (blank ++ mark :: rest) = .ok behind ↔ mark = '}' ∧ behind = rest := by
  simp only [List.mem_cons, List.not_mem_nil, or_false] at ends
  rcases ends with rfl | rfl
  · rw [Settings.closeObject, found_behind _ _ _ nothing (by decide)]
    simp [eq_comm]
  · rw [Settings.closeObject, found_behind _ _ _ nothing (by decide)]
    simp

/-- An object that selects a backend ends behind its first member. -/
theorem object_read_iff (name : Option String) (key v after rest behind : List Char) (mark : Char)
    (backend : Backend) (front : Key name key) (value : Value v) (back : Blank after)
    (ends : mark ∈ ['}', ',']) :
    Settings.readBackend ('{' :: (key ++ (v ++ (after ++ mark :: rest)))) = .ok (backend, behind) ↔
      (∃ text, name = some text ∧ (text, backend) ∈ backends) ∧ v = ['n', 'u', 'l', 'l'] ∧
        mark = '}' ∧ behind = rest := by
  cases front with
  | @mk before s middle follow _ front named inner next =>
      have nulls := null_read_iff follow v (after ++ mark :: rest)
      simp only [List.append_assoc, List.cons_append]
      rw [Settings.readBackend, found_here _ _ (by decide)]
      simp only [Settings.readName, found_behind before _ '"' front (by decide)]
      rw [bind_ok_iff]
      simp only [Prod.exists, named_read_iff s _ _ name _ named, bind_ok_iff, name_read_iff]
      constructor
      · rintro ⟨text, _, ⟨rfl, rfl⟩, found, listed, _, colon, _, null, _, brace, same⟩
        rw [colon_passed _ _ inner] at colon
        cases colon
        cases same
        obtain ⟨rfl, rfl⟩ := (nulls _ next value).mp null
        exact ⟨⟨text, rfl, listed⟩, rfl, (brace_read_iff _ _ _ _ back ends).mp brace⟩
      · rintro ⟨⟨text, rfl, listed⟩, rfl, rfl, rfl⟩
        exact ⟨text, _, ⟨rfl, rfl⟩, backend, listed, _, colon_passed _ _ inner, _,
          (nulls _ next value).mpr ⟨rfl, rfl⟩, _, (brace_read_iff _ _ _ _ back ends).mpr ⟨rfl, rfl⟩, rfl⟩

theorem string_selects (s rest behind : List Char) (backend : Backend) (quotable : Quotable s) :
    Settings.readBackend ('"' :: (s ++ '"' :: rest)) = .ok (backend, behind) ↔
      Selects ('"' :: (s ++ ['"'])) backend ∧ behind = rest := by
  have selects : Selects ('"' :: (s ++ ['"'])) backend ↔
      ∃ name, (name, backend) ∈ backends ∧ Spells s name.toList := by
    simp only [← said_iff]
    constructor
    · generalize whole : '"' :: (s ++ ['"']) = v
      rintro (⟨listed, said⟩ | _)
      · exact ⟨_, listed, said⟩
      · cases whole
    · rintro ⟨name, listed, said⟩
      exact .text listed said
  rw [Settings.readBackend, found_here _ _ (by decide), selects]
  simp only [bind_ok_iff, Prod.exists, quoted_read_iff s rest _ _ quotable, name_read_iff]
  constructor
  · rintro ⟨name, _, ⟨spelled, rfl⟩, _, listed, same⟩
    cases same
    exact ⟨⟨name, listed, spelled⟩, rfl⟩
  · rintro ⟨⟨name, listed, spelled⟩, rfl⟩
    exact ⟨name, _, ⟨spelled, rfl⟩, backend, listed, rfl⟩

theorem object_selects (members : List Member) (s rest behind : List Char) (backend : Backend)
    (inside : Members members s) :
    Settings.readBackend ('{' :: (s ++ '}' :: rest)) = .ok (backend, behind) ↔
      Selects ('{' :: (s ++ ['}'])) backend ∧ behind = rest := by
  constructor
  · intro read
    cases inside with
    | none nothing =>
        rw [Settings.readBackend, found_here _ _ (by decide)] at read
        simp only [Settings.readName, found_behind _ _ '}' nothing (by decide)] at read
        cases read
    | one key value back =>
        simp only [List.append_assoc] at read
        obtain ⟨⟨text, rfl, listed⟩, rfl, _, rfl⟩ :=
          (object_read_iff _ _ _ _ _ _ '}' backend key value back (by simp)).mp read
        exact ⟨.object listed (.one key value back), rfl⟩
    | more key value back =>
        simp only [List.append_assoc, List.cons_append] at read
        obtain ⟨_, _, comma, _⟩ :=
          (object_read_iff _ _ _ _ _ _ ',' backend key value back (by simp)).mp read
        cases comma
  · generalize whole : '{' :: (s ++ ['}']) = v
    rintro ⟨(⟨_, ⟨_⟩⟩ | ⟨listed, inside⟩), rfl⟩
    · cases whole
    · rw [List.cons.injEq, List.append_cancel_right_eq] at whole
      obtain ⟨_, rfl⟩ := whole
      cases inside with
      | one key value back =>
          simp only [List.append_assoc]
          exact (object_read_iff _ _ _ _ _ _ '}' backend key value back (by simp)).mpr
            ⟨⟨_, rfl, listed⟩, rfl, rfl, rfl⟩
      | more _ _ _ _ others => exact absurd rfl others

theorem backend_exact : Exact Settings.readBackend Selects := by
  intro blank v rest backend behind nothing value ends
  obtain ⟨c, tail, rfl, solid, _⟩ := value_opens v value
  have here : Settings.readBackend (blank ++ (c :: tail ++ rest)) =
      Settings.readBackend (c :: (tail ++ rest)) := by
    rw [Settings.readBackend, Settings.readBackend, List.cons_append,
      found_behind _ _ c nothing solid, found_here _ c solid]
  rw [here]
  by_cases quote : c = '"'
  · subst quote
    obtain ⟨s, quotable, rfl⟩ := value_string tail value
    rw [List.append_assoc]
    exact string_selects s rest behind backend quotable
  by_cases brace : c = '{'
  · subst brace
    obtain ⟨members, s, inside, rfl⟩ := value_object tail value
    rw [List.append_assoc]
    exact object_selects members s rest behind backend inside
  constructor
  · intro read
    rw [Settings.readBackend, found_here _ c solid] at read
    simp [quote, brace] at read
  · rintro ⟨⟨_, ⟨_⟩⟩ | _, _⟩
    · exact absurd rfl quote
    · exact absurd rfl brace

-- Whole texts.

/-- A member that is there once means the value; without a member it is the standard one. -/
inductive Given {α : Type} (Means : List Char → α → Prop) (standard : α) :
    List (List Char) → α → Prop where
  | absent : Given Means standard [] standard
  | present {v : List Char} {x : α} (means : Means v x) : Given Means standard [v] x

theorem given_iff {α : Type} (Means : List Char → α → Prop) (standard x : α)
    (values : List (List Char)) :
    Given Means standard values x ↔
      ∃ found : Option α, List.Forall₂ Means values found.toList ∧ found.getD standard = x := by
  constructor
  · rintro (_ | means)
    · exact ⟨none, .nil, rfl⟩
    · exact ⟨some x, .cons means .nil, rfl⟩
  · rintro ⟨_ | found, means, rfl⟩
    · cases means
      exact .absent
    · cases means with
      | cons means others =>
          cases others
          exact .present means

theorem given_once {α : Type} {Means : List Char → α → Prop} {standard x : α}
    {values : List (List Char)} (given : Given Means standard values x) : values.length ≤ 1 := by
  cases given <;> simp

theorem object_settings (members : List Member) (text : String) (object : ObjectText members text)
    (settings : Settings) :
    Settings.ofJson text = .ok settings ↔
      (∀ member ∈ members, member.name ≠ none) ∧
        Given Selects .singleTable (valuesOf "backend" members) settings.backend ∧
        Given Counts 64 (valuesOf "shard_amount" members) settings.shardAmount := by
  have amounts := natural_exact "usize"
  rw [Settings.ofJson, object_text_read Settings.shape Selects Counts backend_exact amounts text
    settings (by decide) members object, given_iff, given_iff]
  obtain ⟨backend, amount⟩ := settings
  constructor
  · rintro ⟨named, x, y, selects, counts, made⟩
    cases made
    exact ⟨named, ⟨x, selects, rfl⟩, y, counts, rfl⟩
  · rintro ⟨named, ⟨x, selects, rfl⟩, y, counts, rfl⟩
    exact ⟨named, x, y, selects, counts, rfl⟩

theorem written_object (settings : Settings) :
    ∃ backend amount, ObjectText [⟨some "backend", backend⟩, ⟨some "shard_amount", amount⟩]
      settings.toJson ∧ Selects backend settings.backend ∧ Counts amount settings.shardAmount := by
  have name := text_said settings.backend.name
  have counts : Counts _ settings.shardAmount := decimal_whole settings.shardAmount.toNat
  exact ⟨_, _, pair_object _ _ _ _ (said_value _ _ name) (.number (whole_number _ counts.1)),
    .text ((listed_iff _ _).mpr rfl) name, counts⟩

/-- Settings are read back from what is written for them. An object is read as settings if and only if
all names stand for texts and each of the two members is there at most once and means the setting,
whatever the order and whatever else is there; what is not there is standard. An object with one of the
two twice is refused. -/
theorem settings_texts_exact :
    (∀ settings : Settings, Settings.ofJson settings.toJson = .ok settings) ∧
    ∀ members text, ObjectText members text →
      (∀ settings, Settings.ofJson text = .ok settings ↔
        (∀ member ∈ members, member.name ≠ none) ∧
          Given Selects .singleTable (valuesOf "backend" members) settings.backend ∧
          Given Counts 64 (valuesOf "shard_amount" members) settings.shardAmount) ∧
      ∀ name ∈ ["backend", "shard_amount"], 2 ≤ (valuesOf name members).length →
        ∃ failure, Settings.ofJson text = .error failure := by
  constructor
  · intro settings
    obtain ⟨backend, amount, object, selects, counts⟩ := written_object settings
    exact (object_settings _ _ object settings).mpr ⟨by simp, .present selects, .present counts⟩
  · intro members text object
    refine ⟨object_settings members text object, fun name either twice => ?_⟩
    cases answer : Settings.ofJson text with
    | error failure => exact ⟨failure, rfl⟩
    | ok settings =>
        obtain ⟨_, backend, amount⟩ := (object_settings members text object settings).mp answer
        have once := given_once backend
        have other := given_once amount
        simp only [List.mem_cons, List.not_mem_nil, or_false] at either
        rcases either with rfl | rfl <;> omega

-- Both members behind one that is passed over, in which the first name occurs again.

def nested : List Char := "\x7b\"backend\":[]\x7d".toList

def roomy : String :=
  "\x7b\"x\":\x7b\"backend\":[]\x7d,\n\"shard_amount\":18446744073709551615,\"backend\":\"kvssd\"\x7d"

theorem greatest_counts : Counts (Nat.toDigits 10 18446744073709551615) 18446744073709551615 :=
  decimal_whole 18446744073709551615

theorem roomy_object :
    ObjectText [⟨some "x", nested⟩, ⟨some "shard_amount", Nat.toDigits 10 18446744073709551615⟩,
      ⟨some "backend", writtenText "kvssd"⟩] roomy := by
  have line : Blank ['\n'] := by simp [Blank]
  have inner : Value nested :=
    .object (.one (written_key "backend") (.list (.none blank_nil)) blank_nil)
  have spelled : Named _ (some "shard_amount") := .text (written_spelled "shard_amount".toList)
  have last := Members.one (written_key "backend") (said_value _ _ (text_said "kvssd")) blank_nil
  have middle := Members.more (.mk line spelled blank_nil blank_nil)
    (.number (whole_number _ greatest_counts.1)) blank_nil last (by simp)
  have inside := Members.more (written_key "x") inner blank_nil middle (by simp)
  convert ObjectText.mk blank_nil inside blank_nil using 1
  decide +kernel

theorem settings_texts_exact_roomy :
    Settings.ofJson roomy = .ok ⟨.physical, 18446744073709551615⟩ ∧
      ∃ failure, Settings.ofJson "\x7b\"backend\":null,\"backend\":\"kvssd\"\x7d" = .error failure := by
  obtain ⟨_, objects⟩ := settings_texts_exact
  constructor
  · refine ((objects _ _ roomy_object).1 _).mpr ⟨by simp, ?_, .present greatest_counts⟩
    exact .present (.text (by simp [backends]) (text_said "kvssd"))
  · have twice := pair_object "backend" "backend" _ _ .null (said_value _ _ (text_said "kvssd"))
    exact (objects _ _ twice).2 "backend" (by simp) (by simp [valuesOf])

end FlashStore.SettingsTexts
