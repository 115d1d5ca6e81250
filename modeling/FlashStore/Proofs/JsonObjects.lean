import FlashStore.Proofs.JsonSkips
import Mathlib.Data.List.Forall2

/-!
Reading structures of two members. What is made of the members that were found is the structure's
own: making something of them, and of what was made of them something else, is one and the same
reading.

With two exact readers a structure is read exactly too: of an object it takes each of its members at
most once, with a value that means what was found, and passes over all others; of a list it takes
the values in order.
-/

namespace FlashStore.JsonShapes
open Json

variable {α β γ δ : Type}

/-- One turn of the reader of an object, where its matches carry no proofs. -/
theorem members_turn (shape : Shape α β γ) (afterMember : Bool) (a : Option α) (b : Option β)
    (cs : List Char) :
    shape.readMembers afterMember a b cs =
      match nextName afterMember cs with
      | .error failure => .error failure
      | .ok (.closed rest) => (shape.ofObject a b).map fun value => (value, rest)
      | .ok (.item rest) =>
        match readText rest with
        | .error failure => .error failure
        | .ok (name, rest) =>
          if name = shape.first then
            match a with
            | some _ => .error (.mismatch (.repeatedMember name))
            | none =>
              match readMember shape.readFirst rest with
              | .error failure => .error failure
              | .ok (value, rest) => shape.readMembers true (some value) b rest
          else if name = shape.second then
            match b with
            | some _ => .error (.mismatch (.repeatedMember name))
            | none =>
              match readMember shape.readSecond rest with
              | .error failure => .error failure
              | .ok (value, rest) => shape.readMembers true a (some value) rest
          else
            match skipMember rest with
            | .error failure => .error failure
            | .ok rest => shape.readMembers true a b rest := by
  rw [Shape.readMembers]
  split
  · next failure next => rw [next]
  · next rest next => rw [next]
  · next rest next =>
    rw [next]
    split
    · next failure read => simp only [read]
    · next name behind read =>
      simp only [read]
      split
      · rfl
      · split
        · rfl
        · split
          · next failure skip => rw [skip]
          · next later skip => rw [skip]

/-- The shape with something else made of what it makes of its members. -/
def remade (make : γ → δ) (shape : Shape α β γ) : Shape α β δ where
  expected := shape.expected
  first := shape.first
  second := shape.second
  readFirst := shape.readFirst
  readSecond := shape.readSecond
  ofObject a b := (shape.ofObject a b).map make
  ofList a b := (shape.ofList a b).map make

variable (make : γ → δ) (shape : Shape α β γ)

theorem members_remade (afterMember : Bool) (a : Option α) (b : Option β) (cs : List Char) :
    (remade make shape).readMembers afterMember a b cs =
      (shape.readMembers afterMember a b cs).map fun read => (make read.1, read.2) := by
  fun_induction Shape.readMembers shape afterMember a b cs with
  | case1 afterMember a b cs failure next => simp [members_turn, next, Except.map]
  | case2 afterMember a b cs rest next =>
      cases made : shape.ofObject a b <;> simp [members_turn, next, remade, made, Except.map]
  | case3 afterMember a b cs rest next failure read => simp [members_turn, next, read, Except.map]
  | case4 afterMember b cs rest next later value read =>
      simp [members_turn, next, read, remade, Except.map]
  | case5 afterMember b cs rest next later failure value read =>
      simp [members_turn, next, read, value, remade, Except.map]
  | case6 afterMember b cs rest next behind value later found read ih =>
      rw [← ih, members_turn]
      simp [next, read, found, remade]
  | case7 afterMember a cs rest next later value read other =>
      simp [members_turn, next, read, remade, other, Except.map]
  | case8 afterMember a cs rest next later failure value read other =>
      simp [members_turn, next, read, value, remade, other, Except.map]
  | case9 afterMember a cs rest next behind value later found read other ih =>
      rw [← ih, members_turn]
      simp [next, read, found, remade, other]
  | case10 afterMember a b cs rest next name later read notFirst notSecond failure skip =>
      simp [members_turn, next, read, skip, remade, notFirst, notSecond, Except.map]
  | case11 afterMember a b cs rest next name behind read notFirst notSecond later skip ih =>
      rw [← ih, members_turn]
      simp [next, read, skip, remade, notFirst, notSecond]

theorem elements_remade (cs : List Char) :
    (remade make shape).readElements cs =
      (shape.readElements cs).map fun read => (make read.1, read.2) := by
  have made (a : Option α) (b : Option β) :
      (remade make shape).ofList a b = make <$> shape.ofList a b := rfl
  show _ = (fun read : γ × List Char => (make read.1, read.2)) <$> _
  simp only [Shape.readElements, map_bind]
  apply bind_congr
  intro next
  cases next with
  | closed rest => simp [made]
  | item rest =>
      simp only [map_bind]
      apply bind_congr
      intro first
      apply bind_congr
      intro next
      cases next with
      | closed rest => simp [made]
      | item rest =>
          have second : (remade make shape).readSecond = shape.readSecond := rfl
          simp [made, second]

theorem read_remade (cs : List Char) :
    (remade make shape).read cs = (shape.read cs).map fun read => (make read.1, read.2) := by
  simp only [Shape.read]
  split
  · rfl
  · exact members_remade make shape false none none _
  · exact elements_remade make shape _
  · rfl

theorem readAll_remade (text : String) :
    readAll (remade make shape).read text = (readAll shape.read text).map make := by
  rw [readAll, readAll, read_remade]
  cases shape.read text.toList with
  | error failure => rfl
  | ok read =>
      simp only [Except.map]
      split <;> rfl

end FlashStore.JsonShapes

/-! Exact structures -/

namespace FlashStore.JsonObjects
open Json JsonGrammar JsonNumbers JsonShapes JsonStrings JsonSkips JsonReaders TextReaders

-- Members.

def valuesOf (name : String) (members : List Member) : List (List Char) :=
  (members.filter fun member => member.name = some name).map Member.value

theorem valuesOf_cons (name : String) (member : Member) (members : List Member) :
    valuesOf name (member :: members) = valuesOf name [member] ++ valuesOf name members := by
  by_cases same : member.name = some name <;> simp [valuesOf, same]

section Found
variable {α : Type} (Means : List Char → α → Prop)

/-- What is found at last if these values come and this much is found already. A value means what is
found, and none may come when something is. -/
def Found : List (List Char) → Option α → Option α → Prop
  | [], before, after => after = before
  | v :: values, before, after =>
    before = none ∧ ∃ x, Means v x ∧ Found values (some x) after

theorem found_nil (before after : Option α) : Found Means [] before after ↔ after = before := Iff.rfl

theorem found_append (values others : List (List Char)) (before after : Option α) :
    Found Means (values ++ others) before after ↔
      ∃ middle, Found Means values before middle ∧ Found Means others middle after := by
  induction values generalizing before with
  | nil => simp [Found]
  | cons v values ih =>
      simp only [List.cons_append, Found, ih]
      constructor
      · rintro ⟨none, x, means, middle, left, right⟩
        exact ⟨middle, ⟨none, x, means, left⟩, right⟩
      · rintro ⟨middle, ⟨none, x, means, left⟩, right⟩
        exact ⟨none, x, means, middle, left, right⟩

theorem found_iff (values : List (List Char)) (after : Option α) :
    Found Means values none after ↔ List.Forall₂ Means values after.toList := by
  cases values with
  | nil => cases after <;> simp [Found]
  | cons v values =>
      cases values with
      | nil => cases after <;> simp [Found]
      | cons w values => cases after <;> simp [Found]

theorem known_read {β : Type} (read : Reader α) (exact : Exact read Means) (name : String)
    (blank v rest : List Char) (nothing : Blank blank) (value : Value v) (ends : Ends rest)
    (before : Option α) (later : Option α → List Char → Except ReadError β) (last : β) :
    (match before with
      | some _ => Except.error (ReadError.mismatch (.repeatedMember name))
      | none =>
        match read (blank ++ (v ++ rest)) with
        | .error failure => .error failure
        | .ok (x, behind) => later (some x) behind) = .ok last ↔
      ∃ after, Found Means [v] before after ∧ later after rest = .ok last := by
  cases before with
  | some old => simp [Found]
  | none =>
      have meant := exact_then read Means exact blank v rest nothing value ends
        (fun x behind => later (some x) behind) last
      exact meant.trans (by simp [Found])
end Found

section Objects
variable {α β γ : Type} (shape : Shape α β γ) (First : List Char → α → Prop)
  (Second : List Char → β → Prop)

/-- What a structure makes of the members of an object behind what is found already. -/
def Makes (members : List Member) (a : Option α) (b : Option β) (made : γ) : Prop :=
  (∀ member ∈ members, member.name ≠ none) ∧
    ∃ x y, Found First (valuesOf shape.first members) a x ∧
      Found Second (valuesOf shape.second members) b y ∧ shape.ofObject x y = .ok made

theorem makes_nil (a : Option α) (b : Option β) (made : γ) :
    Makes shape First Second [] a b made ↔ shape.ofObject a b = .ok made := by
  simp [Makes, valuesOf, Found]

theorem makes_cons (member : Member) (members : List Member) (a : Option α) (b : Option β) (made : γ) :
    Makes shape First Second (member :: members) a b made ↔
      member.name ≠ none ∧ ∃ x y, Found First (valuesOf shape.first [member]) a x ∧
        Found Second (valuesOf shape.second [member]) b y ∧
        Makes shape First Second members x y made := by
  simp only [Makes, List.forall_mem_cons, valuesOf_cons _ member members, found_append]
  constructor
  · rintro ⟨⟨named, others⟩, x, y, ⟨p, firstFound, firstLeft⟩, ⟨q, secondFound, secondLeft⟩, makes⟩
    exact ⟨named, p, q, firstFound, secondFound, others, x, y, firstLeft, secondLeft, makes⟩
  · rintro ⟨named, p, q, firstFound, secondFound, others, x, y, firstLeft, secondLeft, makes⟩
    exact ⟨⟨named, others⟩, x, y, ⟨p, firstFound, firstLeft⟩, ⟨q, secondFound, secondLeft⟩, makes⟩

theorem members_closed (afterMember : Bool) (a : Option α) (b : Option β) (blank rest behind : List Char)
    (made : γ) (nothing : Blank blank) :
    shape.readMembers afterMember a b (blank ++ '}' :: rest) = .ok (made, behind) ↔
      Makes shape First Second [] a b made ∧ behind = rest := by
  have closed : shape.readMembers afterMember a b (blank ++ '}' :: rest) =
      (shape.ofObject a b).map fun made => (made, rest) := by
    rw [members_turn, nextName, found_behind _ _ _ nothing (by decide)]
    rfl
  rw [closed, makes_nil, map_ok_iff]
  simp [eq_comm]

theorem members_comma (members : List Member) (s after rest : List Char) (a : Option α) (b : Option β)
    (inside : Members members s) (others : members ≠ []) (back : Blank after) :
    shape.readMembers true a b (after ++ ',' :: (s ++ '}' :: rest)) =
      shape.readMembers false a b (s ++ '}' :: rest) := by
  obtain ⟨c, behind, found, _, _, noBrace⟩ := members_open members s ('}' :: rest) inside others
  have same : nextName true (after ++ ',' :: (s ++ '}' :: rest)) =
      nextName false (s ++ '}' :: rest) := by
    rw [nextName, nextName, found_behind _ _ _ back (by decide), found]
    have again : skipBlank (c :: behind) = c :: behind := by rw [← found, skipBlank_twice]
    simp [afterComma, again, found]
  rw [members_turn, same, ← members_turn]

theorem name_found (before cs : List Char) (front : Blank before) :
    nextName false (before ++ '"' :: cs) = .ok (.item cs) := by
  have quote := found_here cs '"' (by decide)
  rw [nextName, found_behind _ _ _ front (by decide)]
  simp [afterComma, quote]

theorem colon_passed (middle cs : List Char) (inner : Blank middle) :
    readColon (middle ++ ':' :: cs) = .ok cs := by
  rw [readColon, found_behind _ _ _ inner (by decide)]
  rfl

section Members
variable (first : Exact shape.readFirst First) (second : Exact shape.readSecond Second)
  (distinct : shape.first ≠ shape.second)
include first second distinct

theorem member_read (name : Option String) (key v rest : List Char) (a : Option α) (b : Option β)
    (last : γ × List Char) (front : Key name key) (value : Value v) (ends : Ends rest) :
    shape.readMembers false a b (key ++ (v ++ rest)) = .ok last ↔
      name ≠ none ∧ ∃ x y, Found First (valuesOf shape.first [⟨name, v⟩]) a x ∧
        Found Second (valuesOf shape.second [⟨name, v⟩]) b y ∧
        shape.readMembers true x y rest = .ok last := by
  cases front with
  | @mk before s middle after _ front named inner back =>
      simp only [List.append_assoc, List.cons_append]
      rw [members_turn, name_found _ _ front]
      have read := named_read_iff s (middle ++ ':' :: (after ++ (v ++ rest)))
      dsimp only
      cases name with
      | none =>
          have broken (text : String) (behind : List Char) := (read behind none text named).mp
          split
          · simp
          · next text behind answer => cases (broken text behind answer).1
      | some text =>
          have counted (name : String) :
              valuesOf name [⟨some text, v⟩] = if text = name then [v] else [] := by
            split <;> simp_all [valuesOf]
          rw [(read _ (some text) text named).mpr ⟨rfl, rfl⟩, counted, counted]
          simp only [readMember, skipMember, colon_passed _ _ inner,
            value_passed after v rest back value ends]
          by_cases isFirst : text = shape.first
          · have notSecond : text ≠ shape.second := isFirst ▸ distinct
            simp only [if_pos isFirst, if_neg notSecond, found_nil]
            refine (known_read First _ first text after v rest back value ends a
              (fun x rest => shape.readMembers true x b rest) last).trans ?_
            simp
          by_cases isSecond : text = shape.second
          · simp only [if_pos isSecond, if_neg isFirst, found_nil]
            refine (known_read Second _ second text after v rest back value ends b
              (fun y rest => shape.readMembers true a y rest) last).trans ?_
            simp
          · simp [if_neg isFirst, if_neg isSecond, found_nil]

theorem member_makes (name : Option String) (members : List Member) (key v rest last behind : List Char)
    (a : Option α) (b : Option β) (made : γ) (front : Key name key) (value : Value v)
    (ends : Ends rest)
    (others : ∀ x y, shape.readMembers true x y rest = .ok (made, behind) ↔
      Makes shape First Second members x y made ∧ behind = last) :
    shape.readMembers false a b (key ++ (v ++ rest)) = .ok (made, behind) ↔
      Makes shape First Second (⟨name, v⟩ :: members) a b made ∧ behind = last := by
  rw [member_read shape First Second first second distinct name key v rest a b _ front value ends,
    makes_cons]
  simp only [others]
  tauto

/-- The members of an object make what their values mean, and are read to the brace behind them. -/
theorem members_read (members : List Member) (s rest behind : List Char) (a : Option α)
    (b : Option β) (made : γ) (inside : Members members s) :
    shape.readMembers false a b (s ++ '}' :: rest) = .ok (made, behind) ↔
      Makes shape First Second members a b made ∧ behind = rest := by
  -- The members follow one another as the text is derived, whatever is found before them.
  match inside with
  | .none nothing => exact members_closed shape First Second false a b s rest behind made nothing
  | .one key value back =>
    simp only [List.append_assoc]
    exact member_makes shape First Second first second distinct _ _ _ _ _ rest behind a b made key
      value (ends_behind _ _ _ back (by decide)) fun x y =>
        members_closed shape First Second true x y _ rest behind made back
  | .more key value back tail others =>
    simp only [List.append_assoc, List.cons_append]
    refine member_makes shape First Second first second distinct _ _ _ _ _ rest behind a b made key
      value (ends_behind _ _ _ back (by decide)) fun x y => ?_
    rw [members_comma shape _ _ _ rest x y tail others back]
    exact members_read _ _ rest behind x y made tail

end Members
end Objects

section Lists
variable {α β γ : Type} (shape : Shape α β γ) (First : List Char → α → Prop)
  (Second : List Char → β → Prop)

def MakesBehind (x : α) : List (List Char) → γ → Prop
  | [], made => shape.ofList (some x) none = .ok made
  | [w], made => ∃ y, Second w y ∧ shape.ofList (some x) (some y) = .ok made
  | _ :: _ :: _, _ => False

def MakesOfList : List (List Char) → γ → Prop
  | [], made => shape.ofList none none = .ok made
  | v :: values, made => ∃ x, First v x ∧ MakesBehind shape Second x values made

theorem long_makes (x : α) (w : List Char) (values : List (List Char)) (made : γ)
    (several : values ≠ []) : ¬ MakesBehind shape Second x (w :: values) made := by
  cases values with
  | nil => exact absurd rfl several
  | cons u values => exact id

theorem element_closed (afterElement : Bool) (blank rest : List Char) (nothing : Blank blank) :
    nextElement afterElement (blank ++ ']' :: rest) = .ok (.closed rest) := by
  rw [nextElement, found_behind _ _ _ nothing (by decide)]
  rfl

theorem element_found (blank v rest : List Char) (nothing : Blank blank) (value : Value v) :
    nextElement false (blank ++ (v ++ rest)) = .ok (.item (v ++ rest)) := by
  obtain ⟨c, tail, rfl, solid, noBracket, _⟩ := value_opens v value
  have again := found_here (tail ++ rest) c solid
  rw [nextElement, List.cons_append, found_behind _ _ _ nothing solid]
  simp [noBracket, afterComma, again]

theorem element_comma (after blank v rest : List Char) (back : Blank after) (nothing : Blank blank)
    (value : Value v) :
    nextElement true (after ++ ',' :: (blank ++ (v ++ rest))) = .ok (.item (v ++ rest)) := by
  obtain ⟨c, tail, rfl, solid, noBracket, _⟩ := value_opens v value
  rw [nextElement, found_behind _ _ _ back (by decide)]
  simp [noBracket, afterComma, found_behind _ _ _ nothing solid]

theorem made_here (answer : Except ReadError γ) (made : γ) (rest behind : List Char) :
    (do return (← answer, rest) : Except ReadError (γ × List Char)) = .ok (made, behind) ↔
      answer = .ok made ∧ behind = rest := by
  rw [bind_ok_iff]
  simp [pure, Except.pure, eq_comm]

theorem list_closed (blank rest : List Char) (nothing : Blank blank) :
    closeList (blank ++ ']' :: rest) = .ok rest := by
  rw [closeList, found_behind _ _ _ nothing (by decide)]
  rfl

theorem list_open (blank rest : List Char) (nothing : Blank blank) :
    closeList (blank ++ ',' :: rest) = .error .malformed := by
  rw [closeList, found_behind _ _ _ nothing (by decide)]
  rfl

theorem elements_read (first : Exact shape.readFirst First) (second : Exact shape.readSecond Second)
    (values : List (List Char)) (s rest behind : List Char) (made : γ)
    (elements : Elements values s) :
    shape.readElements (s ++ ']' :: rest) = .ok (made, behind) ↔
      MakesOfList shape First Second values made ∧ behind = rest := by
  rw [Shape.readElements]
  cases elements with
  | none nothing =>
      rw [element_closed _ _ _ nothing]
      exact made_here _ made rest behind
  | one front value back =>
      have ends := ends_behind _ rest ']' back (by decide)
      simp only [List.append_assoc]
      rw [element_found _ _ _ front value]
      refine exact_bind _ First first _ _ value ends _ _ _ _ fun x => ?_
      simp only [element_closed _ _ _ back]
      exact made_here _ made rest behind
  | more front value back tail others =>
      have ends (cs : List Char) := ends_behind _ cs ',' back (by decide)
      simp only [List.append_assoc, List.cons_append]
      rw [element_found _ _ _ front value]
      refine exact_bind _ First first _ _ value (ends _) _ _ _ _ fun x => ?_
      cases tail with
      | none => exact absurd rfl others
      | one front other last =>
          have stops := ends_behind _ rest ']' last (by decide)
          simp only [List.append_assoc, element_comma _ _ _ _ back front other]
          refine exact_bind _ Second second _ _ other stops _ _ _ _ fun y => ?_
          simp only [list_closed _ rest last]
          exact made_here _ made rest behind
      | more front other last _ several =>
          have stops (cs : List Char) := ends_behind _ cs ',' last (by decide)
          simp only [List.append_assoc, List.cons_append, element_comma _ _ _ _ back front other]
          refine (exact_bind _ Second second _ _ other (stops _) _ _ (fun _ => False) (behind = rest)
            fun y => ?_).trans (by simp [long_makes shape Second x _ _ made several])
          simp only [list_open _ _ last]
          cases shape.ofList (some x) (some y) <;> simp [bind, Except.bind]
end Lists

section Texts
variable {α β γ : Type}

theorem whole_read (read : Reader γ) (Made : γ → Prop) (cs after : List Char) (back : Blank after)
    (reads : ∀ made behind, read cs = .ok (made, behind) ↔ Made made ∧ behind = after) (made : γ) :
    readAll read (String.ofList cs) = .ok made ↔ Made made := by
  have nothing : skipBlank after = [] := by
    have skipped := blank_skipped after [] back
    rwa [List.append_nil] at skipped
  rw [readAll, String.toList_ofList]
  constructor
  · intro whole
    split at whole
    · cases whole
    · next found behind answer =>
      obtain ⟨makes, rfl⟩ := (reads found behind).mp answer
      rw [nothing] at whole
      cases whole
      exact makes
  · intro makes
    rw [(reads made after).mpr ⟨makes, rfl⟩]
    simp [nothing]

variable (shape : Shape α β γ) (First : List Char → α → Prop) (Second : List Char → β → Prop)
  (first : Exact shape.readFirst First) (second : Exact shape.readSecond Second) (text : String)
  (made : γ)
include first second

theorem object_text_read (distinct : shape.first ≠ shape.second) (members : List Member)
    (object : ObjectText members text) :
    readAll shape.read text = .ok made ↔
      (∀ member ∈ members, member.name ≠ none) ∧
        ∃ x y, List.Forall₂ First (valuesOf shape.first members) x.toList ∧
          List.Forall₂ Second (valuesOf shape.second members) y.toList ∧
          shape.ofObject x y = .ok made := by
  simp only [← found_iff]
  obtain ⟨front, inside, back⟩ := object
  refine whole_read _ (Makes shape First Second members none none) _ _ back (fun made behind => ?_) made
  rw [Shape.read, found_behind _ _ _ front (by decide)]
  exact members_read shape First Second first second distinct members _ _ behind none none made inside

theorem list_text_read (values : List (List Char)) (list : ListText values text) :
    readAll shape.read text = .ok made ↔ MakesOfList shape First Second values made := by
  obtain ⟨front, inside, back⟩ := list
  refine whole_read _ (MakesOfList shape First Second values) _ _ back (fun made behind => ?_) made
  rw [Shape.read, found_behind _ _ _ front (by decide)]
  exact elements_read shape First Second first second values _ _ behind made inside
end Texts

-- Writing.

theorem written_key (name : String) : Key (some name) (writtenText name ++ [':']) := by
  convert Key.mk blank_nil (.text (written_spelled name.toList)) blank_nil blank_nil using 1
  simp [writtenText]

theorem pair_object (first second : String) (a b : List Char) (one : Value a) (other : Value b) :
    ObjectText [⟨some first, a⟩, ⟨some second, b⟩] (writtenPair first second a b) := by
  have last := Members.one (written_key second) other blank_nil
  have inside := Members.more (written_key first) one blank_nil last (by simp)
  convert ObjectText.mk blank_nil inside blank_nil using 1
  simp [writtenPair]

end FlashStore.JsonObjects
