import FlashStore.Request

/-!
Which events are shown. A filter is a list of directives, written with commas between them:
`level`, `target`, `target=level`, and with a span in brackets before the equals sign, which may
name a field in braces. A directive is for the events whose source starts with its target and which
have the field it names. The one with the longest target decides, and of several as long the one
whose field comes last in order. No event here is inside a span, so a directive that asks for a
span, or for the value of a field, decides nothing.

A field's value has to be a pattern, that is, a regular expression from which an automaton over bytes
can be built. Only this is decided; nothing is matched here. No pattern here holds a closing brace, so
one that opens a brace has no end. Characters are taken as they stand: there are no tables of cases
and classes, so what needs one (a letter in any case, a digit or a word's edge among all characters)
makes no automaton. With the switch `u` turned off the same is asked about bytes, where nothing may
reach beyond ASCII. And a pattern is at most 250 levels deep.
-/

namespace FlashStore.Text.Pattern

/-- The switches in force: letters in any case (`i`), characters rather than bytes (`u`), and
blanks and comments that do not count (`x`). The other switches change only what is matched. -/
structure Switches where
  anyCase : Bool := false
  characters : Bool := true
  spaced : Bool := false
  deriving DecidableEq, Repr

def dropSpace (inComment : Bool) : List Char → List Char
  | [] => []
  | c :: rest =>
    if inComment then dropSpace (c != '\n') rest
    else if isBlank c then dropSpace false rest
    else if c = '#' then dropSpace true rest
    else c :: rest

def Switches.skip (switches : Switches) (cs : List Char) : List Char :=
  if switches.spaced then dropSpace false cs else cs

/-- What one place of a pattern can hold. A literal may be given by the number of a byte. -/
inductive Atom where
  | literal (c : Char) (byByte : Bool)
  | kind (negated : Bool)
  | property
  | edge (ofWord : Bool)
  deriving DecidableEq, Repr

def Atom.isBuildable (switches : Switches) : Atom → Bool
  | literal c byByte =>
    if switches.characters then !switches.anyCase else !(byByte && 0x80 ≤ c.toNat)
  | kind negated => !switches.characters && !negated
  | property => false
  | edge ofWord => !(ofWord && switches.characters)

def Atom.fitsClass (switches : Switches) : Atom → Bool
  | literal c _ => if switches.characters then !switches.anyCase else c.toNat < 0x80
  | kind negated => !switches.characters && !negated
  | property => false
  | edge _ => false

def hexDigit? (c : Char) : Option Nat :=
  if c.isDigit then some (c.toNat - '0'.toNat)
  else if 'a' ≤ c ∧ c ≤ 'f' then some (c.toNat - 'a'.toNat + 10)
  else if 'A' ≤ c ∧ c ≤ 'F' then some (c.toNat - 'A'.toNat + 10)
  else none

def readHex (switches : Switches) : Nat → Nat → List Char → Option (Nat × List Char)
  | 0, n, cs => some (n, cs)
  | count + 1, n, cs =>
    match switches.skip cs with
    | [] => none
    | c :: rest => (hexDigit? c).bind fun d => readHex switches count (16 * n + d) rest

def readNumbered (switches : Switches) (digits : Nat) (byByte : Bool) (cs : List Char) :
    Option (Atom × List Char) :=
  match readHex switches digits 0 cs with
  | none => none
  | some (n, rest) => if n.isValidChar then some (.literal (Char.ofNat n) byByte, rest) else none

/-- Reads on after a backslash. Before a letter or digit it has a meaning or is refused; all other
ASCII characters may stand for themselves behind one. -/
def readEscape (switches : Switches) : List Char → Option (Atom × List Char)
  | [] => none
  | c :: rest =>
    match c with
    | 'x' => readNumbered switches 2 true rest
    | 'u' => readNumbered switches 4 false rest
    | 'U' => readNumbered switches 8 false rest
    | 'p' | 'P' => some (.property, rest)
    | 'd' | 's' | 'w' => some (.kind false, rest)
    | 'D' | 'S' | 'W' => some (.kind true, rest)
    | 'b' | 'B' | '<' | '>' => some (.edge true, rest)
    | 'A' | 'z' => some (.edge false, rest)
    | 'a' => some (.literal '\x07' false, rest)
    | 't' => some (.literal '\t' false, rest)
    | 'n' => some (.literal '\n' false, rest)
    | 'v' => some (.literal '\x0b' false, rest)
    | 'f' => some (.literal '\x0c' false, rest)
    | 'r' => some (.literal '\r' false, rest)
    | _ => if c.toNat < 0x80 && !c.isAlphanum then some (.literal c false, rest) else none

/-! Depth -/

structure Siblings where
  count : Nat := 0
  deepest : Nat := 0
  deriving DecidableEq, Repr

def Siblings.add (siblings : Siblings) (depth : Nat) : Siblings :=
  ⟨siblings.count + 1, max siblings.deepest depth⟩

/-- Two or more together are a level of their own. -/
def Siblings.depth (siblings : Siblings) : Nat :=
  if siblings.count < 2 then siblings.deepest else siblings.deepest + 1

def deepestAllowed : Nat := 250

/-! Classes in brackets -/

def classNames : List String :=
  ["alnum", "alpha", "ascii", "blank", "cntrl", "digit", "graph", "lower", "print", "punct",
    "space", "upper", "word", "xdigit"]

def readNamed? : List Char → Option (Bool × List Char)
  | ':' :: rest =>
    let negated := rest.head? == some '^'
    let rest := if negated then rest.drop 1 else rest
    let name := rest.takeWhile (· != ':')
    match rest.drop name.length with
    | ':' :: ']' :: rest =>
      if classNames.contains (String.ofList name) then some (negated, rest) else none
    | _ => none
  | _ => none

def readDashes (switches : Switches) : Nat → List Char → Nat × List Char
  | 0, cs => (0, cs)
  | fuel + 1, cs =>
    match switches.skip cs with
    | '-' :: rest =>
      let (count, rest) := readDashes switches fuel rest
      (count + 1, rest)
    | cs => (0, cs)

/-- Reads on after the bracket that opens a class: a negation, which bytes do not have, then any
dashes, or else a closing bracket that stands for itself. -/
def openClass (switches : Switches) (cs : List Char) : Option (Siblings × List Char) := do
  let cs := switches.skip cs
  let negated := cs.head? == some '^'
  guard (switches.characters || !negated)
  let (dashes, rest) := readDashes switches cs.length (if negated then cs.drop 1 else cs)
  let (literals, rest) := match dashes, rest with
    | 0, ']' :: rest => (1, rest)
    | _, _ => (dashes, rest)
  guard (literals == 0 || (Atom.literal '-' false).fitsClass switches)
  guard (!rest.isEmpty)
  return (⟨literals, 0⟩, rest)

def readClassAtom (switches : Switches) : List Char → Option (Atom × List Char)
  | [] => none
  | '\\' :: rest => readEscape switches rest
  | c :: rest => some (.literal c false, rest)

/-- The character by which a dash is told from the dash of a range. Blanks before it do not count,
nor does the sign that begins a comment, but the comment itself does. -/
def behindDash? (switches : Switches) (cs : List Char) : Option Char :=
  if ¬ switches.spaced then cs.head?
  else
    match cs.dropWhile isBlank with
    | '#' :: rest => (rest.dropWhile isBlank).head?
    | rest => rest.head?

def readRange (switches : Switches) (cs : List Char) : Option (List Char) := do
  let (first, rest) ← readClassAtom switches cs
  guard (first.fitsClass switches)
  match switches.skip rest with
  | '-' :: more =>
    match behindDash? switches more with
    | some ']' | some '-' => some rest
    | _ =>
      let (last, rest) ← readClassAtom switches (switches.skip more)
      guard (last.fitsClass switches)
      match first, last with
      | .literal a _, .literal b _ => if a ≤ b then some rest else none
      | _, _ => none
  | rest => some rest

/-- An open class: the depth of what stands before its last operator, and the items behind it. -/
structure ClassLevel where
  before : Option Nat := none
  items : Siblings := {}
  deriving DecidableEq, Repr

def ClassLevel.depth (level : ClassLevel) : Nat :=
  match level.before with
  | none => level.items.depth
  | some before => max before level.items.depth + 1

def ClassLevel.add (level : ClassLevel) (depth : Nat) : ClassLevel :=
  { level with items := level.items.add depth }

/-- Reads on inside of a class, with the classes around it, to behind the end of the outermost one;
gives its depth. -/
def readClass (switches : Switches) :
    Nat → List ClassLevel → ClassLevel → List Char → Option (Nat × List Char)
  | 0, _, _, _ => none
  | fuel + 1, around, level, cs =>
    let readOperator (rest : List Char) :=
      readClass switches fuel around { before := some level.depth } rest
    match switches.skip cs with
    | [] => none
    | '[' :: rest =>
      match readNamed? rest with
      | some (negated, rest) =>
        if if switches.characters then switches.anyCase else negated then none
        else readClass switches fuel around (level.add 0) rest
      | none =>
        match openClass switches rest with
        | none => none
        | some (items, rest) => readClass switches fuel (level :: around) { items } rest
    | ']' :: rest =>
      match around with
      | [] => some (level.depth + 1, rest)
      | outer :: around => readClass switches fuel around (outer.add (level.depth + 1)) rest
    | '&' :: '&' :: rest => readOperator rest
    | '-' :: '-' :: rest => readOperator rest
    | '~' :: '~' :: rest => readOperator rest
    | cs =>
      match readRange switches cs with
      | none => none
      | some rest => readClass switches fuel around (level.add 0) rest

/-! Groups -/

structure Setting where
  switches : Switches
  seen : List Char := []
  negated : Bool := false
  deriving DecidableEq, Repr

def Setting.add? (setting : Setting) (c : Char) : Option Setting :=
  if setting.seen.contains c || !"imsUuRx-".toList.contains c then none
  else
    let seen := c :: setting.seen
    let on := !setting.negated
    some <| match c with
      | '-' => { setting with seen, negated := true }
      | 'i' => { setting with seen, switches := { setting.switches with anyCase := on } }
      | 'u' => { setting with seen, switches := { setting.switches with characters := on } }
      | 'x' => { setting with seen, switches := { setting.switches with spaced := on } }
      | _ => { setting with seen }

def readSetting (setting : Setting) : List Char → Option (Setting × List Char)
  | [] => none
  | c :: rest =>
    if c = ':' ∨ c = ')' then
      if setting.seen.head? = some '-' then none else some (setting, c :: rest)
    else (setting.add? c).bind fun setting => readSetting setting rest

def isNameCharacter (c : Char) : Bool :=
  isAlphanumeric c || c == '_' || c == '.' || c == '[' || c == ']'

def readName (cs : List Char) : Option (List Char × List Char) :=
  let name := cs.takeWhile (· != '>')
  match name, cs.drop name.length with
  | c :: _, '>' :: rest =>
    if (isAlphabetic c || c == '_') && name.all isNameCharacter then some (name, rest) else none
  | _, _ => none

/-- What an opening parenthesis begins: a group with switches of its own and perhaps a name, or a
setting for the rest of the group it stands in. -/
inductive Opening where
  | group (switches : Switches) (name : Option (List Char))
  | setting (switches : Switches)
  deriving DecidableEq, Repr

def readOpening (switches : Switches) (cs : List Char) : Option (Opening × List Char) :=
  match switches.skip cs with
  | '?' :: 'P' :: '<' :: rest =>
    (readName rest).map fun (name, rest) => (.group switches (some name), rest)
  | '?' :: '<' :: rest =>
    (readName rest).map fun (name, rest) => (.group switches (some name), rest)
  | '?' :: rest =>
    match readSetting { switches } rest with
    | some (setting, ':' :: rest) => some (.group setting.switches none, rest)
    | some (setting, _ :: rest) =>
      if setting.seen.isEmpty then none else some (.setting setting.switches, rest)
    | _ => none
  | rest => some (.group switches none, rest)

/-- A group that is read: the switches in force, the alternative that is read with its parts so
far, and the depth of the alternatives before it. -/
structure Level where
  switches : Switches := {}
  parts : Siblings := {}
  before : Option Nat := none
  deriving DecidableEq, Repr

def Level.depth (level : Level) : Nat :=
  match level.before with
  | none => level.parts.depth
  | some before => max before level.parts.depth + 1

def Level.nextAlternative (level : Level) : Level :=
  { level with parts := {}, before := some (max (level.before.getD 0) level.parts.depth) }

/-- Where the reading of a pattern stands: the innermost open group and those around it, the names
of groups, and the depth of what stands before, if it can be repeated. -/
structure Progress where
  level : Level := {}
  around : List Level := []
  names : List (List Char) := []
  repeatable : Option Nat := none
  deriving DecidableEq, Repr

def Progress.add (progress : Progress) (depth : Nat) : Progress :=
  { progress with
    level := { progress.level with parts := progress.level.parts.add depth }
    repeatable := some depth }

def Progress.repeated (progress : Progress) (depth : Nat) : Progress :=
  let parts := progress.level.parts
  { progress with
    level := { progress.level with parts := ⟨parts.count, max parts.deepest (depth + 1)⟩ }
    repeatable := some (depth + 1) }

def Progress.opening (progress : Progress) : Opening → Option Progress
  | .setting switches =>
    let level := progress.level
    some { progress with
      level := { level with switches, parts := level.parts.add 0 }
      repeatable := none }
  | .group switches name =>
    let inside := { progress with
      level := { switches }
      around := progress.level :: progress.around
      repeatable := none }
    match name with
    | none => some inside
    | some name =>
      if progress.names.contains name then none
      else some { inside with names := name :: progress.names }

def Progress.closing (progress : Progress) : Option Progress :=
  match progress.around with
  | [] => none
  | outer :: around =>
    some ({ progress with level := outer, around }.add (progress.level.depth + 1))

def Progress.step (progress : Progress) (c : Char) (rest : List Char) :
    Option (Progress × List Char) :=
  let switches := progress.level.switches
  match c with
  | '(' =>
    match readOpening switches rest with
    | none => none
    | some (opening, rest) => (progress.opening opening).map fun progress => (progress, rest)
  | ')' => progress.closing.map fun progress => (progress, rest)
  | '|' =>
    let level := progress.level.nextAlternative
    some ({ progress with level, repeatable := none }, rest)
  | '[' =>
    match openClass switches rest with
    | none => none
    | some (items, rest) =>
      (readClass switches rest.length [] { items } rest).map fun (depth, rest) =>
        (progress.add depth, rest)
  | '?' | '*' | '+' =>
    progress.repeatable.map fun depth =>
      (progress.repeated depth, if rest.head? = some '?' then rest.drop 1 else rest)
  | '\x7b' => none
  | '.' => if switches.characters then some (progress.add 0, rest) else none
  | '^' | '$' => some (progress.add 0, rest)
  | '\\' =>
    match readEscape switches rest with
    | none => none
    | some (atom, rest) => if atom.isBuildable switches then some (progress.add 0, rest) else none
  | c =>
    if (Atom.literal c false).isBuildable switches then some (progress.add 0, rest) else none

def isPatternFrom : Nat → Progress → List Char → Bool
  | 0, _, _ => false
  | fuel + 1, progress, cs =>
    match progress.level.switches.skip cs with
    | [] => progress.around.isEmpty && progress.level.depth ≤ deepestAllowed
    | c :: rest =>
      match progress.step c rest with
      | none => false
      | some (progress, rest) => isPatternFrom fuel progress rest

end Pattern

def isPattern (cs : List Char) : Bool := Pattern.isPatternFrom (cs.length + 1) {} cs

end FlashStore.Text

/-! Directives -/

namespace FlashStore

abbrev Verbosity := Option Level

namespace Verbosity

def shows (verbosity : Verbosity) (level : Level) : Bool :=
  match verbosity with
  | none => false
  | some most => level.rank ≤ most.rank

def ofNumber? : Nat → Option Verbosity
  | 0 => some none
  | 1 => some (some .error)
  | 2 => some (some .warn)
  | 3 => some (some .info)
  | 4 => some (some .debug)
  | 5 => some (some .trace)
  | _ => none

def ofText? (text : List Char) : Option Verbosity :=
  match Text.readNatural text with
  | .ok n => ofNumber? n
  | .error _ =>
    match (String.ofList text).toLower with
    | "" => some (some .error)
    | "error" => some (some .error)
    | "warn" => some (some .warn)
    | "info" => some (some .info)
    | "debug" => some (some .debug)
    | "trace" => some (some .trace)
    | "off" => some none
    | _ => none

end Verbosity

/-- A directive. `deciding` is false when it asks for a span or for a field's value. -/
structure Directive where
  target : List Char := []
  field : Option (List Char) := none
  deciding : Bool := true
  verbosity : Verbosity := some .trace
  deriving DecidableEq, Repr

namespace Directive

/-! Values of fields -/

def isDecimal (cs : List Char) : Bool :=
  let whole := cs.takeWhile Char.isDigit
  let (fraction, rest) := match cs.drop whole.length with
    | '.' :: rest => (rest.takeWhile Char.isDigit, rest.dropWhile Char.isDigit)
    | rest => ([], rest)
  let power := match rest with
    | [] => true
    | e :: power =>
      let digits := match power with
        | '+' :: digits => digits
        | '-' :: digits => digits
        | digits => digits
      (e == 'e' || e == 'E') && !digits.isEmpty && digits.all Char.isDigit
  !(whole.isEmpty && fraction.isEmpty) && power

/-- A number with a plus sign in front, which is a value though it is no pattern. -/
def isPlusNumber : List Char → Bool
  | '+' :: cs =>
    isDecimal cs || ["inf", "infinity", "nan"].contains (String.ofList cs).toLower
  | _ => false

/-- A value is a pattern, or a number or truth value, most of which are patterns too. -/
def isValue (cs : List Char) : Bool := isPlusNumber cs || Text.isPattern cs

/-- Why a text is no directive. The program cannot go on after a part that begins or ends inside of
a character; what is merely unreadable makes it use its standard filter. -/
inductive Fault where
  | unreadable
  | insideCharacter
  deriving DecidableEq, Repr

/-- Adds the field that stands in the braces: a name, and behind an equals sign a value. What a
second equals sign begins does not count. -/
def withField (directive : Directive) (text : List Char) : Except Fault Directive :=
  match text.splitOn '=' with
  | [] => .error .unreadable
  | [name] =>
    if name.isEmpty then .error .unreadable else .ok { directive with field := some name }
  | name :: value :: _ =>
    if isValue value then .ok { directive with field := some name, deciding := false }
    else .error .unreadable

/-! The parts of a directive

Where they lie is found in the text without the blanks around it. They are then cut out of the
whole text at these places, so blanks in front move every part, and blanks behind belong to the
last one. Places are counted in bytes. A part is cut out as soon as its end is found. -/

def width (cs : List Char) : Nat := cs.foldr (fun c n => c.utf8Size + n) 0

/-- Whether a place lies between two characters; the second byte of a character and those after it
are of the form `10xxxxxx`. -/
def isBetween (whole : Bytes) (place : Nat) : Bool :=
  match whole[place]? with
  | none => true
  | some byte => byte < 0x80 || 0xc0 ≤ byte

def part (whole : Bytes) (start stop : Nat) : Except Fault (List Char) :=
  if ¬ (isBetween whole start && isBetween whole stop) then .error .insideCharacter
  else
    match Bytes.toText? ((whole.take stop).drop start) with
    | none => .error .insideCharacter
    | some text => .ok text.toList

def withLevel (whole : Bytes) (start : Nat) (directive : Directive) : Except Fault Directive :=
  match part whole start whole.length with
  | .error fault => .error fault
  | .ok [] => .ok directive
  | .ok text =>
    match Verbosity.ofText? text with
    | none => .error .unreadable
    | some verbosity => .ok { directive with verbosity }

def afterSpan (whole : Bytes) (place : Nat) (directive : Directive) :
    List Char → Except Fault Directive
  | [] => .ok directive
  | '=' :: _ => directive.withLevel whole (place + 1)
  | _ => .error .unreadable

def withBraces (whole : Bytes) (place : Nat) (directive : Directive) (text : List Char) :
    Except Fault Directive := do
  let field := text.takeWhile (· != '}')
  let behindField := place + width field
  match text.drop field.length with
  | '}' :: rest =>
    let directive ← directive.withField (← part whole place behindField)
    match rest with
    | ']' :: rest => directive.afterSpan whole (behindField + 2) rest
    | _ => .error .unreadable
  | _ => .error .unreadable

def withSpan (whole : Bytes) (place : Nat) (directive : Directive) (text : List Char) :
    Except Fault Directive := do
  let name := text.takeWhile fun c => c != ']' && c != '{'
  let behindName := place + width name
  match text.drop name.length with
  | ']' :: rest =>
    let _ ← part whole place behindName
    { directive with deciding := false }.afterSpan whole (behindName + 1) rest
  | '{' :: rest =>
    let _ ← part whole place behindName
    { directive with deciding := name.isEmpty }.withBraces whole (behindName + 1) rest
  | _ => .error .unreadable

def startsTarget (c : Char) : Bool := Text.isAlphanumeric c || c == '-' || c == ':' || c == '_'

def ofText (text : List Char) : Except Fault Directive := do
  let whole := Bytes.ofText (String.ofList text)
  match Text.trim text with
  | [] => .error .unreadable
  | '[' :: rest => ({} : Directive).withSpan whole 1 rest
  | c :: rest =>
    if ¬ startsTarget c then .error .unreadable
    else
      let name := (c :: rest).takeWhile fun c => c != '=' && c != '['
      let behindName := width name
      match (c :: rest).drop name.length with
      | '=' :: _ =>
        let target ← part whole 0 behindName
        ({ target } : Directive).withLevel whole (behindName + 1)
      | '[' :: rest =>
        let target ← part whole 0 behindName
        ({ target } : Directive).withSpan whole (behindName + 1) rest
      | _ =>
        match Verbosity.ofText? text with
        | some verbosity => .ok { verbosity }
        | none => .ok { target := text }

def concerns (directive : Directive) (event : Event) : Bool :=
  directive.deciding && directive.target.isPrefixOf event.source.name.toList &&
    directive.field.all fun field =>
      field == "message".toList || event.fields.any fun given => given.1.toList == field

/-- The order of fields: a directive without one stands before all others, which stand in the
order of the names. -/
def fieldLe : Option (List Char) → Option (List Char) → Bool
  | none, _ => true
  | some _, none => false
  | some a, some b => !(b < a)

def overrides (directive other : Directive) : Bool :=
  other.target.length < directive.target.length ||
    (other.target.length == directive.target.length && fieldLe other.field directive.field)

end Directive

abbrev LogFilter := List Directive

namespace LogFilter

/-- The directives of a text, if all can be read; those between two commas in a row are left out. A
text without directives stands for errors only. -/
def ofText (text : String) : Except Directive.Fault LogFilter :=
  match (text.toList.splitOn ',').filter fun piece => !piece.isEmpty with
  | [] => .ok [{ verbosity := some .error }]
  | pieces => pieces.mapM Directive.ofText

def standard : LogFilter := [{ verbosity := some .info }]

def ofVariable? : Option String → Option LogFilter
  | none => some standard
  | some text =>
    match ofText text with
    | .ok filter => some filter
    | .error .unreadable => some standard
    | .error .insideCharacter => none

def shows (filter : LogFilter) (event : Event) : Bool :=
  let deciding := (filter.filter fun directive => directive.concerns event).foldl
    (fun best directive =>
      match best with
      | none => some directive
      | some other => if directive.overrides other then some directive else best) none
  match deciding with
  | none => false
  | some directive => directive.verbosity.shows event.level

end LogFilter

end FlashStore
