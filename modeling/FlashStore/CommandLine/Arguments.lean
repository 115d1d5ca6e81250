import FlashStore.Settings

/-!
The arguments of the smoke test's command line, and the texts that it shows about itself.

Arguments are taken from left to right. An option's value is the next argument, if that does not
start with a dash, or stands behind an equals sign. A value that came as its own argument is looked
at only when the next option begins or the arguments end, so an argument that is not understood is
reported first. After all arguments an environment variable may stand in for an option that was not
given. In the help each option has one entry: on the left its spelling, and on the right, two
columns behind the longest spelling, what it is for.

Marks such as colours are control sequences, which begin with the escape character. Where there is
no terminal they are left out, whoever put them into the text, and with them every control character
that is not white space. White space inside a sequence is kept. It suspends the sequence: text is
kept again up to the next control character, and there the sequence goes on.
-/

namespace FlashStore.Text.Terminal

def marked (codes : List String) (text : String) : String :=
  String.join (codes.map fun code => "\x1b[" ++ code ++ "m") ++ text ++ "\x1b[0m"

/-- Where a text stands: between sequences, behind the escape character, or in one of the kinds of
sequence. A control string is a title, which a bell ends, or a command to the device, which has
parameters and intermediate characters before it, or is plain. -/
inductive State where
  | text
  | escape
  | intermediate
  | sequence
  | title
  | command
  | commandParameters
  | commandIntermediate
  | string
  deriving DecidableEq, Repr

namespace State

/-- The byte that ends a control string may be a part of a character. -/
def endsString (c : Char) : Bool := (Bytes.ofText (String.singleton c)).contains 0x9c

def next (state : State) (c : Char) : State :=
  let n := c.toNat
  if n = 0x1b then escape
  else if n = 0x18 ∨ n = 0x1a then text
  else
    match state with
    | text => text
    | escape =>
      if n < 0x20 ∨ 0x7f ≤ n then escape
      else if n < 0x30 then intermediate
      else if c = '[' then sequence
      else if c = ']' then title
      else if c = 'P' then command
      else if c = 'X' ∨ c = '^' ∨ c = '_' then string
      else text
    | intermediate => if 0x30 ≤ n ∧ n < 0x7f then text else intermediate
    | sequence => if 0x40 ≤ n ∧ n < 0x7f then text else sequence
    | title => if n = 0x07 then text else title
    | command =>
      if n < 0x20 ∨ 0x7f ≤ n then command
      else if n < 0x30 then commandIntermediate
      else if n < 0x40 then commandParameters
      else string
    | commandParameters =>
      if n < 0x20 ∨ 0x7f ≤ n then commandParameters
      else if n < 0x30 then commandIntermediate
      else if n < 0x3c then commandParameters
      else string
    | commandIntermediate => if 0x30 ≤ n ∧ n < 0x7f then string else commandIntermediate
    | string => if endsString c then text else string

def keeps (state : State) (c : Char) : Bool :=
  if c = '\t' ∨ c = '\n' ∨ c = '\x0c' ∨ c = '\r' then
    match state with
    | text | escape | intermediate | sequence => true
    | _ => false
  else state == text && 0x20 ≤ c.toNat && c.toNat != 0x7f

end State

def keptFrom (state : State) (suspended : Bool) : List Char → List Char
  | [] => []
  | c :: rest =>
    if suspended && State.text.keeps c then
      c :: keptFrom (if c.toNat < 0x80 then state else .text) true rest
    else if state.keeps c then
      c :: keptFrom (state.next c) true rest
    else
      keptFrom (state.next c) false rest

def withoutMarks (text : String) : String := String.ofList (keptFrom .text false text.toList)

end FlashStore.Text.Terminal

/-! Arguments -/

namespace FlashStore.CommandLine

inductive OptionName where
  | backend
  | shardAmount
  | keys
  | config
  deriving DecidableEq, Repr

def OptionName.all : List OptionName := [.backend, .shardAmount, .keys, .config]

def OptionName.long : OptionName → String
  | .backend => "backend"
  | .shardAmount => "shard-amount"
  | .keys => "keys"
  | .config => "config"

def OptionName.value : OptionName → String
  | .backend => "<BACKEND>"
  | .shardAmount => "<SHARD_AMOUNT>"
  | .keys => "<KEYS>"
  | .config => "<CONFIG>"

def OptionName.usage (option : OptionName) : String := "--" ++ option.long ++ " " ++ option.value

def OptionName.variable? : OptionName → Option String
  | .backend => some "KVSSD_BACKEND"
  | .shardAmount => some "KVSSD_SHARD_AMOUNT"
  | .keys => none
  | .config => none

inductive Flag where
  | help
  | version
  deriving DecidableEq, Repr

def Flag.long : Flag → String
  | .help => "help"
  | .version => "version"

inductive UsageError where
  | missingValue (option : OptionName)
  | repeated (option : OptionName)
  | invalidValue (option : OptionName) (text reason : String)
  | unexpectedArgument (text : String)
  | unexpectedValue (flag : Flag) (text : String)
  deriving DecidableEq, Repr

def literal (text : String) : String := Text.Terminal.marked ["1"] text

def invalid (text : String) : String := Text.Terminal.marked ["33"] text

def UsageError.message : UsageError → String
  | missingValue option =>
    "a value is required for '" ++ invalid option.usage ++ "' but none was supplied"
  | repeated option =>
    "the argument '" ++ invalid option.usage ++ "' cannot be used multiple times"
  | invalidValue option text reason =>
    "invalid value '" ++ invalid text ++ "' for '" ++ literal option.usage ++ "': " ++ reason
  | unexpectedArgument text => "unexpected argument '" ++ invalid text ++ "' found"
  | unexpectedValue flag text =>
    "unexpected value '" ++ invalid text ++ "' for '" ++ literal ("--" ++ flag.long) ++
      "' found; no more were expected"

structure Options where
  backend : Option Backend := none
  shardAmount : Option UInt64 := none
  keys : Option UInt64 := none
  config : Option String := none
  deriving DecidableEq, Repr

namespace Options

def given (options : Options) : OptionName → Bool
  | .backend => options.backend.isSome
  | .shardAmount => options.shardAmount.isSome
  | .keys => options.keys.isSome
  | .config => options.config.isSome

def readCount (option : OptionName) (text : String) : Except UsageError UInt64 :=
  match Text.readNatural text.toList with
  | .ok n => .ok (UInt64.ofNat n)
  | .error fault => .error (.invalidValue option text fault.message)

def readBackend (text : String) : Except UsageError Backend :=
  match Backend.ofName? text with
  | some backend => .ok backend
  | none =>
    .error (.invalidValue .backend text (SettingsError.badProperty backendProperty text).message)

def set (options : Options) (option : OptionName) (text : String) : Except UsageError Options :=
  match option with
  | .backend => (readBackend text).map fun backend => { options with backend := some backend }
  | .shardAmount =>
    (readCount option text).map fun amount => { options with shardAmount := some amount }
  | .keys => (readCount option text).map fun count => { options with keys := some count }
  | .config =>
    if text.isEmpty then .error (.missingValue .config)
    else .ok { options with config := some text }

def take (options : Options) (option : OptionName) (text : String) : Except UsageError Options :=
  if options.given option then .error (.repeated option) else options.set option text

/-- An option whose value is not looked at yet, or not there yet. -/
abbrev Pending := Option (OptionName × Option String)

def settle (options : Options) : Pending → Except UsageError Options
  | none => .ok options
  | some (option, none) => .error (.missingValue option)
  | some (option, some text) => options.take option text

def fill (options : Options) (environment : String → Option String) (option : OptionName) :
    Except UsageError Options :=
  if options.given option then .ok options
  else
    match option.variable?.bind environment with
    | none => .ok options
    | some text => options.set option text

def fillAll (options : Options) (environment : String → Option String) :
    Except UsageError Options :=
  OptionName.all.foldlM (fun options option => options.fill environment option) options

end Options

inductive Request where
  | run (options : Options)
  | about (flag : Flag)
  deriving DecidableEq, Repr

inductive Form where
  | escape
  | long (name : String) (value : Option String)
  | short (letter : Char)
  | plain

def Form.of (argument : String) : Form :=
  match argument.toList with
  | ['-', '-'] => .escape
  | '-' :: '-' :: body =>
    let name := body.takeWhile (· != '=')
    .long (String.ofList name) ((body.drop name.length).tail?.map String.ofList)
  | '-' :: letter :: _ => .short letter
  | _ => .plain

def optionOf? (name : String) : Option OptionName :=
  OptionName.all.find? fun option => option.long == name

def flagOf? (name : String) : Option Flag :=
  [Flag.help, Flag.version].find? fun flag => flag.long == name

def flagOfLetter? (letter : Char) : Option Flag :=
  if letter = 'h' then some .help else if letter = 'V' then some .version else none

/-- The end of the arguments: the pending option is settled, then the environment stands in. -/
def finish (environment : String → Option String) (options : Options) (pending : Options.Pending) :
    Except UsageError Request :=
  match options.settle pending with
  | .error failure => .error failure
  | .ok options => (options.fillAll environment).map .run

def parseFrom (environment : String → Option String) (options : Options)
    (pending : Options.Pending) : List String → Except UsageError Request
  | [] => finish environment options pending
  | argument :: rest =>
    match Form.of argument with
    | .escape =>
      match rest with
      | [] => finish environment options pending
      | extra :: _ => .error (.unexpectedArgument extra)
    | .short letter =>
      match flagOfLetter? letter with
      | some flag => (options.settle pending).map fun _ => .about flag
      | none => .error (.unexpectedArgument (String.ofList ['-', letter]))
    | .long name value =>
      match optionOf? name, flagOf? name, value with
      | some option, _, none =>
        match options.settle pending with
        | .error failure => .error failure
        | .ok options => parseFrom environment options (some (option, none)) rest
      | some option, _, some text =>
        match options.settle pending with
        | .error failure => .error failure
        | .ok options =>
          match options.take option text with
          | .error failure => .error failure
          | .ok options => parseFrom environment options none rest
      | none, some flag, none => (options.settle pending).map fun _ => .about flag
      | none, some flag, some text => .error (.unexpectedValue flag text)
      | none, none, _ => .error (.unexpectedArgument ("--" ++ name))
    | .plain =>
      match pending with
      | some (option, none) => parseFrom environment options (some (option, some argument)) rest
      | _ => .error (.unexpectedArgument argument)

def parse (environment : String → Option String) (arguments : List String) :
    Except UsageError Request :=
  parseFrom environment {} none arguments

/-! Help -/

def programName : String := "kvssd-smoke"

def version : String := programName ++ " 0.1.0\n"

structure Entry where
  letter : Option Char
  long : String
  value : String
  about : String
  deriving DecidableEq, Repr

def OptionName.about : OptionName → String
  | .backend => "Device backend (hashmap, sharded)"
  | .shardAmount => "Shard amount for the sharded backend"
  | .keys => "Number of generated rows for the bulk run (0 skips it) [default: 0]"
  | .config => "JSON device configuration file; flags override its values"

def OptionName.entry (environment : String → Option String) (option : OptionName) : Entry :=
  let stand := match option.variable? with
    | none => ""
    | some name => " [env: " ++ name ++ "=" ++ (environment name).getD "" ++ "]"
  ⟨none, option.long, " " ++ option.value, option.about ++ stand⟩

def Flag.entry : Flag → Entry
  | .help => ⟨some 'h', Flag.help.long, "", "Print help"⟩
  | .version => ⟨some 'V', Flag.version.long, "", "Print version"⟩

def entries (environment : String → Option String) : List Entry :=
  OptionName.all.map (OptionName.entry environment) ++ [Flag.help.entry, Flag.version.entry]

namespace Entry

/-- The columns that the spelling takes; the letter takes six, also where there is none. -/
def width (entry : Entry) : Nat := 6 + ("--" ++ entry.long ++ entry.value).length

def spelling (entry : Entry) : String :=
  let letter := match entry.letter with
    | none => "      "
    | some letter => "  " ++ literal (String.ofList ['-', letter]) ++ ", "
  letter ++ literal ("--" ++ entry.long) ++ entry.value

/-- The entry's line with its marks. A newline in the text on the right goes on in its column. -/
def line (column : Nat) (entry : Entry) : String :=
  let about := entry.about.toList.flatMap fun c =>
    if c = '\n' then c :: List.replicate column ' ' else [c]
  entry.spelling.pushn ' ' (column - entry.width) ++ String.ofList about ++ "\n"

end Entry

def heading (text : String) : String := Text.Terminal.marked ["1", "4"] text

def help (environment : String → Option String) : String :=
  let entries := entries environment
  let column := 2 + entries.foldr (fun entry widest => max entry.width widest) 0
  Text.Terminal.withoutMarks <|
    "Smoke test for the KV-SSD row binding\n\n" ++ heading "Usage:" ++ " " ++
      literal programName ++ " [OPTIONS]\n\n" ++ heading "Options:" ++ "\n" ++
      String.join (entries.map (Entry.line column))

def shown (environment : String → Option String) : Flag → String
  | .help => help environment
  | .version => version

end FlashStore.CommandLine
