import FlashStore.CommandLine.Arguments
import FlashStore.Proofs.TextReaders
import Mathlib.Data.Option.Basic
import Mathlib.Logic.Function.Basic

/-!
Command lines that are accepted. They are spelled by options with their values, each option once,
and at the end perhaps the two dashes that end the options. What the options then hold is, for each
of them, what the value on the command line spells, and without one what the environment variable
spells that stands in for it.
-/

namespace FlashStore.AcceptedArguments
open CommandLine TextReaders

abbrev Flags := List (OptionName × String)

/-- A text that begins no option: one without a dash in front, or nothing but a dash. -/
def Plain (text : String) : Prop := text = "-" ∨ text.toList.head? ≠ some '-'

inductive Spelled : List String → Flags → Prop where
  | nil : Spelled [] []
  | escape : Spelled ["--"] []
  | joined {rest : List String} {flags : Flags} (option : OptionName) (text : String)
      (tail : Spelled rest flags) :
      Spelled (("--" ++ option.long ++ "=" ++ text) :: rest) ((option, text) :: flags)
  | apart {rest : List String} {flags : Flags} (option : OptionName) (text : String)
      (plain : Plain text) (tail : Spelled rest flags) :
      Spelled (("--" ++ option.long) :: text :: rest) ((option, text) :: flags)

-- What the form of an argument says about its text.

theorem plain_form (argument : String) (form : Form.of argument = .plain) : Plain argument := by
  rw [Form.of] at form
  split at form
  · cases form
  · cases form
  · cases form
  · next notEscape notLong notShort =>
    cases spelled : argument.toList with
    | nil => exact .inr (by simp [spelled])
    | cons first rest =>
        by_cases dash : first = '-'
        · subst dash
          cases rest with
          | nil => exact .inl (String.toList_injective spelled)
          | cons letter more => exact absurd spelled (notShort letter more)
        · exact .inr (by simp [spelled, dash])

theorem escape_form (argument : String) (form : Form.of argument = .escape) : argument = "--" := by
  rw [Form.of] at form
  split at form
  · next spelled => exact String.toList_injective spelled
  · cases form
  · cases form
  · cases form

theorem behind_name (body : List Char) :
    body = body.takeWhile (· != '=') ∧ body.drop (body.takeWhile (· != '=')).length = [] ∨
      ∃ text, body = body.takeWhile (· != '=') ++ '=' :: text ∧
        body.drop (body.takeWhile (· != '=')).length = '=' :: text := by
  induction body with
  | nil => exact .inl ⟨rfl, rfl⟩
  | cons c rest ih =>
      by_cases sign : c = '='
      · subst sign
        exact .inr ⟨rest, by simp, by simp⟩
      · simpa [sign] using ih

theorem long_form (argument name : String) (value : Option String)
    (form : Form.of argument = .long name value) :
    argument = "--" ++ name ++ value.elim "" ("=" ++ ·) := by
  rw [Form.of] at form
  split at form
  · cases form
  · next body notEscape spelled =>
    simp only [Form.long.injEq] at form
    rcases form with ⟨rfl, rfl⟩
    apply String.toList_injective
    rw [spelled]
    rcases behind_name body with ⟨whole, empty⟩ | ⟨text, whole, behind⟩
    · rw [empty, ← whole]
      simp
    · rw [behind]
      simpa using whole
  · cases form
  · cases form

theorem option_long (name : String) (option : OptionName) (known : optionOf? name = some option) :
    option.long = name := by
  have long := List.find?_some known
  exact eq_of_beq long

-- The arguments are read as options that are taken one after the other.

def takeAll (options : Options) (flags : Flags) : Except UsageError Options :=
  flags.foldlM (fun options flag => options.take flag.1 flag.2) options

def unread : Options.Pending → List String
  | none => []
  | some (option, none) => ["--" ++ option.long]
  | some (option, some text) => ["--" ++ option.long, text]

/-- The value that waits for its option has been looked at so far that it begins no option. -/
def Waits (pending : Options.Pending) : Prop :=
  ∀ option text, pending = some (option, some text) → Plain text

/-- The arguments spell options, and taking these from the given ones leads to `final`. -/
def Leads (environment : String → Option String) (options : Options) (arguments : List String)
    (final : Options) : Prop :=
  ∃ flags taken, Spelled arguments flags ∧ takeAll options flags = .ok taken ∧
    taken.fillAll environment = .ok final

section Parsing
variable (environment : String → Option String) (final : Options)

theorem ends_lead (options : Options) (arguments : List String) (spelled : Spelled arguments [])
    (filled : options.fillAll environment = .ok final) :
    Leads environment options arguments final :=
  ⟨[], options, spelled, rfl, filled⟩

theorem taken_leads (options next : Options) (option : OptionName) (text : String)
    (first rest : List String) (took : options.take option text = .ok next)
    (spelled : ∀ flags, Spelled rest flags → Spelled (first ++ rest) ((option, text) :: flags))
    (leads : Leads environment next rest final) :
    Leads environment options (first ++ rest) final := by
  rcases leads with ⟨flags, taken, tail, takes, filled⟩
  refine ⟨(option, text) :: flags, taken, spelled flags tail, ?_, filled⟩
  rw [takeAll, List.foldlM_cons, took]
  exact takes

theorem settled_leads (options next : Options) (pending : Options.Pending) (rest : List String)
    (waits : Waits pending) (settled : options.settle pending = .ok next)
    (leads : Leads environment next rest final) :
    Leads environment options (unread pending ++ rest) final := by
  rcases pending with _ | ⟨option, _ | text⟩
  · cases settled
    exact leads
  · cases settled
  · exact taken_leads environment final options next option text _ rest settled
      (fun _ tail => .apart option text (waits option text rfl) tail) leads

theorem finish_leads (options : Options) (pending : Options.Pending) (rest : List String)
    (waits : Waits pending) (ends : Spelled rest [])
    (finished : finish environment options pending = .ok (.run final)) :
    Leads environment options (unread pending ++ rest) final := by
  rw [finish] at finished
  cases settled : options.settle pending with
  | error failure => simp [settled] at finished
  | ok next =>
      rw [settled] at finished
      rcases (map_ok_iff _ _ _).mp finished with ⟨last, filled, same⟩
      cases same
      exact settled_leads environment final options next pending rest waits settled
        (ends_lead environment final next rest ends filled)

theorem about_no_run (settled : Except UsageError Options) (flag : Flag) :
    settled.map (fun _ => Request.about flag) ≠ .ok (.run final) := by
  cases settled <;> simp [Except.map]

section Turns
variable (options : Options) (pending : Options.Pending) (argument : String) (rest : List String)

theorem short_no_run (letter : Char) (form : Form.of argument = .short letter) :
    parseFrom environment options pending (argument :: rest) ≠ .ok (.run final) := by
  simp only [parseFrom, form]
  cases flagOfLetter? letter with
  | none => exact nofun
  | some flag => exact about_no_run final _ flag

theorem unknown_no_run (name : String) (value : Option String)
    (form : Form.of argument = .long name value) (unknown : optionOf? name = none) :
    parseFrom environment options pending (argument :: rest) ≠ .ok (.run final) := by
  simp only [parseFrom, form, unknown]
  cases flagOf? name with
  | none => exact nofun
  | some flag =>
      cases value with
      | none => exact about_no_run final _ flag
      | some text => exact nofun

section Known
variable (waits : Waits pending) (name : String) (option : OptionName)
variable (known : optionOf? name = some option)
variable (parsed : parseFrom environment options pending (argument :: rest) = .ok (.run final))
include waits known parsed

theorem apart_leads (form : Form.of argument = .long name none)
    (later : ∀ next, parseFrom environment next (some (option, none)) rest = .ok (.run final) →
      Leads environment next (("--" ++ option.long) :: rest) final) :
    Leads environment options (unread pending ++ argument :: rest) final := by
  simp only [parseFrom, form, known] at parsed
  cases settled : options.settle pending with
  | error failure => simp [settled] at parsed
  | ok next =>
      rw [settled] at parsed
      have spelled : argument = "--" ++ option.long := by
        rw [option_long name option known]
        simpa using long_form argument name none form
      apply settled_leads environment final options next pending _ waits settled
      rw [spelled]
      exact later next parsed

theorem joined_leads (text : String) (form : Form.of argument = .long name (some text))
    (later : ∀ next, parseFrom environment next none rest = .ok (.run final) →
      Leads environment next rest final) :
    Leads environment options (unread pending ++ argument :: rest) final := by
  simp only [parseFrom, form, known] at parsed
  cases settled : options.settle pending with
  | error failure => simp [settled] at parsed
  | ok next =>
      rw [settled] at parsed
      cases took : next.take option text with
      | error failure => simp [took] at parsed
      | ok more =>
          simp only [took] at parsed
          have spelled : argument = "--" ++ option.long ++ "=" ++ text := by
            rw [option_long name option known]
            simpa [String.append_assoc] using long_form argument name (some text) form
          apply settled_leads environment final options next pending _ waits settled
          apply taken_leads environment final next more option text [argument] rest took _
            (later more parsed)
          intro flags tail
          rw [spelled]
          exact .joined option text tail
end Known
end Turns

/-- The induction is on the arguments to come; what is pending counts as not read yet. -/
theorem parse_leads (arguments : List String) (options : Options) (pending : Options.Pending)
    (waits : Waits pending)
    (parsed : parseFrom environment options pending arguments = .ok (.run final)) :
    Leads environment options (unread pending ++ arguments) final := by
  induction arguments generalizing options pending with
  | nil => exact finish_leads environment final options pending [] waits .nil parsed
  | cons argument rest ih =>
      cases form : Form.of argument with
      | escape =>
          simp only [parseFrom, form] at parsed
          cases rest with
          | nil =>
              rw [escape_form argument form]
              exact finish_leads environment final options pending ["--"] waits .escape parsed
          | cons extra more => cases parsed
      | short letter =>
          exact absurd parsed
            (short_no_run environment final options pending argument rest letter form)
      | long name value =>
          cases known : optionOf? name with
          | none =>
              exact absurd parsed (unknown_no_run environment final options pending argument rest
                name value form known)
          | some option =>
              cases value with
              | none =>
                  apply apart_leads environment final options pending argument rest waits name
                    option known parsed form
                  intro next goesOn
                  exact ih next (some (option, none)) (by rintro _ _ ⟨⟩) goesOn
              | some text =>
                  apply joined_leads environment final options pending argument rest waits name
                    option known parsed text form
                  intro next goesOn
                  exact ih next none (by rintro _ _ ⟨⟩) goesOn
      | plain =>
          simp only [parseFrom, form] at parsed
          rcases pending with _ | ⟨option, _ | text⟩
          · cases parsed
          · have plain := plain_form argument form
            refine ih options (some (option, some argument)) ?_ parsed
            rintro _ _ ⟨⟩
            exact plain
          · cases parsed
end Parsing

-- The other way round, a spelled argument has one form, so a command line is spelled in one way.

theorem joined_form (option : OptionName) (text : String) :
    Form.of ("--" ++ option.long ++ "=" ++ text) = .long option.long (some text) := by
  cases option <;> simp [Form.of, OptionName.long]

theorem apart_form (option : OptionName) :
    Form.of ("--" ++ option.long) = .long option.long none := by
  cases option <;> rfl

theorem known_long (option : OptionName) : optionOf? option.long = some option := by
  cases option <;> rfl

theorem long_inj (option other : OptionName) (same : option.long = other.long) : option = other := by
  have known := known_long option
  rw [same, known_long] at known
  exact (Option.some.inj known).symm

theorem spelled_cons (argument : String) (rest : List String) (flags : Flags)
    (spelled : Spelled (argument :: rest) flags) :
    match Form.of argument with
    | .escape => rest = [] ∧ flags = []
    | .long name (some text) =>
      ∃ option tail, option.long = name ∧ flags = (option, text) :: tail ∧ Spelled rest tail
    | .long name none =>
      ∃ option text more tail, option.long = name ∧ rest = text :: more ∧
        flags = (option, text) :: tail ∧ Spelled more tail
    | _ => False := by
  cases spelled with
  | escape => exact ⟨rfl, rfl⟩
  | joined option text tail =>
      rw [joined_form]
      exact ⟨option, _, rfl, rfl, tail⟩
  | apart option text plain tail =>
      rw [apart_form]
      exact ⟨option, text, _, _, rfl, rfl, rfl, tail⟩

theorem spelled_unique (arguments : List String) (flags others : Flags)
    (spelled : Spelled arguments flags) (again : Spelled arguments others) : flags = others := by
  induction spelled generalizing others with
  | nil =>
      cases again
      rfl
  | escape => exact (spelled_cons _ _ _ again).2.symm
  | joined option text _ ih =>
      have turn := spelled_cons _ _ _ again
      rw [joined_form] at turn
      rcases turn with ⟨other, more, same, rfl, tail⟩
      rw [ih more tail, long_inj other option same]
  | apart option text _ _ ih =>
      have turn := spelled_cons _ _ _ again
      rw [apart_form] at turn
      rcases turn with ⟨other, word, rest, more, same, front, rfl, tail⟩
      cases front
      rw [ih more tail, long_inj other option same]

-- What the options hold.

def standIn (environment : String → Option String) (option : OptionName) : Option String :=
  option.variable?.bind environment

def Counts (text : String) (n : UInt64) : Prop := Text.readNatural text.toList = .ok n.toNat

structure Holds (source : OptionName → Option String) (options : Options) : Prop where
  backend : Option.Rel (fun text backend => text = backend.name) (source .backend) options.backend
  shardAmount : Option.Rel Counts (source .shardAmount) options.shardAmount
  keys : Option.Rel Counts (source .keys) options.keys
  config : source .config = options.config

theorem count_counts (option : OptionName) (text : String) (n : UInt64)
    (read : Options.readCount option text = .ok n) : Counts text n := by
  rw [Options.readCount] at read
  cases natural : Text.readNatural text.toList with
  | error fault => simp [natural] at read
  | ok m =>
      simp only [natural, Except.ok.injEq] at read
      subst read
      have small := NaturalTexts.natural_small text.toList m natural
      rw [Counts, natural, UInt64.toNat_ofNat_of_lt' small]

theorem backend_spelled (text : String) (backend : Backend)
    (read : Options.readBackend text = .ok backend) : text = backend.name := by
  rw [Options.readBackend] at read
  cases known : Backend.ofName? text with
  | none => simp [known] at read
  | some found =>
      simp only [known, Except.ok.injEq] at read
      subst read
      exact Backend.eq_name_of_ofName? known

theorem rel_isSome {α β : Type} {spells : α → β → Prop} {text : Option α} {value : Option β}
    (rel : Option.Rel spells text value) : value.isSome = text.isSome := by
  cases rel <;> rfl

theorem lookup_absent (option : OptionName) (flags : Flags)
    (absent : option ∉ flags.map Prod.fst) : flags.lookup option = none := by
  apply List.lookup_eq_none_iff.mpr
  intro flag member
  have other : option ≠ flag.1 := (ne_of_mem_of_not_mem (List.mem_map_of_mem member) absent).symm
  simpa using other

def before (flags : Flags) (source : OptionName → Option String) (option : OptionName) :
    Option String :=
  (flags.lookup option).or (source option)

theorem before_cons (name : OptionName) (text : String) (rest : Flags)
    (source : OptionName → Option String) (absent : name ∉ rest.map Prod.fst) :
    before rest (Function.update source name (some text)) =
      before ((name, text) :: rest) source := by
  funext option
  by_cases same : option = name
  · subst same
    simp [before, lookup_absent option rest absent]
  · have different : (option == name) = false := beq_eq_false_iff_ne.mpr same
    simp [before, List.lookup_cons, same, different]

/-- The sources with the environment behind those of some options. -/
def backed (environment : String → Option String) (names : List OptionName)
    (source : OptionName → Option String) (option : OptionName) : Option String :=
  if option ∈ names then (source option).or (standIn environment option) else source option

theorem backed_cons (environment : String → Option String) (name : OptionName)
    (rest : List OptionName) (source : OptionName → Option String) :
    backed environment rest
        (Function.update source name ((source name).or (standIn environment name))) =
      backed environment (name :: rest) source := by
  funext option
  by_cases same : option = name
  · subst same
    by_cases again : option ∈ rest <;> simp [backed, again, Option.or_assoc]
  · simp [backed, same]

section Holding
variable (source : OptionName → Option String) (options next : Options)
variable (holds : Holds source options)
include holds

theorem given_source (option : OptionName) : options.given option = (source option).isSome := by
  cases option with
  | backend => exact rel_isSome holds.backend
  | shardAmount => exact rel_isSome holds.shardAmount
  | keys => exact rel_isSome holds.keys
  | config => rw [holds.config, Options.given]

theorem set_holds (option : OptionName) (text : String) (done : options.set option text = .ok next) :
    Holds (Function.update source option (some text)) next := by
  cases option with
  | backend =>
      rcases (map_ok_iff _ _ _).mp done with ⟨backend, read, rfl⟩
      exact { holds with backend := .some (backend_spelled text backend read) }
  | shardAmount =>
      rcases (map_ok_iff _ _ _).mp done with ⟨amount, read, rfl⟩
      exact { holds with shardAmount := .some (count_counts _ text amount read) }
  | keys =>
      rcases (map_ok_iff _ _ _).mp done with ⟨count, read, rfl⟩
      exact { holds with keys := .some (count_counts _ text count read) }
  | config =>
      rw [Options.set] at done
      split at done
      · cases done
      · cases done
        exact { holds with config := rfl }

theorem take_holds (option : OptionName) (text : String)
    (took : options.take option text = .ok next) :
    source option = none ∧ Holds (Function.update source option (some text)) next := by
  rw [Options.take, given_source source options holds] at took
  split at took
  · cases took
  · next free =>
    refine ⟨by simpa using free, ?_⟩
    exact set_holds source options next holds option text took

theorem takeAll_holds (flags : Flags) (took : takeAll options flags = .ok next) :
    (flags.map Prod.fst).Nodup ∧ (∀ option ∈ flags.map Prod.fst, source option = none) ∧
      Holds (before flags source) next := by
  induction flags generalizing source options with
  | nil =>
      cases took
      exact ⟨List.nodup_nil, by simp, holds⟩
  | cons flag rest ih =>
      rcases flag with ⟨name, text⟩
      rw [takeAll, List.foldlM_cons] at took
      rcases (bind_ok_iff _ _ _).mp took with ⟨middle, first, later⟩
      rcases take_holds source options middle holds name text first with ⟨free, held⟩
      rcases ih _ middle held later with ⟨distinct, unsourced, filled⟩
      have absent : name ∉ rest.map Prod.fst := by
        intro member
        simpa using unsourced name member
      rw [before_cons name text rest source absent] at filled
      refine ⟨List.nodup_cons.mpr ⟨absent, distinct⟩, ?_, filled⟩
      intro option member
      rcases List.mem_cons.mp member with rfl | behind
      · exact free
      · have other : option ≠ name := ne_of_mem_of_not_mem behind absent
        simpa [other] using unsourced option behind

variable (environment : String → Option String)

theorem fill_holds (option : OptionName) (filled : options.fill environment option = .ok next) :
    Holds (Function.update source option ((source option).or (standIn environment option)))
      next := by
  rw [Options.fill, given_source source options holds, ← standIn] at filled
  cases given : source option with
  | some text =>
      simp only [given, Option.isSome_some, if_true, Except.ok.injEq] at filled
      subst filled
      rwa [Option.some_or, ← given, Function.update_eq_self]
  | none =>
      simp only [given, Option.isSome_none, Bool.false_eq_true, if_false] at filled
      cases stand : standIn environment option with
      | none =>
          simp only [stand, Except.ok.injEq] at filled
          subst filled
          rwa [Option.none_or, ← given, Function.update_eq_self]
      | some text =>
          rw [stand] at filled
          exact set_holds source options next holds option text filled

theorem fillEach_holds (names : List OptionName)
    (filled : names.foldlM (fun options option => options.fill environment option) options =
      .ok next) : Holds (backed environment names source) next := by
  induction names generalizing source options with
  | nil =>
      cases filled
      exact holds
  | cons name rest ih =>
      rw [List.foldlM_cons] at filled
      rcases (bind_ok_iff _ _ _).mp filled with ⟨middle, first, later⟩
      have held := fill_holds source options middle holds environment name first
      rw [← backed_cons environment name rest source]
      exact ih _ middle held later

theorem fillAll_holds (filled : options.fillAll environment = .ok next) :
    Holds (fun option => (source option).or (standIn environment option)) next := by
  have all : ∀ option, option ∈ OptionName.all := by
    intro option
    cases option <;> decide
  have whole : backed environment OptionName.all source =
      fun option => (source option).or (standIn environment option) := by
    funext option
    rw [backed, if_pos (all option)]
  rw [← whole]
  exact fillEach_holds source options next holds environment OptionName.all filled
end Holding

/-- An accepted command line spells options, each at most once, and the run that it asks for has what
the command line and, behind it, the environment give to them. -/
theorem accepted_holds (environment : String → Option String) (arguments : List String)
    (options : Options) (accepted : parse environment arguments = .ok (.run options)) :
    ∃ flags, Spelled arguments flags ∧ (flags.map Prod.fst).Nodup ∧
      Holds (fun option => (flags.lookup option).or (standIn environment option)) options := by
  have empty : Holds (fun _ => none) {} := ⟨.none, .none, .none, rfl⟩
  rcases parse_leads environment options arguments {} none (by rintro _ _ ⟨⟩) accepted with
    ⟨flags, taken, spelled, took, filled⟩
  rcases takeAll_holds _ _ taken empty flags took with ⟨distinct, _, held⟩
  refine ⟨flags, spelled, distinct, ?_⟩
  simpa [before] using fillAll_holds _ taken options held environment filled

end FlashStore.AcceptedArguments
