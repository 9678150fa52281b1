import PolicyTree.Level
/-
  What the arguments of the command line ask for. Options may stand before or after the name
  of the command and among its other arguments, but each belongs to its place: the two general
  options, for the file and for the format, are known in both places, and the one after the
  command counts. After `--` nothing is an option any more.

  Arguments are taken one by one, and the first fault or call for help ends the reading. What
  is missing is told at the end.
-/
namespace PolicyTree.CommandLine

/-! ## Commands -/

/-- How answers are printed. -/
inductive OutputFormat where
  | table
  | json
  deriving DecidableEq, Repr

/-- The format of a name. -/
def OutputFormat.ofName? : String → Option OutputFormat
  | "table" => some .table
  | "json" => some .json
  | _ => none

/-- Who asks for access to what, and why. Without resources all leaves are meant. -/
structure CheckArguments where
  user : String
  roles : List String
  auths : List String
  purpose : String
  context : List String
  resources : List String
  deriving DecidableEq, Repr

/-- Which rules are to be shown. Without a type the resource's own one is meant. -/
structure RulesArguments where
  resource : String
  level : Level
  type : Option String
  deriving DecidableEq, Repr

/-- Whose policy is to be shown. -/
inductive PolicySubject where
  | resource (id : String)
  | type (name : String)
  deriving DecidableEq, Repr

/-- What is to be done. -/
inductive Command where
  | check (arguments : CheckArguments)
  | rules (arguments : RulesArguments)
  | policy (subject : PolicySubject)
  | resources
  | config
  deriving DecidableEq, Repr

/-- The commands there are. -/
inductive CommandName where
  | check
  | rules
  | policy
  | resources
  | config
  deriving DecidableEq, Repr

/-- The command of a name. -/
def CommandName.ofName? : String → Option CommandName
  | "check" => some .check
  | "rules" => some .rules
  | "policy" => some .policy
  | "resources" => some .resources
  | "config" => some .config
  | _ => none

/-! ## Options -/

/-- The options there are. -/
inductive OptionName where
  | config
  | format
  | help
  | version
  | user
  | role
  | auth
  | purpose
  | context
  | level
  | type
  deriving DecidableEq, Repr

namespace OptionName

/-- The name after two hyphens. -/
def long : OptionName → String
  | .config => "config"
  | .format => "format"
  | .help => "help"
  | .version => "version"
  | .user => "user"
  | .role => "role"
  | .auth => "auth"
  | .purpose => "purpose"
  | .context => "context"
  | .level => "level"
  | .type => "type"

/-- The letter after one hyphen. -/
def short? : OptionName → Option Char
  | .config => some 'c'
  | .format => some 'f'
  | .help => some 'h'
  | .version => some 'V'
  | .user => some 'u'
  | .purpose => some 'p'
  | .level => some 'l'
  | .type => some 't'
  | .role => none
  | .auth => none
  | .context => none

/-- Whether an option may stand more than once. -/
def isRepeatable : OptionName → Bool
  | .role => true
  | .auth => true
  | .context => true
  | _ => false

/-- Whether a text is a value of an option. -/
def accepts (value : String) : OptionName → Bool
  | .format => (OutputFormat.ofName? value).isSome
  | .level => (Level.ofName? value).isSome
  | _ => true

end OptionName

/-- A place for options and other arguments: before the command, or after it. -/
structure Scope where
  options : List OptionName
  /-- How many other arguments there may be, if there is a limit. -/
  limit : Option Nat

/-- The place before the command. -/
def Scope.beforeCommand : Scope := ⟨[.config, .format, .help, .version], some 0⟩

/-- The place after a command. -/
def Scope.ofCommand : CommandName → Scope
  | .check => ⟨[.user, .role, .auth, .purpose, .context, .config, .format, .help], none⟩
  | .rules => ⟨[.level, .type, .config, .format, .help], some 1⟩
  | .policy => ⟨[.type, .config, .format, .help], some 1⟩
  | .resources => ⟨[.config, .format, .help], some 0⟩
  | .config => ⟨[.config, .format, .help], some 0⟩

/-! ## Faults -/

/-- What is wrong with arguments. -/
inductive UsageError where
  | unknownOption (text : String)
  | needlessValue (option : OptionName)
  | missingValue (option : OptionName)
  | badValue (option : OptionName) (value : String)
  | repeatedOption (option : OptionName)
  | unexpectedArgument (text : String)
  | unknownCommand (text : String)
  | noCommand
  | missingOption (option : OptionName)
  | missingResource
  | resourceAndType
  deriving DecidableEq, Repr

def UsageError.message : UsageError → String
  | .unknownOption text => s!"unknown option '{text}'"
  | .needlessValue option => s!"option '--{option.long}' takes no value"
  | .missingValue option => s!"option '--{option.long}' needs a value"
  | .badValue option value => s!"'{value}' is no value of option '--{option.long}'"
  | .repeatedOption option => s!"option '--{option.long}' stands more than once"
  | .unexpectedArgument text => s!"unexpected argument '{text}'"
  | .unknownCommand text => s!"unknown command '{text}'"
  | .noCommand => "a command is required"
  | .missingOption option => s!"option '--{option.long}' is required"
  | .missingResource => "a resource is required"
  | .resourceAndType => "a resource and option '--type' exclude each other"

/-- What ends the reading of arguments before a command is known. -/
inductive Interruption where
  | help
  | version
  | usage (error : UsageError)
  deriving DecidableEq, Repr

/-! ## Reading arguments -/

/-- What an argument says. -/
inductive Token where
  | plain (text : String)
  | separator
  | option (name : OptionName) (value : Option String)
  deriving DecidableEq, Repr

/-- Whether an argument is written like an option. A single hyphen is not. -/
def isHyphenated (argument : String) : Bool :=
  match argument.toList with
  | '-' :: _ :: _ => true
  | _ => false

/-- A named option with the value attached to it; a call for help or for the version ends the
reading. -/
def Token.ofOption (name : OptionName) (value : Option String) : Except Interruption Token :=
  match name, value with
  | .help, none => .error .help
  | .version, none => .error .version
  | name, value => .ok (.option name value)

/-- The option of a long name, with what follows an equals sign as its value. -/
def Scope.longOption (scope : Scope) (argument : String) (cs : List Char) :
    Except Interruption Token :=
  let name := String.ofList (cs.takeWhile (· ≠ '='))
  match scope.options.find? (·.long = name) with
  | none => .error (.usage (.unknownOption argument))
  | some option =>
    match cs.dropWhile (· ≠ '=') with
    | [] => Token.ofOption option none
    | _ :: value =>
      if option = .help ∨ option = .version then .error (.usage (.needlessValue option))
      else Token.ofOption option (some (String.ofList value))

/-- The option of a letter. Whatever follows the letter is its value, without an equals sign in
front. -/
def Scope.shortOption (scope : Scope) (argument : String) (letter : Char) (cs : List Char) :
    Except Interruption Token :=
  match scope.options.find? (·.short? = some letter) with
  | none => .error (.usage (.unknownOption argument))
  | some .help => .error .help
  | some .version => .error .version
  | some option =>
    match cs with
    | [] => Token.ofOption option none
    | '=' :: value => Token.ofOption option (some (String.ofList value))
    | value => Token.ofOption option (some (String.ofList value))

/-- What an argument says in a place. -/
def Scope.token (scope : Scope) (argument : String) : Except Interruption Token :=
  match argument.toList with
  | ['-'] => .ok (.plain argument)
  | ['-', '-'] => .ok .separator
  | '-' :: '-' :: cs => scope.longOption argument cs
  | '-' :: letter :: cs => scope.shortOption argument letter cs
  | _ => .ok (.plain argument)

/-- The arguments of one place: options with their values, and plain ones, both in order. -/
structure Gathered where
  options : List (OptionName × String)
  plain : List String

namespace Gathered

/-- Nothing yet. -/
def empty : Gathered := ⟨[], []⟩

/-- The value of an option. -/
def value? (gathered : Gathered) (option : OptionName) : Option String :=
  gathered.options.lookup option

/-- All values of an option. -/
def values (gathered : Gathered) (option : OptionName) : List String :=
  (gathered.options.filter (·.1 = option)).map Prod.snd

/-- Give an option a value. -/
def give (gathered : Gathered) (option : OptionName) (value : String) :
    Except Interruption Gathered :=
  if (gathered.value? option).isSome && !option.isRepeatable then
    .error (.usage (.repeatedOption option))
  else if option.accepts value then
    .ok { gathered with options := gathered.options ++ [(option, value)] }
  else .error (.usage (.badValue option value))

/-- Take plain arguments in, if there may be that many. -/
def takePlain (gathered : Gathered) (limit : Option Nat) :
    List String → Except Interruption Gathered
  | [] => .ok gathered
  | argument :: rest =>
    if limit.any (· ≤ gathered.plain.length) then .error (.usage (.unexpectedArgument argument))
    else takePlain { gathered with plain := gathered.plain ++ [argument] } limit rest

end Gathered

/-- Gather the arguments of a place; `waiting` is an option whose value comes next. Where
commands stand, the first plain argument is one, and it is left with all that follows it. -/
def Scope.gather (scope : Scope) (commands : Bool) (waiting : Option OptionName)
    (gathered : Gathered) : List String → Except Interruption (Gathered × List String)
  | [] =>
    match waiting with
    | some option => .error (.usage (.missingValue option))
    | none => .ok (gathered, [])
  | argument :: rest =>
    match waiting with
    | some option =>
      if isHyphenated argument then .error (.usage (.missingValue option))
      else do
        let gathered ← gathered.give option argument
        scope.gather commands none gathered rest
    | none => do
      match ← scope.token argument with
      | .plain text =>
        if commands then .ok (gathered, argument :: rest)
        else
          let gathered ← gathered.takePlain scope.limit [text]
          scope.gather commands none gathered rest
      | .separator =>
        let gathered ← gathered.takePlain scope.limit rest
        .ok (gathered, [])
      | .option name (some value) =>
        let gathered ← gathered.give name value
        scope.gather commands none gathered rest
      | .option name none => scope.gather commands (some name) gathered rest

/-! ## Invocations -/

/-- A command with the general options. -/
structure Invocation where
  command : Command
  configFile : Option String
  format : OutputFormat
  deriving DecidableEq, Repr

/-- The value of an option that must be there. -/
def Gathered.required (gathered : Gathered) (option : OptionName) : Except Interruption String :=
  match gathered.value? option with
  | some value => .ok value
  | none => .error (.usage (.missingOption option))

/-- The command that gathered arguments make up. -/
def Command.ofGathered (gathered : Gathered) : CommandName → Except Interruption Command
  | .check => do
    return .check {
      user := ← gathered.required .user
      roles := gathered.values .role
      auths := gathered.values .auth
      purpose := ← gathered.required .purpose
      context := gathered.values .context
      resources := gathered.plain }
  | .rules =>
    match gathered.plain with
    | [] => .error (.usage .missingResource)
    | resource :: _ => .ok (.rules {
        resource
        level := ((gathered.value? .level).bind Level.ofName?).getD .resource
        type := gathered.value? .type })
  | .policy =>
    match gathered.plain, gathered.value? .type with
    | [], none => .error (.usage .missingResource)
    | [], some name => .ok (.policy (.type name))
    | id :: _, none => .ok (.policy (.resource id))
    | _ :: _, some _ => .error (.usage .resourceAndType)
  | .resources => .ok .resources
  | .config => .ok .config

/-- What a call for help about some words comes to: help, if they name a command. -/
def helpAbout : List String → Interruption
  | [] => .help
  | [word] =>
    if word = "help" ∨ (CommandName.ofName? word).isSome then .help
    else .usage (.unknownCommand word)
  | _ :: word :: _ => .usage (.unknownCommand word)

/-- What arguments ask for; `fallback` stands in for the option of the file. -/
def Invocation.ofArguments (arguments : List String) (fallback : Option String) :
    Except Interruption Invocation := do
  let (before, rest) ← Scope.beforeCommand.gather true none .empty arguments
  match rest with
  | [] => throw (.usage .noCommand)
  | word :: rest =>
    if word = "help" then throw (helpAbout rest)
    let some name := CommandName.ofName? word | throw (.usage (.unknownCommand word))
    let (after, _) ← (Scope.ofCommand name).gather false none .empty rest
    let general (option : OptionName) : Option String :=
      after.value? option <|> before.value? option
    return {
      command := ← Command.ofGathered after name
      configFile := general .config <|> fallback
      format := ((general .format).bind OutputFormat.ofName?).getD .table }

end PolicyTree.CommandLine
