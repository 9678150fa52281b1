import PolicyTree.Bootstrap.Basic
import PolicyTree.CommandLine.Inspection
import PolicyTree.Registry.Builtin
import PolicyTree.Settings.Document
import PolicyTree.Settings.Load
import PolicyTree.Toml.Printer
/-
  The program as a function: from its arguments, its environment and the file of its
  configuration to what it prints and its exit status. What it logs is no part of this.
-/
namespace PolicyTree.CommandLine

/-- How a run ends: the exit status, what is printed, and why it fails, if it does. The complaint
goes to the standard error, and so does the log, which is left out. -/
structure Report where
  exit : Nat
  stdout : String
  complaint : Option String
  deriving DecidableEq, Repr

/-- What is found under the name of a file. For the name of a directory this is the file of this
name with the extension of a format, if there is one. -/
inductive FileContent where
  | absent
  | unreadable
  | file (file : Settings.File)
  deriving DecidableEq, Repr

/-- What a run finds outside the program: the environment, the files and how those are read that
are not TOML, whether it prints on a terminal, and a clock. -/
structure Surroundings where
  environment : List (String × String)
  files : String → FileContent
  formats : Settings.Formats
  terminal : Bool
  clock : Clock

namespace Surroundings

/-- Whether colours are shown. -/
def colours (surroundings : Surroundings) : Bool :=
  Colour.areShown surroundings.environment surroundings.terminal

/-- The configuration of a run, from a named file or the default one. -/
def settings (surroundings : Surroundings) (configFile : Option String) :
    Except CommandError Settings :=
  let load (file : Option Settings.File) : Except SettingsError Settings :=
    Settings.load surroundings.formats file surroundings.environment
  let loaded := match surroundings.files (configFile.getD Settings.defaultFile) with
    | .absent => load none
    | .file file => load (some file)
    | .unreadable => .error (.load "the configuration file cannot be read")
  loaded.mapError .loading

end Surroundings

/-! ## Commands -/

/-- A configuration as TOML, with an empty line at the end. -/
def showSettings (settings : Settings) : Except CommandError String :=
  match settings.entries? with
  | some entries => .ok (Toml.print entries ++ "\n")
  | none => .error .rendering

/-- What a command other than `config` prints when the service runs. -/
def Command.print {σ : Type} (store : Store σ) (catalog : Catalog) (policies : Nat)
    (format : OutputFormat) (colours : Bool) : Command → Step σ String
  | .check arguments => showDecisions store catalog arguments format colours
  | .rules arguments => showRules store catalog arguments format colours
  | .policy subject => showPolicy store catalog subject format colours
  | .resources => pure (showResources catalog policies format colours)
  | .config => pure ""

/-- What an invocation prints. -/
def Invocation.print (invocation : Invocation) (surroundings : Surroundings) :
    Except CommandError String := do
  let settings ← surroundings.settings invocation.configFile
  match invocation.command with
  | .config => showSettings settings
  | command =>
    let service ← (Service.start .builtin settings).mapError .bootstrapping
    ((command.print (service.store surroundings.clock) service.catalog service.policies
      invocation.format surroundings.colours).run.run service.state).1

/-- The report of an invocation. -/
def Invocation.report (invocation : Invocation) (surroundings : Surroundings) : Report :=
  match invocation.print surroundings with
  | .ok output => ⟨0, output, none⟩
  | .error error =>
    ⟨error.exitStatus, "", some (marked surroundings.colours .red "✗" error.message)⟩

/-! ## Runs without a command -/

def versionText : String := "arbor 0.0.1\n"

/-- The help, as it is where no styles of letters are shown. -/
def helpText : String := String.join (List.map (· ++ "\n") [
  "Inspect hierarchical policies and access decisions",
  "",
  "Usage: arbor [OPTIONS] <COMMAND>",
  "",
  "Commands:",
  "  check      Decide which resources a user may access for a purpose",
  "  rules      Show the merged rules applying to a resource",
  "  policy     Show the policy stored directly on a resource or data type",
  "  resources  List the configured resource tree",
  "  config     Print the effective configuration as TOML",
  "  help       Print this message",
  "",
  "Options:",
  "  -c, --config <CONFIG>  Configuration file (defaults to ./arbor.toml)",
  "  -f, --format <FORMAT>  Output format: table or json",
  "  -h, --help             Print help",
  "  -V, --version          Print version"])

/-- The report of a run that ends before a command is known. -/
def Interruption.report : Interruption → Report
  | .help => ⟨0, helpText, none⟩
  | .version => ⟨0, versionText, none⟩
  | .usage error =>
    ⟨2, "", some s!"error: {error.message}\n\nFor more information, try '--help'.\n"⟩

/-- The variable that names the file of the configuration. -/
def fileVariable : String := "ARBOR_CONFIG"

/-- What arguments ask for in an environment. -/
def invocation (arguments : List String) (environment : List (String × String)) :
    Except Interruption Invocation :=
  Invocation.ofArguments arguments (environment.lookup fileVariable)

/-- A run of the program. -/
def run (arguments : List String) (surroundings : Surroundings) : Report :=
  match invocation arguments surroundings.environment with
  | .error interruption => interruption.report
  | .ok invocation => invocation.report surroundings

end PolicyTree.CommandLine
