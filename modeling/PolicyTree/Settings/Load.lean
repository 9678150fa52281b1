import PolicyTree.Document.Lenient
import PolicyTree.Document.Path
import PolicyTree.Settings.Codec
import PolicyTree.Settings.Error
import PolicyTree.Text.Fields
import PolicyTree.Toml.Parser
/-
  A configuration from a file and the environment. The environment comes last: a variable
  `ARBOR__CACHE__TTL_SECS` sets `cache.ttl_secs`. The names of variables are taken in small
  letters. A file that is not there is no error: defaults and the environment still count.

  The name of a file says what format it has. TOML is read here; how other formats are read is
  left open.
-/
namespace PolicyTree.Settings

/-- The file that is read when no other one is named. -/
def defaultFile : String := "arbor.toml"

/-- What the names of the variables that count start with, in small letters. -/
def variableStart : String := "arbor__"

/-- Dots for double underscores. -/
def dotted : List Char → List Char
  | '_' :: '_' :: cs => '.' :: dotted cs
  | c :: cs => c :: dotted cs
  | [] => []

/-- The small letter of a capital one, where it is of the English alphabet. The Kelvin sign is
a capital letter of `k`. A name with any other letter sets no place that is read. -/
def smallLetter (c : Char) : Char := if c = '\u212A' then 'k' else c.toLower

/-- The path that a variable sets, if it counts. -/
def variablePath? (name : String) : Option String :=
  let lower := name.toList.map smallLetter
  let start := variableStart.toList
  if start.isPrefixOf lower then some (String.ofList (dotted (lower.drop start.length))) else none

/-- The value of a variable: a flag, an integer, a real number, or else a text. -/
def variableValue (text : String) : Document :=
  match String.ofList (text.toList.map Char.toLower) with
  | "true" => .flag true
  | "false" => .flag false
  | _ =>
    match Decimal.signedWord? text with
    | some n => .integer n
    | none =>
      match Decimal.real? text with
      | some x => .real x
      | none => .text text

/-- A document with the entries of a file set in it. -/
def withFile (document : Document) (file : Document) : Document :=
  file.entries.foldl (fun document (key, value) => document.setPath key value) document

/-- A document with the variables that count set in it. -/
def withEnvironment (document : Document) (environment : List (String × String)) : Document :=
  environment.foldl (fun document (name, text) =>
    match variablePath? name with
    | some path => document.setPath path (variableValue text)
    | none => document) document

/-! ## Files -/

/-- A file under the name that it is found by. -/
structure File where
  name : String
  content : String
  deriving DecidableEq, Repr

/-- How files with an extension are read, if they are at all. -/
abbrev Formats := (extension : String) → Option ((text : String) → Option Document)

namespace File

/-- What stands behind the last dot of the name. A dot that starts a name has no extension behind
it. -/
def extension (file : File) : String :=
  match Text.split '.' ((Text.split '/' file.name).getLastD "") with
  | [_] => ""
  | ["", _] => ""
  | parts => parts.getLastD ""

/-- The document in a file. A byte order mark of the file may stand before that of the text. -/
def document (file : File) (others : Formats) : Except SettingsError Document :=
  let format := if file.extension = "toml" then some Toml.parse? else others file.extension
  match format with
  | none => .error (.load "the configuration file is not of a registered file format")
  | some parse? =>
    match parse? (String.ofList (Toml.afterMark file.content.toList)) with
    | none => .error (.load "the configuration file is not valid")
    | some document => .ok document

end File

/-! ## Configurations -/

/-- The configuration that a file, if there is one, and the environment make up. -/
def load (others : Formats) (file : Option File) (environment : List (String × String)) :
    Except SettingsError Settings := do
  let fromFile ← match file with
    | none => pure Document.emptyTable
    | some file => file.document others
  let merged := withEnvironment (withFile .emptyTable fromFile) environment
  let some settings := Settings.read Document.reading merged
    | throw (.load "the configuration does not have the expected form")
  match settings.validate with
  | .ok () => return settings
  | .error violation => throw (.validation violation)

end PolicyTree.Settings
