import Faceted.Config.Layers
import Faceted.Config.Yaml
import Faceted.Search.Errors

/-!
# Configuration of the program

The program is configured by a base file, a file for the environment that it runs in, and
environment variables, in this order.

## Main definitions

* `Config.Environment` — where the program runs
* `Config.variableLayer` — what environment variables configure
* `Config.read` — the settings
-/

namespace Faceted.Config

/-- Where the program runs. -/
inductive Environment where
  | development
  | production
deriving DecidableEq, Repr

namespace Environment

/-- What an environment is called. -/
def name : Environment → String
  | .development => "local"
  | .production => "production"

/-- The environment of a name, in any case. -/
def ofName? (text : String) : Option Environment :=
  [development, production].find? fun environment =>
    environment.name.toList == text.toList.map Char.toLower

/-- What is said of a name that no environment has. -/
def noMatch : String := "Matching variant not found"

/-- The file of an environment. -/
def fileName (environment : Environment) : String := environment.name ++ ".yaml"

end Environment

/-- The file that holds for all environments. -/
def baseFile : String := "base.yaml"

/-- The files that may be read. -/
def fileNames :
    List String := [baseFile, Environment.development.fileName, Environment.production.fileName]

/-- Why there are no settings. -/
inductive Error where
  /-- The environment is none that is known. -/
  | environment
  /-- The base file is missing. -/
  | missingBase
  /-- A file is not well formed, or is no table. -/
  | malformed (file : String)
  /-- The configuration does not have the form of settings. -/
  | settings
deriving DecidableEq, Repr

/-- What is said of the error. -/
def Error.message : Error → String
  | .environment => "Failed to parse APP_ENVIRONMENT: " ++ Environment.noMatch
  | .missingBase => "configuration file \"" ++ baseFile ++ "\" not found"
  | .malformed file => "configuration file \"" ++ file ++ "\" is malformed"
  | .settings => "the configuration does not have the form of settings"

/-- The variable that names the environment. -/
def environmentVariable : String := "APP_ENVIRONMENT"

/-- What the names of the variables that configure begin with. -/
def variableStart : String := "facet_"

/-- Writes a point for each two underscores in a row. -/
def pointed : List Char → List Char
  | '_' :: '_' :: rest => '.' :: pointed rest
  | c :: rest => c :: pointed rest
  | [] => []

/-- The place that a variable configures, if it does: its name in small
letters without the start. -/
def variablePlace? (name : String) : Option String :=
  let chars := (Text.lower name).toList
  let start := variableStart.toList
  if chars.take start.length == start then some (String.ofList (pointed (chars.drop start.length)))
  else none

/-- What environment variables configure; their values are strings. -/
def variableLayer (exported : List (String × String)) : List (String × Value) :=
  Entries.ofPairs (exported.filterMap fun given =>
    (variablePlace? given.1).map (·, Value.text given.2))

/-- The table of a file. -/
def fileLayer (name text : String) : Except Error (List (String × Value)) :=
  match Yaml.read? text with
  | some entries => .ok entries
  | none => .error (.malformed name)

/-- The settings, from the texts of files and from environment variables. The base file must be
there, the file of the environment need not. -/
def read (file? : String → Option String) (exported : List (String × String)) :
    Except Error Settings := do
  let environment ←
    match Environment.ofName?
        (((exported.find? fun v => v.1 == environmentVariable).map Prod.snd).getD
          Environment.development.name) with
    | some environment => .ok environment
    | none => .error Error.environment
  let base ←
    match file? baseFile with
    | some text => fileLayer baseFile text
    | none => .error .missingBase
  let special ←
    match file? environment.fileName with
    | some text => fileLayer environment.fileName text
    | none => .ok []
  let config := addLayer (addLayer (addLayer (.table []) base) special) (variableLayer exported)
  match Settings.read? config with
  | some settings => .ok settings
  | none => .error .settings

end Faceted.Config
