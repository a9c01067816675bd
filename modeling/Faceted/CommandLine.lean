import Faceted.Backend.Address
import Faceted.Backend.Exchange
import Faceted.Config.Environment
import Faceted.Json.Printer

/-!
# The command line

The program runs one search: the text is an argument, and options say which page is shown, what is
selected and where the configuration is. A run is a function of the arguments, the files, the
environment variables and what the network delivers; it ends with an exit code, with the results on
standard output, and with what is logged or complained about on standard error.

## Main definitions

* `CommandLine.Arguments`, `Arguments.read` — what is asked for
* `CommandLine.UsageError` — why arguments ask for nothing
* `CommandLine.Session` — a search that is ready to run
* `CommandLine.Ending` — how a run ends, and what is written then
* `CommandLine.run` — a run from its arguments to its end
-/

namespace Faceted.CommandLine

/-! ### Arguments -/

/-- An option. -/
inductive OptionName where
  | page
  | size
  | facets
  | byDate
  | tenant
  | configDirectory
deriving DecidableEq, Repr

namespace OptionName

/-- How an option is written after its two dashes. -/
def text : OptionName → String
  | .page => "page"
  | .size => "size"
  | .facets => "facets"
  | .byDate => "by-date"
  | .tenant => "tenant"
  | .configDirectory => "config-dir"

/-- All options. -/
def all : List OptionName := [.page, .size, .facets, .byDate, .tenant, .configDirectory]

/-- The option that is written like this. -/
def ofText? (text : String) : Option OptionName :=
  all.find? fun name => name.text == text

/-- Whether an option stands alone. The others take a value. -/
def isFlag (name : OptionName) : Bool := name == .byDate

end OptionName

/-- Why arguments ask for nothing. -/
inductive UsageError where
  | unknown (argument : String)
  | repeated (name : OptionName)
  | missingValue (name : OptionName)
  | unexpectedValue (name : OptionName)
  | invalidValue (name : OptionName) (value : String)
  | secondText (argument : String)
deriving DecidableEq, Repr

/-- What is said of the error. -/
def UsageError.message : UsageError → String
  | .unknown argument => "unexpected argument '" ++ argument ++ "'"
  | .repeated name => "option '--" ++ name.text ++ "' is given more than once"
  | .missingValue name => "option '--" ++ name.text ++ "' needs a value"
  | .unexpectedValue name => "option '--" ++ name.text ++ "' takes no value"
  | .invalidValue name value => "'" ++ value ++ "' is no value of option '--" ++ name.text ++ "'"
  | .secondText argument => "a second text '" ++ argument ++ "'"

/-- An argument as it is meant. -/
inductive Given where
  | text (text : String)
  | flag (name : OptionName)
  | option (name : OptionName) (value : String)
deriving DecidableEq, Repr

/-- Whether an argument looks like an option. A single dash does not. -/
def isDashed (argument : String) : Bool :=
  match argument.toList with
  | '-' :: _ :: _ => true
  | _ => false

/-- What follows the two dashes of an argument: the name of an option and the value that an equals
sign attaches to it. -/
def splitOption? (argument : String) : Option (String × Option String) :=
  match argument.toList with
  | '-' :: '-' :: rest =>
    let name := String.ofList (rest.takeWhile fun c => c != '=')
    match rest.dropWhile fun c => c != '=' with
    | [] => some (name, none)
    | _ :: value => some (name, some (String.ofList value))
  | _ => none

/-- What arguments mean, one by one. After two dashes alone, all are texts. -/
def Given.ofArguments : List String → Except UsageError (List Given)
  | [] => .ok []
  | argument :: rest =>
    if argument = "--" then .ok (rest.map .text)
    else if !isDashed argument then do
      return .text argument :: (← ofArguments rest)
    else
      match (splitOption? argument).bind fun split =>
          (OptionName.ofText? split.1).map (·, split.2) with
      | none => .error (.unknown argument)
      | some (name, attached) =>
        if name.isFlag then
          match attached with
          | none => do return .flag name :: (← ofArguments rest)
          | some _ => .error (.unexpectedValue name)
        else
          match attached, rest with
          | some value, rest => do return .option name value :: (← ofArguments rest)
          | none, [] => .error (.missingValue name)
          | none, value :: rest =>
            if isDashed value then .error (.missingValue name)
            else do return .option name value :: (← ofArguments rest)

/-- What is asked for; what is not given is `none`. -/
structure Arguments where
  text : Option String := none
  page : Option Nat := none
  size : Option Nat := none
  /-- Selections as JSON. -/
  facets : Option String := none
  byDate : Bool := false
  tenant : Option TenantId := none
  configDirectory : Option String := none
deriving DecidableEq, Repr

namespace Arguments

/-- A number of a page or of results: an integer from zero on that fits 32 bits. -/
def number? (name : OptionName) (text : String) : Except UsageError Nat :=
  match Decimal.Numeral.integer? text.toList with
  | some n => if 0 ≤ n ∧ n < (1 <<< 32 : Nat) then .ok n.toNat else .error (.invalidValue name text)
  | none => .error (.invalidValue name text)

/-- The value of an option that must not have one yet. -/
def once {α : Type} (name : OptionName) (old : Option α) (new : Except UsageError α) :
    Except UsageError (Option α) :=
  match old with
  | none => new.map some
  | some _ => .error (.repeated name)

/-- Adds an argument. -/
def add (arguments : Arguments) : Given → Except UsageError Arguments
  | .text text =>
    match arguments.text with
    | none => .ok { arguments with text := some text }
    | some _ => .error (.secondText text)
  | .flag name =>
    if arguments.byDate then .error (.repeated name) else .ok { arguments with byDate := true }
  | .option name value =>
    match name with
    | .page => do return { arguments with page := ← once name arguments.page (number? name value) }
    | .size => do return { arguments with size := ← once name arguments.size (number? name value) }
    | .facets => do return { arguments with facets := ← once name arguments.facets (.ok value) }
    | .tenant => do return { arguments with tenant := ← once name arguments.tenant (.ok ⟨value⟩) }
    | .configDirectory => do
      return { arguments with configDirectory := ← once name arguments.configDirectory (.ok value) }
    | .byDate => .error (.unexpectedValue name)

/-- Reads arguments. -/
def read (arguments : List String) : Except UsageError Arguments := do
  (← Given.ofArguments arguments).foldlM add {}

/-- Where the configuration is, if it is not said. -/
def defaultDirectory : String := "config"

/-- Where the configuration is. -/
def directory (arguments : Arguments) : String :=
  arguments.configDirectory.getD defaultDirectory

/-- What is selected; nothing if nothing is given. -/
def selections? (arguments : Arguments) : Option Selections :=
  match arguments.facets with
  | none => some []
  | some text => Selections.ofText? text

/-- The search that is asked for. -/
def request (arguments : Arguments) (settings : SearchSettings) (selections : Selections) :
    Request where
  text := arguments.text.getD ""
  page :=
    { index := arguments.page.getD 0
      size := arguments.size.getD settings.pageSize
      byDate := arguments.byDate }
  selections := selections
  tenant := arguments.tenant

end Arguments

/-! ### Endings -/

/-- How a run ends. -/
inductive Ending where
  | misused (error : UsageError)
  | unconfigured (directory : String) (error : Config.Error)
  /-- The selections are malformed. -/
  | unselected
  | failed (error : SearchError)
  | finished (outcome : Outcome)

namespace Ending

/-- The exit code: 2 for arguments that ask for nothing, 1 for errors, and otherwise 0. A search
that finds nothing is no error, but one whose search engine fails is. -/
def exitCode : Ending → UInt8
  | .misused _ => 2
  | .unconfigured _ _ => 1
  | .unselected => 1
  | .failed _ => 1
  | .finished outcome => if outcome.isUnavailable then 1 else 0

/-- What is written to standard output: the results, if anything was searched for. -/
def output : Ending → String
  | .finished (.found results) => results.toJson.pretty ++ "\n"
  | _ => ""

/-- What is logged. -/
def log : Ending → List String
  | .finished (.found _) => ["search completed"]
  | .finished .empty => ["nothing to search for"]
  | .finished .disabled => ["search is disabled in the catalog"]
  | .finished (.unavailable _) => ["search backend failed"]
  | _ => []

/-- What is said of an error of the run. -/
def complaint? : Ending → Option String
  | .misused error => some ("error: " ++ error.message)
  | .unconfigured directory error =>
    some ("Error: Error reading config from " ++ Json.quote directory ++ ": " ++ error.message)
  | .unselected => some "Error: Error parsing --facets: these are no selections"
  | .failed error => some ("Error: " ++ error.message)
  | .finished (.unavailable error) => some ("Error: Search backend unavailable: " ++ error.message)
  | .finished _ => none

end Ending

/-! ### Runs -/

/-- A search that is ready to run. -/
structure Session where
  settings : Settings
  request : Request

namespace Session

/-- Reads arguments, then the configuration, then the selections. `file?` gives the text of
a file in a directory. -/
def prepare (file? : String → String → Option String) (exported : List (String × String))
    (arguments : List String) : Except Ending Session := do
  let arguments ← (Arguments.read arguments).mapError .misused
  let settings ← (Config.read (file? arguments.directory) exported).mapError
    (.unconfigured arguments.directory)
  match arguments.selections? with
  | some selections => return { settings, request := arguments.request settings.search selections }
  | none => throw .unselected

/-- The search engine that is asked, with the catalog and the settings. -/
def service (session : Session) (backend : Backend) : Service where
  backend := backend
  catalog := session.settings.catalog.toCatalog
  settings := session.settings.search

/-- Where a search is posted to. -/
def address (session : Session) : String :=
  Address.search session.settings.backend.url session.settings.backend.index

/-- The search, and the end that it comes to over a network. -/
def run (session : Session) (network : Json → Exchange) : Traced Ending :=
  let backend := Backend.overNetwork network session.settings.search.tenant.idField
  let search := (session.service backend).search session.request
  match search.value with
  | .ok outcome => { value := .finished outcome, events := search.events }
  | .error error => { value := .failed error, events := search.events }

/-- What is posted, if anything is. It is posted before any reply is there,
and so depends on none. -/
def body? (session : Session) : Option Json :=
  (session.run fun _ => .timedOut).events.findSome? fun event =>
    match event with
    | .sent body => some body
    | _ => none

end Session

/-- A run from its arguments to its end. -/
def run (file? : String → String → Option String) (exported : List (String × String))
    (network : Json → Exchange) (arguments : List String) : Ending :=
  match Session.prepare file? exported arguments with
  | .ok session => (session.run network).value
  | .error ending => ending

end Faceted.CommandLine
