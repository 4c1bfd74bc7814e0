import DottedSchema.Classes.Module
import DottedSchema.Conversion

set_option autoImplicit false

namespace DottedSchema.CommandLine

inductive Output where
  | artifact (artifact : Artifact)
  | classes (format : ClassFormat)
deriving DecidableEq

def Output.name : Output → String
  | .artifact .jsonSchema => "jsonschema"
  | .artifact .searchMapping => "elasticsearch"
  | .classes format => format.name

def outputs : List Output :=
  [.artifact .jsonSchema, .artifact .searchMapping, .classes .marshmallow, .classes .dataclasses]

def Output.ofName? (name : String) : Option Output := outputs.find? (·.name = name)

def Output.options : Output → Options
  | .artifact a => .standard a
  | .classes _ => .standard .jsonSchema

inductive Request where
  | help
  | version
  | run (input : String) (output : Output)
deriving DecidableEq

inductive Positional where
  | none
  | input (input : String)
  | both (input output : String)

def Positional.isValid : Positional → Bool
  | .none => true
  | .input file => file ≠ ""
  | .both file output => file ≠ "" && (Output.ofName? output).isSome

def Positional.request? : Positional → Option Request
  | .both file output => if file = "" then Option.none else (Output.ofName? output).map (.run file)
  | _ => Option.none

def Positional.add? (argument : String) : Positional → Option Positional
  | .none => some (.input argument)
  | .input file => some (.both file argument)
  | .both _ _ => Option.none

inductive ArgumentKind where
  | endOfOptions
  | option (request : Request)
  | unknownOption
  | positional

/-- A lone dash is positional; of joined short options the first one decides. -/
def argumentKind (argument : String) : ArgumentKind :=
  match argument.toList with
  | ['-', '-'] => .endOfOptions
  | '-' :: '-' :: _ =>
    if argument = "--help" then .option .help
    else if argument = "--version" then .option .version
    else .unknownOption
  | '-' :: 'h' :: _ => .option .help
  | '-' :: 'V' :: _ => .option .version
  | ['-'] => .positional
  | '-' :: _ => .unknownOption
  | _ => .positional

/-- The request of an argument list; none where its use is wrong. Positional arguments are checked before an option
behind them is answered. -/
def parseFrom (optionsEnded : Bool) (found : Positional) : List String → Option Request
  | [] => found.request?
  | argument :: rest =>
    if optionsEnded then (found.add? argument).bind (parseFrom true · rest)
    else match argumentKind argument with
      | .endOfOptions => parseFrom true found rest
      | .option request => if found.isValid then some request else none
      | .unknownOption => none
      | .positional => (found.add? argument).bind (parseFrom false · rest)

def parse (arguments : List String) : Option Request := parseFrom false .none arguments

def versionText : String := "omas-convert 0.1.0\n"

def usageLine : String := "Usage: omas-convert <INPUT> <TARGET>\n"

def helpText : String := String.join [
  "Convert the OMAS gyrokinetics schema into JSON Schema, an Elasticsearch mapping or Python classes\n",
  "\n",
  usageLine,
  "\n",
  "Arguments:\n",
  "  <INPUT>   OMAS schema file (flat dotted-path JSON document)\n",
  "  <TARGET>  Output format [possible values: jsonschema, elasticsearch, marshmallow, dataclasses]\n",
  "\n",
  "Options:\n",
  "  -h, --help     Print help\n",
  "  -V, --version  Print version\n"]

structure Outcome where
  status : Nat
  stdout : String
  stderr : String
deriving DecidableEq

def Outcome.success (stdout : String) : Outcome := ⟨0, stdout, ""⟩

def indent (message : String) : String :=
  String.ofList (message.toList.flatMap fun c => if c = '\n' then ['\n', ' ', ' ', ' ', ' '] else [c])

def Outcome.failure (heading : String) (fault : Fault) : Outcome :=
  ⟨1, "", "Error: " ++ heading ++ "\n\nCaused by:\n    " ++ indent fault.message ++ "\n"⟩

def Outcome.usage : Outcome := ⟨2, "", "error: wrong arguments\n\n" ++ usageLine⟩

def write (output : Output) (root : String) (schema : Json) : Outcome :=
  match output with
  | .artifact _ => .success (schema.pretty ++ "\n")
  | .classes format =>
    match format.generate root schema with
    | .ok source => .success source
    | .error fault => .failure ("Failed to generate " ++ format.name ++ " classes") fault

def execute (files : FileSource) : Request → Outcome
  | .help => .success helpText
  | .version => .success versionText
  | .run input output =>
    match convertFile files input output.options with
    | .ok schema => write output output.options.root schema
    | .error fault => .failure "Conversion failed" fault

def run (files : FileSource) (arguments : List String) : Outcome :=
  match parse arguments with
  | some request => execute files request
  | none => .usage

end DottedSchema.CommandLine
