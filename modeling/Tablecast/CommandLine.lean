/-!
# Command lines

Arguments are judged from left to right: the path of the schema document, `--config` with a path,
`--log-json`, and the requests for help and version, which end the reading at once. Two hyphens end
the options. A path may not be empty, and nothing may be given twice.
-/

namespace Tablecast

/-- What a command line asks for. -/
inductive Invocation where
  | help
  | version
  | generate (schemaPath : String) (configPath : Option String)
  deriving DecidableEq

namespace CommandLine

/-- What the arguments so far have given. -/
structure Given where
  schemaPath : Option String
  configPath : Option String
  jsonLog : Bool

def Given.withSchema (g : Given) (path : String) : Option Given :=
  if path = "" ∨ g.schemaPath.isSome then none else some { g with schemaPath := some path }

def Given.withConfig (g : Given) (path : String) : Option Given :=
  if path = "" ∨ g.configPath.isSome then none else some { g with configPath := some path }

def Given.withJsonLog (g : Given) : Option Given :=
  if g.jsonLog then none else some { g with jsonLog := true }

def Given.finish (g : Given) : Option Invocation :=
  g.schemaPath.map fun path => .generate path g.configPath

/-- A hyphen by itself is a value. -/
def isValue (arg : String) : Bool := arg = "-" || !arg.startsWith "-"

/-- The value attached to the option for the settings. -/
def attachedConfig? (arg : String) : Option String :=
  let mark := "--config=".toList
  if mark.isPrefixOf arg.toList then some (.ofList (arg.toList.drop mark.length)) else none

/-- Behind two hyphens everything is a value. -/
def readValues (g : Given) : List String → Option Invocation
  | [] => g.finish
  | arg :: rest => (g.withSchema arg).bind fun g => readValues g rest

def readArguments (g : Given) : List String → Option Invocation
  | [] => g.finish
  | "--" :: rest => readValues g rest
  | "--help" :: _ => some .help
  | "--version" :: _ => some .version
  | "--log-json" :: rest => g.withJsonLog.bind fun g => readArguments g rest
  | ["--config"] => none
  | "--config" :: value :: rest =>
    if isValue value then (g.withConfig value).bind fun g => readArguments g rest else none
  | arg :: rest =>
    if isValue arg then (g.withSchema arg).bind fun g => readArguments g rest
    else
      match attachedConfig? arg with
      | some value => (g.withConfig value).bind fun g => readArguments g rest
      | none =>
        -- of letters behind one hyphen the first decides
        match arg.toList with
        | '-' :: 'h' :: _ => some .help
        | '-' :: 'V' :: _ => some .version
        | _ => none

/-- What the arguments ask for; none if they are misused. -/
def parse? (arguments : List String) : Option Invocation :=
  readArguments ⟨none, none, false⟩ arguments

end CommandLine

end Tablecast
