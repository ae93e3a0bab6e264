import Tablecast.Storage.Path

/-!
# Settings

Where the two artifacts go and which names they use for what is not generated.
-/

namespace Tablecast

structure Settings where
  /-- Path of the model. -/
  modelOutput : String
  /-- Path of the wire schema. -/
  wireOutput : String
  protoPackage : String
  serviceName : String
  /-- The module of the compiled messages. -/
  protoModule : String
  /-- The module of what every model needs. -/
  supportModule : String
  /-- Files that the wire schema imports for composite messages. -/
  sharedImports : List String
  deriving DecidableEq

/-- Settings that no document can be rendered with. -/
inductive SettingsError where
  | sharedOutput
  | badPackage (name : String)
  | badService (name : String)
  | badModule (path : String)
  deriving DecidableEq

def SettingsError.message (e : SettingsError) : String :=
  "invalid generator config: " ++
    match e with
    | .sharedOutput => "model_output and wire_output must differ"
    | .badPackage name => "invalid proto_package: " ++ name
    | .badService name => "invalid service_name: " ++ name
    | .badModule path => "invalid module path: " ++ path

/-- An ASCII letter or underscore, then letters, digits and underscores. -/
def isIdentifier : List Char → Bool
  | [] => false
  | c :: rest => (c.isAlpha || c == '_') && rest.all fun c => c.isAlphanum || c == '_'

/-- The names of a module path, between double colons. -/
def modulePath : List Char → List (List Char)
  | [] => [[]]
  | ':' :: ':' :: rest => [] :: modulePath rest
  | c :: rest => (modulePath rest).modifyHead (c :: ·)

namespace Settings

def initial : Settings where
  modelOutput := "generated/model.rs"
  wireOutput := "generated/orm.proto"
  protoPackage := "ormgen.data"
  serviceName := "Orm"
  protoModule := "crate::proto"
  supportModule := "crate::orm"
  sharedImports := ["shared.proto"]

def checkModule (path : String) : Except SettingsError Unit :=
  if (modulePath path.toList).all isIdentifier then .ok () else .error (.badModule path)

def validate (s : Settings) : Except SettingsError Unit := do
  if Path.components s.modelOutput = Path.components s.wireOutput then .error .sharedOutput
  if !(Text.pieces (· == '.') s.protoPackage.toList).all isIdentifier then
    .error (.badPackage s.protoPackage)
  if !isIdentifier s.serviceName.toList then .error (.badService s.serviceName)
  checkModule s.protoModule
  checkModule s.supportModule

end Settings

end Tablecast
