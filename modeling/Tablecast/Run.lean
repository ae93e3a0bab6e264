import Tablecast.Artifact.Render
import Tablecast.CommandLine
import Tablecast.Document.Reader
import Tablecast.Settings.Reader
import Tablecast.Storage.Publication

/-!
# Runs

A run reads settings and document, renders the artifacts and publishes them. Settings come first,
so a fault in them is reported before one in the document.
-/

namespace Tablecast

open Storage

inductive RunError where
  | unreadable (path : String)
  | unwritable (path : String)
  | invalidOutput (path : String)
  | document (e : DocumentError)
  | render (e : RenderError)
  /-- The file of settings holds none. -/
  | badSettings
  deriving DecidableEq

def RunError.message : RunError → String
  | .unreadable path => "failed to read " ++ path
  | .unwritable path => "failed to write " ++ path
  | .invalidOutput path => "invalid output path: " ++ path
  | .document e => "schema error: " ++ e.message
  | .render e => "render error: " ++ e.message
  | .badSettings => "toml decode error"

def RunError.ofPublication : PublicationError → RunError
  | .invalidOutput path => .invalidOutput path
  | .unwritable path => .unwritable path

/-- The two outputs of a run. -/
def Artifacts.outputs (a : Artifacts) (s : Settings) : List Output :=
  [⟨s.modelOutput, a.model⟩, ⟨s.wireOutput, a.wireSchema⟩]

/-- The artifacts of a document's text. -/
def renderText (s : Settings) (text : String) : Except RunError Artifacts := do
  let document ← (Document.parse text).mapError fun fault => .document (.unreadable fault)
  (document.render s).mapError .render

namespace Run

variable {m : Type → Type} [Monad m] (disk : Disk m)

/-- The settings in a file, or the initial ones without a file. -/
def loadSettings (configPath : Option String) : m (Except RunError Settings) :=
  match configPath with
  | none => pure (.ok .initial)
  | some path => do
    match ← disk.read path with
    | none => pure (.error (.unreadable path))
    | some text =>
      match Settings.read? text with
      | none => pure (.error .badSettings)
      | some s => pure (.ok s)

def renderFile (s : Settings) (schemaPath : String) : m (Except RunError Artifacts) := do
  match ← disk.read schemaPath with
  | none => pure (.error (.unreadable schemaPath))
  | some text => pure (renderText s text)

/-- Generates the artifacts of the document at a path. -/
def generate (schemaPath : String) (configPath : Option String) : m (Except RunError Unit) := do
  match ← loadSettings disk configPath with
  | .error e => pure (.error e)
  | .ok s =>
    match ← renderFile disk s schemaPath with
    | .error e => pure (.error e)
    | .ok artifacts =>
      let published ← disk.publishOutputs (artifacts.outputs s)
      pure (published.mapError .ofPublication)

end Run

/-- How a program ends. -/
inductive Outcome where
  | usage
  | help
  | version
  | failed (e : RunError)
  | done
  deriving DecidableEq

def Outcome.exitCode : Outcome → UInt32
  | .help | .version | .done => 0
  | .failed _ => 1
  | .usage => 2

def versionText : String := "ormgen 0.1.0\n"

/-- Does what the arguments ask for. -/
def run {m : Type → Type} [Monad m] (disk : Disk m) (arguments : List String) : m Outcome :=
  match CommandLine.parse? arguments with
  | none => pure .usage
  | some .help => pure .help
  | some .version => pure .version
  | some (.generate schemaPath configPath) => do
    match ← Run.generate disk schemaPath configPath with
    | .ok () => pure .done
    | .error e => pure (.failed e)

end Tablecast
