import Tablecast.Artifact.WireSchema
import Tablecast.Plan.Resolve

/-!
# Rendering

A document is rendered as a whole or not at all: settings and document are checked before the
first line is written.
-/

namespace Tablecast

/-- The texts of the two artifacts. -/
structure Artifacts where
  model : String
  wireSchema : String
  deriving DecidableEq

inductive RenderError where
  | document (e : DocumentError)
  | settings (e : SettingsError)
  deriving DecidableEq

def RenderError.message : RenderError → String
  | .document e => e.message
  | .settings e => e.message

namespace Artifact

/-- The first line of every artifact. -/
def marker : String := "// @generated by ormgen. Do not edit."

def unusedAllowed : String := "#[allow(unused_imports)]"

/-- What every model imports. -/
def importLines (s : Settings) : List String :=
  [unusedAllowed, "use chrono::\x7bNaiveDate, NaiveDateTime\x7d;",
    unusedAllowed, "use rust_decimal::Decimal;",
    unusedAllowed,
    "use " ++ s.supportModule ++ "::\x7bself as support, Related, TableAccessor\x7d;",
    unusedAllowed, "use " ++ s.protoModule ++ "::*;"]

/-- Every line ends in a line feed. -/
def textOfLines (lines : List String) : String := "\n".intercalate lines ++ "\n"

end Artifact

open Artifact

def Plan.modelLines (p : Plan) (s : Settings) : List String :=
  [marker, ""] ++ importLines s ++ [""] ++ p.registryLines ++
  p.tables.flatMap fun t => "" :: t.modelLines

def Plan.artifacts (p : Plan) (s : Settings) : Artifacts where
  model := textOfLines (p.modelLines s)
  wireSchema := textOfLines ([marker, ""] ++ p.wireSchemaLines s)

/-- Settings are judged before the document. -/
def Document.render (d : Document) (s : Settings) : Except RenderError Artifacts := do
  s.validate.mapError .settings
  let plan ← d.resolve.mapError .document
  pure (plan.artifacts s)

end Tablecast
