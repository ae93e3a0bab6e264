import Tablecast.Naming

/-!
# Identifiers of the model

A field keeps its name unless the model's language reserves it. Most reserved words can be written
as raw identifiers; three cannot, and get an underscore.
-/

namespace Tablecast.Artifact

def keywords : List String := [
  "abstract", "as", "async", "await", "become", "box", "break", "const", "continue", "do",
  "dyn", "else", "enum", "extern", "false", "final", "fn", "for", "gen", "if", "impl", "in",
  "let", "loop", "macro", "match", "mod", "move", "mut", "override", "priv", "pub", "ref",
  "return", "static", "struct", "trait", "true", "try", "type", "typeof", "unsafe", "unsized",
  "use", "virtual", "where", "while", "yield"]

/-- Words that name a place in a path and cannot be raw identifiers. -/
def pathKeywords : List String := ["crate", "self", "super"]

/-- The identifier of a field in the model, as the compiled message names it too. -/
def fieldIdent (fieldName : String) : String :=
  let name := Naming.field fieldName
  if pathKeywords.contains name then name ++ "_"
  else if keywords.contains name then "r#" ++ name
  else name

end Tablecast.Artifact
