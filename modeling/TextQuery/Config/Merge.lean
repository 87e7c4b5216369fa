import TextQuery.Config.Layer
import TextQuery.Files.Path

/-!
# Merging layers

Layers lie on top of each other, the closest one on top. A setting has the value that the topmost
layer defining it gives, and its default if none does.
-/

namespace TextQuery

/-- A configuration: the settings in force and where they come from. -/
structure Config where
  settings : Config.Settings := {}
  /-- The files that were read, closest first. -/
  sources : List Path := []
  /-- The directory of the closest file. -/
  root : Option Path := none
  deriving DecidableEq, Repr

namespace Config

/-- The query settings with what a layer defines put over them. -/
def QueryLayer.over (q : QueryLayer) (s : QuerySettings) : QuerySettings where
  defaultField := q.defaultField.getD s.defaultField
  maxLength := q.maxLength.getD s.maxLength

/-- The output settings with what a layer defines put over them. -/
def OutputLayer.over (o : OutputLayer) (s : OutputSettings) : OutputSettings where
  format := o.format.getD s.format

/-- The settings with what a layer defines put over them. -/
def Layer.over (l : Layer) (s : Settings) : Settings where
  query := match l.query with
    | some q => q.over s.query
    | none => s.query
  output := match l.output with
    | some o => o.over s.output
    | none => s.output

/-- The configuration that files make up, closest first. -/
def merge (files : List (Path × Layer)) : Config where
  settings := files.foldr (fun file s => file.2.over s) {}
  sources := files.map (·.1)
  root := files.head?.bind fun file => file.1.parent?

end Config

end TextQuery
