import ScriptDefs.Data.Json.Printer
import ScriptDefs.Types.Sample

/-!
# Failures of rendering

Descriptions and names that are no texts, integers with too many digits, samples that cannot be made and
values that have no JSON form stop a rendering.
-/

namespace ScriptDefs

/-- Why an output cannot be rendered. -/
inductive RenderError where
  | format (e : FormatError)
  | notADescription (found : Datum)
  | sample (e : SampleError)
  | json (e : Json.WriteError)
  deriving Repr

namespace Render

/-- A printed type or variable as part of an output. -/
def ofFormat {α : Type} (x : Except FormatError α) : Except RenderError α := x.mapError .format

/-- Plain data as an indented JSON text. -/
def json (d : Datum) : Except RenderError Text :=
  (Json.print Json.indented d).mapError .json

end Render

end ScriptDefs
