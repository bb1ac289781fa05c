import PulseTrain.Document.Experiment
import PulseTrain.Document.Json.Reader
import PulseTrain.Document.Yaml.Reader
import PulseTrain.Text.Lowercase

/-!
# Parameter files

The parameters of an experiment step are written in JSON or YAML. The extension of the file says in
which; if it does not, JSON is tried before YAML. In JSON a list of values may stand for a record.
-/

namespace PulseTrain

/-- A way to write documents. -/
inductive Markup where
  /-- Nested braces and brackets. -/
  | json
  /-- Indented blocks. -/
  | yaml
deriving DecidableEq

namespace Markup

/-- The name of a markup. -/
def name : Markup → String
  | json => "JSON"
  | yaml => "YAML"

/-- The document that a text is. -/
def read? : Markup → String → Option Node
  | json => Json.read?
  | yaml => Yaml.read?

/-- The markup that a file extension stands for, in any case. -/
def ofExtension? (extension : String) : Option Markup :=
  match Text.lowercase extension with
  | "json" => some json
  | "yaml" => some yaml
  | "yml" => some yaml
  | _ => none

end Markup

/-- Why a text in a markup is not a value of a type. -/
structure MarkupError where
  /-- The markup. -/
  markup : Markup
  /-- What is wrong. -/
  reason : String
deriving DecidableEq

namespace MarkupError

/-- The wording of an error. -/
def message (e : MarkupError) : String := s!"{e.markup.name} parse error: {e.reason}"

end MarkupError

namespace TimingParams

/-- The parameters that a text gives in a markup. -/
def ofMarkup (m : Markup) (text : String) : Except MarkupError TimingParams :=
  match m.read? text with
  | none => .error ⟨m, s!"not a {m.name} document"⟩
  | some n =>
    let n := match m with
      | .json => labelled n
      | .yaml => n
    (ofNode n).mapError fun e => ⟨m, e.message⟩

/-- The parameters that the text of a file with that extension gives. -/
def ofText (extension : Option String) (text : String) : Except MarkupError TimingParams :=
  match extension.bind Markup.ofExtension? with
  | some m => ofMarkup m text
  | none =>
    match ofMarkup .json text with
    | .ok p => .ok p
    | .error _ => ofMarkup .yaml text

end TimingParams

end PulseTrain
