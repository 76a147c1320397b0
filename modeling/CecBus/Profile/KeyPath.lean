import CecBus.Text.Pieces
import CecBus.Yaml.Value

/-! Key paths: names of entries with slashes between them. A name selects an entry of a mapping or, as a
numeral, an item of a sequence; tags on the way are looked through, and empty names select the place where
one stands. -/

namespace CecBus.KeyPath

def names (path : String) : List String :=
  ((Text.pieces '/' path.toList).filter (!·.isEmpty)).map String.ofList

def dropEndSlashes (text : List Char) : List Char := (text.reverse.dropWhile (· = '/')).reverse

/-- One path behind another, with one slash between them. -/
def join (base key : String) : String :=
  String.ofList (dropEndSlashes base.toList ++ '/' :: key.toList.dropWhile (· = '/'))

def valueOf? (entries : List (Yaml.Value × Yaml.Value)) (key : Yaml.Value) : Option Yaml.Value :=
  (entries.find? (·.1.same key)).map (·.2)

/-- The place one name leads to. In a mapping text comes before number. -/
def step (name : String) : Yaml.Value → Option Yaml.Value
  | .mapping entries =>
    (valueOf? entries (.string name)).or
      ((Numeral.word? name).bind fun n => valueOf? entries (.integer n))
  | .sequence items => (Numeral.word? name).bind (items[·]?)
  | .tagged _ value => step name value
  | _ => none

/-- The place a list of names leads to. -/
def follow (value : Yaml.Value) (path : List String) : Option Yaml.Value :=
  path.foldlM (fun value name => step name value) value

end CecBus.KeyPath
