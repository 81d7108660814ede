/-
**Options, metadata and states as JSON.**

A record is an object or an array of its fields in order. An object may have fields of other names,
which do not count, but none of its own fields twice. Every record is written as an object without
blanks.
-/
import JpegTranscoder.Error
import JpegTranscoder.Json.Value
import JpegTranscoder.Options

namespace JpegTranscoder.Json

/-! ### Fields -/

/-- The natural number of a value, if it is at most `largest`. -/
def Value.natural (largest : Nat) : Value → Option Nat
  | .number (some value) => if value ≤ largest then some value else none
  | _ => none

def Value.byte (value : Value) : Option UInt8 := (value.natural 255).map UInt8.ofNat

def Value.word (value : Value) : Option UInt16 := (value.natural 65535).map UInt16.ofNat

def Value.truth : Value → Option Bool
  | .boolean value => some value
  | _ => none

/-- The values of the named fields of a record, in the order of the names: missing fields are
`none`. The record has no value if a name has no text, a named field comes twice, or an array has
more items than there are names. -/
def Value.fields (names : List String) : Value → Option (List (Option Value))
  | .array items =>
    if items.length ≤ names.length then
      some (items.map some ++ List.replicate (names.length - items.length) none)
    else none
  | .object fields =>
    let named (name : String) := fields.filter fun field => field.1 == some name
    if fields.any (fun field => field.1.isNone) ||
        names.any (fun name => decide (1 < (named name).length)) then none
    else some (names.map fun name => (named name).head?.map Prod.snd)
  | _ => none

/-- The value of a field that may be missing. -/
def optionalField {α : Type} (read : Value → Option α) (default : α) : Option Value → Option α
  | none => some default
  | some value => read value

/-! ### Records -/

/-- Reads options; missing fields have their defaults. -/
def readOptions (text : String) : Option Options := do
  match ← (← Value.read text).fields ["target_quality", "strip_metadata"] with
  | [target, strip] =>
    return ⟨← optionalField Value.byte 0 target, ← optionalField Value.truth false strip⟩
  | _ => none

def writeOptions (options : Options) : String :=
  let target := options.targetQuality
  let strip := options.stripMetadata
  s!"\x7b\"target_quality\":{target},\"strip_metadata\":{strip}\x7d"

/-- Reads metadata; no field may be missing. -/
def readMetadata (text : String) : Option Metadata := do
  match ← (← Value.read text).fields ["width", "height", "quality"] with
  | [some width, some height, some quality] =>
    return ⟨← width.word, ← height.word, ← quality.byte⟩
  | _ => none

def writeMetadata (metadata : Metadata) : String :=
  let width := metadata.width
  let height := metadata.height
  let quality := metadata.quality
  s!"\x7b\"width\":{width},\"height\":{height},\"quality\":{quality}\x7d"

/-! ### States -/

def stateName : State → String
  | .created => "Created"
  | .headerRead => "HeaderRead"
  | .decoded => "Decoded"
  | .encoded => "Encoded"
  | .closed => "Closed"
  | .failed => "Failed"

def states : List State := [.created, .headerRead, .decoded, .encoded, .closed, .failed]

def stateOfName (name : String) : Option State := states.find? fun state => stateName state == name

/-- Reads a state: its name, or an object whose only field has that name and the value `null`. -/
def readState (text : String) : Option State := do
  match ← Value.read text with
  | .string (some name) => stateOfName name
  | .object [(some name, .null)] => stateOfName name
  | _ => none

def writeState (state : State) : String := "\"" ++ stateName state ++ "\""

end JpegTranscoder.Json
