/-
**Reading a header.**

The header of a JPEG runs from the start of image to the first scan. It declares the frame and the
quantization tables; no entropy-coded data is read.

* `Header.read` is what the header declares, or why it cannot be read;
* `isTerminated` tells whether an end of image follows the first scan: entropy-coded data never
  holds one, so a stream that was cut short has none.
-/
import JpegTranscoder.Quant.Estimate
import JpegTranscoder.Stream.Frame
import JpegTranscoder.Stream.QuantSegment
import JpegTranscoder.Stream.Segment

namespace JpegTranscoder

/-- What a header declares. -/
structure Header where
  width : UInt16
  height : UInt16
  components : UInt8
  progressive : Bool
  slots : Quant.Slots
  deriving DecidableEq

/-- Why a header was not read. -/
inductive HeaderError where
  /-- The bytes do not begin with a start of image. -/
  | notAJpeg
  /-- The segments cannot be read. -/
  | malformed (fault : HeaderFault)
  deriving DecidableEq, Repr

namespace Header

def luma (header : Header) : Option Quant.Table := header.slots[0]

def chroma (header : Header) : Option Quant.Table := header.slots[1]

/-- The quality that the header's tables are estimated at. -/
def quality (header : Header) : UInt8 := Quant.estimate header.luma header.chroma

def qualityLog (header : Header) : List Log.Record :=
  Quant.estimateLog header.luma header.chroma

/-! ### From items to a header -/

/-- What the items read so far declare. -/
structure Draft where
  frame : Option Frame
  slots : Quant.Slots

/-- Nothing declared. -/
def Draft.empty : Draft := ⟨none, Vector.replicate 4 none⟩

/-- What is declared after one more item. -/
def Draft.add (draft : Draft) : Item → Except HeaderFault Draft
  | .standalone _ => .ok draft
  | .segment marker payload =>
    if Marker.isFrame marker.code then
      if draft.frame.isSome then .error .secondFrame
      else (Frame.read marker.code payload).map fun frame => { draft with frame := some frame }
    else if marker.code = Marker.quantTables then
      (QuantSegment.read payload).map fun entries =>
        { draft with slots := QuantSegment.store draft.slots entries }
    else .ok draft

/-- Reads items up to the first fault, with the warnings of the markers that were reached, after
those in `before`, which has the latest first. -/
def Draft.addOnto (before : List Log.Record) (draft : Draft) :
    List Item → List Log.Record × Except HeaderFault Draft
  | [] => (before.reverse, .ok draft)
  | item :: rest =>
    let told := item.marker.warning.reverse ++ before
    match draft.add item with
    | .error fault => (told.reverse, .error fault)
    | .ok next => next.addOnto told rest

/-- Reads items up to the first fault, with the warnings of the markers that were reached. -/
def Draft.addAll (draft : Draft) (items : List Item) : List Log.Record × Except HeaderFault Draft :=
  draft.addOnto [] items

/-- The warnings before are put in front of the others. -/
theorem Draft.addOnto_eq (before : List Log.Record) (draft : Draft) (items : List Item) :
    draft.addOnto before items =
      (before.reverse ++ (draft.addAll items).1, (draft.addAll items).2) := by
  unfold addAll
  induction items generalizing before draft with
  | nil => simp [addOnto]
  | cons item rest ih =>
    rw [addOnto, addOnto]
    cases draft.add item with
    | error fault => simp
    | ok next =>
      have longer := ih (item.marker.warning.reverse ++ before) next
      have shorter := ih (item.marker.warning.reverse ++ []) next
      simp only [longer, shorter]
      simp

/-- The header that a draft amounts to. -/
def Draft.finish (draft : Draft) : Except HeaderFault Header :=
  match draft.frame with
  | none => .error .noFrame
  | some frame =>
    .ok ⟨frame.width, frame.height, frame.components, Marker.isProgressive frame.code, draft.slots⟩

/-- The header that a draft amounts to when the segments end in the given way, with the bytes after
the start of scan that they end at. -/
def Draft.close (draft : Draft) : Ending → Except HeaderFault (Header × Option Bytes)
  | .scan _ rest => draft.finish.map fun header => (header, some rest)
  | .endOfImage _ _ => draft.finish.map fun header => (header, none)
  | .noMarker => .error .noMarker
  | .broken _ fault => .error fault

/-! ### From bytes to a header -/

/-- A walk over the segments of a header: what was logged, and the header with the bytes after the
first start of scan, if the header ended at one. -/
structure Walk where
  log : List Log.Record
  result : Except HeaderError (Header × Option Bytes)

def beginsImage : Bytes → Bool
  | first :: second :: _ => first == 0xFF && second == Marker.startOfImage
  | _ => false

/-- Walks over the segments of a header. -/
def walk (bytes : Bytes) : Walk :=
  if beginsImage bytes then
    let (items, ending) := Segment.split (bytes.drop 2)
    match Draft.empty.addAll items with
    | (log, .error fault) => ⟨log, .error (.malformed fault)⟩
    | (log, .ok draft) => ⟨log ++ ending.warning, (draft.close ending).mapError .malformed⟩
  else ⟨[], .error .notAJpeg⟩

/-- What the header of the bytes declares. -/
def read (bytes : Bytes) : Except HeaderError Header := (walk bytes).result.map Prod.fst

end Header

/-- Whether an end of image follows the start of the first scan. -/
def isTerminated (bytes : Bytes) : Except HeaderError Bool :=
  (Header.walk bytes).result.map fun walked =>
    match walked.2 with
    | some rest => containsPair 0xFF Marker.endOfImage rest
    | none => false

end JpegTranscoder
