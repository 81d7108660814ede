/-
**Decoding a whole stream.**

A stream is a header and then scans, each followed by more segments. The quantization tables of the
header hold for the whole frame; what else the segments declare holds from there on. The blocks
collect what the scans send. A frame needs 8-bit samples, a size, and one to four components, and it
is sequential or progressive with Huffman codes.

* `Decoder.inspect` accepts a stream by its header alone, that of the first scan included: all that
  the header declares has to make sense;
* `Decoder.decode` fails for a table that is missing and for a scan that does not fit the frame;
  entropy-coded data that makes no sense leaves its blocks as they are.
-/
import JpegTranscoder.Dct.Picture
import JpegTranscoder.Dct.Scan

namespace JpegTranscoder.Dct

/-- Why a stream is not decoded. -/
inductive DecodeFault where
  /-- There is no scan. -/
  | noScan
  /-- There is no frame header. -/
  | noFrame
  /-- The frame is of another kind. -/
  | unsupportedFrame (code : UInt8)
  /-- The frame header does not end with its list of components. -/
  | frameLength
  /-- The samples are not of 8 bits. -/
  | precision (bits : Nat)
  /-- The frame has no width or no height. -/
  | emptyFrame
  /-- The frame has no components, or more than four; to be decoded, it has not two either. -/
  | componentCount (count : Nat)
  /-- A sampling rate is zero. -/
  | zeroRate
  /-- A quantization slot is not one of four. -/
  | quantSlot (slot : Nat)
  /-- A segment of a header makes no sense, or is of a kind that is not supported. -/
  | segment (code : UInt8)
  /-- The header of a scan is cut short, or it does not fit the frame. -/
  | scanHeader
  /-- A scan uses a Huffman table that is not there. -/
  | huffmanTable (slot : Nat)
  /-- A component uses a quantization table that is not there. -/
  | quantTable (slot : Nat)
  deriving DecidableEq, Repr

/-- How a decoder's fault is told. -/
def DecodeFault.message : DecodeFault → String
  | .noScan => "no scan"
  | .noFrame => "no frame header"
  | .unsupportedFrame code => s!"unsupported frame {Marker.codeText code}"
  | .frameLength => "frame header does not end with its components"
  | .precision bits => s!"unsupported sample precision {bits}"
  | .emptyFrame => "frame has a zero dimension"
  | .componentCount count => s!"unsupported number of components {count}"
  | .zeroRate => "frame has a zero sampling rate"
  | .quantSlot slot => s!"no quantization slot {slot}"
  | .segment code => s!"unsupported segment {Marker.codeText code}"
  | .scanHeader => "scan header does not fit the frame"
  | .huffmanTable slot => s!"missing Huffman table {slot}"
  | .quantTable slot => s!"missing quantization table {slot}"

/-! ### Header -/

/-- The items before a scan and how they end. Before a scan the decoder expects no marker that
stands alone, and reads a length after each. -/
def sections (bytes : Bytes) : List Item × Ending := Segment.splitBy (fun _ => false) bytes

/-- The first frame header among the items of a header: its code and its payload. -/
def frameOf (items : List Item) : Option (UInt8 × Bytes) :=
  items.findSome? fun
    | .standalone _ => none
    | .segment marker payload =>
      if Marker.isFrame marker.code then some (marker.code, payload) else none

/-- The quantization tables of a header. A table segment that cannot be read declares nothing. -/
def slotsOf (items : List Item) : Quant.Slots :=
  items.foldl
    (fun slots item =>
      match item with
      | .standalone _ => slots
      | .segment marker payload =>
        if marker.code = Marker.quantTables then
          QuantSegment.store slots ((QuantSegment.read payload).toOption.getD [])
        else slots)
    (Vector.replicate 4 none)

/-- What the decoder asks of a component. -/
def checkComponent (component : Component) : Except DecodeFault Unit :=
  if 3 < component.slot then .error (.quantSlot component.slot)
  else if component.across = 0 ∨ component.down = 0 then .error .zeroRate
  else .ok ()

/-- What the decoder asks of the shape of a frame. -/
def checkShape (shape : Shape) : Except DecodeFault Unit :=
  if shape.precision ≠ 8 then .error (.precision shape.precision)
  else if shape.width = 0 ∨ shape.height = 0 then .error .emptyFrame
  else if shape.components = [] ∨ 4 < shape.components.length then
    .error (.componentCount shape.components.length)
  else shape.components.forM checkComponent

/-- The shape of a frame that the decoder takes, from its code and the payload of its header. -/
def readFrame (code : UInt8) (payload : Bytes) : Except DecodeFault Shape :=
  if code = 0xC0 ∨ code = 0xC1 ∨ code = 0xC2 then
    match Shape.read payload with
    | none => .error .frameLength
    | some shape => (checkShape shape).map fun _ => shape
  else .error (.unsupportedFrame code)

/-- Whether the payload is that of a colour-aware encoder's application segment. -/
def isColorAware (payload : Bytes) : Bool :=
  payload.take 5 == [0x41, 0x64, 0x6F, 0x62, 0x65] && decide (11 < payload.length)

/-- Whether a segment of a header makes sense to the decoder. Arithmetic coding, and a height that
comes after the frame header, do not. -/
def isSound (code : UInt8) (payload : Bytes) : Bool :=
  if code = Marker.quantTables then (QuantSegment.read payload).toBool
  else if code = Marker.huffmanTables then Huffman.isSoundSegment payload
  else if code = Marker.restartInterval then payload.length == 2
  else if code = 0xEE then !isColorAware payload || payload[11]?.all (· ≤ 2)
  else !(code == 0xCC || code == 0xDC)

/-- What the decoder asks of an item of a header. -/
def checkItem : Item → Except DecodeFault Unit
  | .standalone _ => .ok ()
  | .segment marker payload =>
    if isSound marker.code payload then .ok () else .error (.segment marker.code)

/-- Whether bytes are those of a band, and its numbers are in range. -/
def isBand : Bytes → Bool
  | [first, last, bits] =>
    first ≤ 63 && last ≤ 63 && decide (bits.toNat / 16 ≤ 13) && decide (bits.toNat % 16 ≤ 13)
  | _ => false

/-- What the decoder asks of the header of a scan: it names components of the frame, at least one
and none twice, and ends with a band. -/
def checkScan (shape : Shape) (payload : Bytes) : Except DecodeFault Unit :=
  let names := (ScanHeader.read false payload).components.map ScanComponent.name
  let band := payload.drop (2 * names.length + 1)
  let whole := payload.head? = some names.length.toUInt8 ∧ isBand band
  let known := names.all fun name => shape.components.any fun component => component.name == name
  if whole ∧ names ≠ [] ∧ names.Nodup ∧ known then .ok () else .error .scanHeader

/-- The shape of the pixels of a frame: one component is gray, more make a colour. -/
def Shape.geometry (shape : Shape) : Geometry where
  width := UInt16.ofNat shape.width
  height := UInt16.ofNat shape.height
  color := if shape.components.length = 1 then .gray else .rgb

/-! ### Stream -/

/-- What a stream has declared and sent so far. -/
structure Progress where
  code : UInt8
  shape : Shape
  /-- Huffman tables, the latest first. -/
  tables : List Huffman.Entry
  /-- The number of units between restart markers, 0 for none. -/
  interval : Nat
  mixture : Mixture
  planes : Planes
  /-- The indices of the components that a scan has sent. -/
  sent : List Nat

namespace Progress

/-- The start of a frame. -/
def start (code : UInt8) (shape : Shape) : Progress where
  code := code
  shape := shape
  tables := []
  interval := 0
  mixture := if shape.components.length = 4 then .plain else .light
  planes := (shape.components.map fun component =>
    Array.replicate (shape.blocksAcross component * shape.blocksDown component)
      (Vector.replicate 64 0)).toArray
  sent := []

/-- The mixture that an application segment of a colour-aware encoder declares. -/
def mixtureOf (payload : Bytes) : Option Mixture :=
  if isColorAware payload then
    payload[11]?.map fun transform => if transform = 0 then .plain else .light
  else none

/-- What is declared after one more item. -/
def add (progress : Progress) : Item → Progress
  | .standalone _ => progress
  | .segment marker payload =>
    if marker.code = Marker.huffmanTables then
      { progress with tables := (Huffman.readSegment payload).reverse ++ progress.tables }
    else if marker.code = Marker.restartInterval then
      match payload with
      | high :: low :: _ => { progress with interval := (word16 high low).toNat }
      | _ => progress
    else if marker.code = 0xEE then
      match mixtureOf payload with
      | some mixture => { progress with mixture }
      | none => progress
    else progress

def huffman (progress : Progress) (kind : Huffman.Class) (slot : Nat) : Option Huffman.Table :=
  (progress.tables.find? fun entry => entry.kind = kind ∧ entry.slot = slot).map
    Huffman.Entry.table

/-- A Huffman table that is missing only if it is not needed. -/
def huffmanIf (progress : Progress) (needed : Bool) (kind : Huffman.Class) (slot : Nat) :
    Except DecodeFault Huffman.Table :=
  match progress.huffman kind slot with
  | some table => .ok table
  | none => if needed then .error (.huffmanTable slot) else .ok ⟨[], []⟩

/-- The component of a scan with its tables; `none` for a component that the frame has not. -/
def lane (progress : Progress) (band : Band) (scanned : ScanComponent) :
    Except DecodeFault (Option Lane) := do
  let components := progress.shape.components
  match components.findIdx? fun component => component.name == scanned.name with
  | none => return none
  | some index =>
    let needsDc := band.first == 0 && !band.refines
    let needsAc := decide (0 < band.last)
    let dc ← progress.huffmanIf needsDc .dc scanned.dcSlot
    let ac ← progress.huffmanIf needsAc .ac scanned.acSlot
    return components[index]?.map fun component => ⟨index, component, dc, ac⟩

/-- Whether a scan can be sent for a frame: in a progressive one, either first coefficients alone or
others alone, and the others of one component. -/
def admits (progress : Progress) (header : ScanHeader) : Bool :=
  !Marker.isProgressive progress.code || header.band.last == 0 ||
    (header.band.first != 0 && header.components.length == 1)

/-- Reads the scan with the given header and data. -/
def readScan (progress : Progress) (header : ScanHeader) (stretches : List Bytes) :
    Except DecodeFault Progress := do
  if !progress.admits header then throw .scanHeader
  let lanes := (← header.components.mapM (progress.lane header.band)).filterMap id
  let units := progress.shape.units (lanes.map fun lane => (lane.index, lane.component))
  return { progress with
    planes := Dct.readScan header.band lanes units progress.interval stretches progress.planes
    sent := lanes.map Lane.index ++ progress.sent }

/-- Whether nothing more is read: a sequential frame sends each component once. -/
def isComplete (progress : Progress) : Bool :=
  !Marker.isProgressive progress.code &&
    (List.range progress.shape.components.length).all progress.sent.contains

/-- Reads segments and scans to the end. -/
def readAll (progress : Progress) (bytes : Bytes) : Except DecodeFault Progress :=
  let items := (sections bytes).1
  let declared := items.foldl add progress
  match _ends : (sections bytes).2 with
  | .scan _ rest =>
    match _taken : Segment.takePayload Marker.startOfScan rest with
    | .error _ => .error .scanHeader
    | .ok (payload, data) =>
      match checkScan declared.shape payload with
      | .error fault => .error fault
      | .ok () =>
        let header := ScanHeader.read (Marker.isProgressive progress.code) payload
        match declared.readScan header (takeStretches [] data).1 with
        | .error fault => .error fault
        | .ok next => if next.isComplete then .ok next else next.readAll (takeStretches [] data).2
  | _ => .ok declared
termination_by bytes.length
decreasing_by
  have afterScan := Segment.splitOnto_scan_length _ends
  have afterHeader := Segment.takePayload_length _taken
  have afterData := takeStretches_length [] data
  omega

/-- The samples of every component, by the given quantization tables. -/
def surfaces (progress : Progress) (slots : Quant.Slots) : Except DecodeFault (List Surface) :=
  progress.shape.components.zipIdx.mapM fun (component, index) =>
    match (slots[component.slot]?).join with
    | none => .error (.quantTable component.slot)
    | some table =>
      .ok (.ofCoefficients progress.shape component table (progress.planes[index]?.getD #[]))

end Progress

namespace Decoder

/-- Accepts a stream by its header, and tells the shape of its pixels. -/
def inspect (source : Bytes) : Except DecodeFault Geometry :=
  let (items, ending) := sections (source.drop 2)
  match ending with
  | .scan _ rest =>
    match frameOf items with
    | none => .error .noFrame
    | some (code, header) => do
      let shape ← readFrame code header
      items.forM checkItem
      match Segment.takePayload Marker.startOfScan rest with
      | .error _ => .error .scanHeader
      | .ok (payload, _) => do
        checkScan shape payload
        return shape.geometry
  | _ => .error .noScan

/-- Decodes a stream into pixels of the given shape. Two components make no colour. -/
def decode (source : Bytes) (geometry : Geometry) :
    Except DecodeFault (Frame.Samples geometry) :=
  let items := (sections (source.drop 2)).1
  match frameOf items with
  | none => .error .noFrame
  | some (code, header) => do
    let shape ← readFrame code header
    if shape.components.length = 2 then .error (.componentCount 2)
    else
      let progress ← (Progress.start code shape).readAll (source.drop 2)
      let surfaces ← progress.surfaces (slotsOf items)
      return render shape progress.mixture surfaces geometry

end Decoder

end JpegTranscoder.Dct
