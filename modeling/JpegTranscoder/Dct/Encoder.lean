/-
**Encoding a whole frame.**

Gray frames become one component and colour frames three, all sampled alike and named by their
index. The quantization tables are the reference tables scaled to the quality, and both are written
for gray frames too. A progressive frame sends all first coefficients, then the others of each
component in two bands.
-/
import JpegTranscoder.Dct.Color
import JpegTranscoder.Dct.Tokens
import JpegTranscoder.Dct.TypicalTables
import JpegTranscoder.Engine
import JpegTranscoder.Quant.Reference

namespace JpegTranscoder.Dct.Encoder

/-! ### Blocks -/

/-- The slot of the tables of a component: luminance has its own, the chrominances share one. -/
def tableSlot (component : Nat) : Nat := if component = 0 then 0 else 1

/-- The quantization tables of a quality, by slot. -/
def quantTable (quality : UInt8) : Nat → Quant.Table
  | 0 => Quant.Reference.scaled Quant.Reference.luma quality.toNat
  | _ => Quant.Reference.scaled Quant.Reference.chroma quality.toNat

/-- The number of blocks in a row. -/
def blocksAcross (geometry : Geometry) : Nat := (geometry.width.toNat + 7) / 8

/-- The number of rows of blocks. -/
def blocksDown (geometry : Geometry) : Nat := (geometry.rows + 7) / 8

/-- The samples of the components at a pixel. Beyond the edge of the frame the last pixel is
repeated. -/
def componentsAt (geometry : Geometry) (samples : Array UInt8) (column row : Nat) : List UInt8 :=
  let x := min column (geometry.width.toNat - 1)
  let y := min row (geometry.rows - 1)
  let start := y * geometry.stride + x * geometry.components
  let sample (offset : Nat) : UInt8 := samples[start + offset]?.getD 0
  match geometry.color with
  | .gray => [sample 0]
  | .rgb =>
    let value (offset : Nat) : Int := (sample offset).toNat
    (Color.ofRgb (value 0) (value 1) (value 2)).toList

/-- A block of a component, quantized, in zigzag order. -/
def quantizedBlock (table : Quant.Table) (component : Nat) (pixels : Vector (List UInt8) 64) :
    Block :=
  let samples : Block := pixels.map fun pixel => ((pixel[component]?.getD 0).toNat : Int)
  Zigzag.ofNatural (quantize table (Cosine.coefficients samples))

/-- The blocks of a frame in order, each with those of all components. -/
def frameBlocks (settings : EncoderSettings) (samples : Bytes) : List (List Block) :=
  let geometry := settings.geometry
  let array := samples.toArray
  (List.range (blocksDown geometry * blocksAcross geometry)).map fun index =>
    let blockRow := index / blocksAcross geometry
    let blockColumn := index % blocksAcross geometry
    let pixels := Vector.ofFn fun (place : Fin 64) =>
      componentsAt geometry array (blockColumn * 8 + place.val % 8) (blockRow * 8 + place.val / 8)
    (List.range geometry.components).map fun component =>
      quantizedBlock (quantTable settings.quality (tableSlot component)) component pixels

/-! ### Scans -/

/-- A scan to be written: the components that it sends, and the band. -/
structure Scan where
  components : List Nat
  band : Band

def scans (settings : EncoderSettings) : List Scan :=
  let components := List.range settings.geometry.components
  if settings.progressive then
    ⟨components, ⟨0, 0, false, 0⟩⟩ ::
      components.flatMap fun component =>
        [⟨[component], ⟨1, 5, false, 0⟩⟩, ⟨[component], ⟨6, 63, false, 0⟩⟩]
  else [⟨components, ⟨0, 63, false, 0⟩⟩]

/-- The tokens of a scan; `predictions` holds the first coefficients of the blocks before. -/
def scanTokens (scan : Scan) (predictions : List Int) : List (List Block) → List Token
  | [] => []
  | blocks :: rest =>
    let tokens := scan.components.flatMap fun component =>
      match blocks[component]? with
      | some block =>
        blockTokens (tableSlot component) scan.band (predictions[component]?.getD 0) block
      | none => []
    tokens ++ scanTokens scan (blocks.map fun block => block.coefficient 0) rest

/-! ### Segments -/

/-- A segment: a marker, a length and a payload. -/
def segment (code : UInt8) (payload : Bytes) : Bytes :=
  0xFF :: code :: wordBytes (UInt16.ofNat (payload.length + 2)) ++ payload

/-- The segment of an interchange file without thumbnail. -/
def interchangeSegment : Bytes :=
  segment 0xE0 [0x4A, 0x46, 0x49, 0x46, 0x00, 1, 2, 0, 0, 1, 0, 1, 0, 0]

def frameSegment (settings : EncoderSettings) : Bytes :=
  let geometry := settings.geometry
  segment (if settings.progressive then 0xC2 else 0xC0) <|
    8 :: wordBytes geometry.height ++ wordBytes geometry.width ++
      UInt8.ofNat geometry.components ::
        (List.range geometry.components).flatMap fun component =>
          [UInt8.ofNat component, 0x11, UInt8.ofNat (tableSlot component)]

def quantSegments (settings : EncoderSettings) : Bytes :=
  [(0 : Fin 4), 1].flatMap fun slot =>
    segment Marker.quantTables <|
      QuantSegment.write [⟨slot, .byte, quantTable settings.quality slot.val⟩]

/-- The Huffman tables that a frame needs. -/
def huffmanTables (settings : EncoderSettings) (tokens : List Token) : List Huffman.Entry :=
  let slots := if settings.geometry.components = 1 then [0] else [0, 1]
  slots.flatMap fun slot =>
    [Huffman.Class.dc, .ac].map fun kind =>
      let table :=
        if settings.optimized then .ofFrequencies (frequencies kind slot tokens)
        else Huffman.Typical.table kind slot
      ⟨kind, slot, table⟩

def scanSegment (scan : Scan) : Bytes :=
  segment Marker.startOfScan <|
    UInt8.ofNat scan.components.length ::
      (scan.components.flatMap fun component =>
        [UInt8.ofNat component, UInt8.ofNat (tableSlot component * 17)]) ++
      [UInt8.ofNat scan.band.first, UInt8.ofNat scan.band.last, 0]

/-- A scan with its data. -/
def scanBytes (tables : List Huffman.Entry) (scan : Scan) (tokens : List Token) : Bytes :=
  scanSegment scan ++ stuff (Bits.toBytes (tokenBits tables tokens))

/-- A frame as a whole stream. -/
def encode (settings : EncoderSettings) (frame : Frame.Samples settings.geometry) : Bytes :=
  let blocks := frameBlocks settings frame.val
  let parts := (scans settings).map fun scan => (scan, scanTokens scan [] blocks)
  let tables := huffmanTables settings (parts.flatMap Prod.snd)
  [0xFF, Marker.startOfImage] ++ interchangeSegment ++ frameSegment settings ++
    quantSegments settings ++
    (tables.flatMap fun entry => segment Marker.huffmanTables (Huffman.writeTable entry)) ++
    (parts.flatMap fun (scan, tokens) => scanBytes tables scan tokens) ++
    [0xFF, Marker.endOfImage]

end JpegTranscoder.Dct.Encoder
