/-
**From coefficients to pixels.**

Every block of a component is turned into samples; a pixel takes of each component the sample that
covers it.
-/
import JpegTranscoder.Dct.Color
import JpegTranscoder.Dct.Layout
import JpegTranscoder.Engine

namespace JpegTranscoder.Dct

/-- The samples of a component. -/
structure Surface where
  component : Component
  /-- The number of blocks in a row. -/
  across : Nat
  blocks : Array Block

namespace Surface

/-- The samples of coefficient blocks in zigzag order. -/
def ofCoefficients (shape : Shape) (component : Component) (table : Quant.Table)
    (blocks : Array Block) : Surface where
  component := component
  across := shape.blocksAcross component
  blocks := blocks.map fun block =>
    Cosine.samples (dequantize table (Zigzag.toNatural block))

/-- The sample that covers a pixel. -/
def sample (shape : Shape) (surface : Surface) (column row : Nat) : Int :=
  let x := column * surface.component.across / shape.maxAcross
  let y := row * surface.component.down / shape.maxDown
  let block := surface.blocks[y / 8 * surface.across + x / 8]?
  (block.bind fun block => block[y % 8 * 8 + x % 8]?).getD 0

end Surface

/-- How the components of a frame make up a colour. -/
inductive Mixture where
  /-- Luminance and chrominances, with black on top if there is a fourth component. -/
  | light
  /-- The components are the colours. -/
  | plain
  deriving DecidableEq, Repr

/-- The samples of a pixel, given those of the components. -/
def Mixture.pixel (mixture : Mixture) : List Int → List UInt8
  | [gray] => [Color.toSample (gray * 1000000)]
  | [first, second, third] =>
    match mixture with
    | .light => Color.toRgb first second third
    | .plain => [first, second, third].map fun value => Color.toSample (value * 1000000)
  | first :: second :: third :: black :: _ =>
    match mixture with
    | .light =>
      match Color.toRgb first second third with
      | [cyan, magenta, yellow] =>
        Color.ofInks cyan.toNat magenta.toNat yellow.toNat black
      | _ => []
    | .plain => Color.ofInks first second third black
  | first :: _ => List.replicate 3 (Color.toSample (first * 1000000))
  | [] => []

/-- The samples of a frame, row after row. -/
def render (shape : Shape) (mixture : Mixture) (surfaces : List Surface) (geometry : Geometry) :
    Frame.Samples geometry :=
  let sampleAt (index : Nat) : UInt8 :=
    let row := index / geometry.stride
    let column := index % geometry.stride / geometry.components
    let pixel := mixture.pixel (surfaces.map fun surface => surface.sample shape column row)
    pixel[index % geometry.stride % geometry.components]?.getD 0
  ⟨(List.range geometry.byteCount).map sampleAt, by rw [List.length_map, List.length_range]⟩

end JpegTranscoder.Dct
