/-
**How a frame is cut into blocks.**

Each component of a frame is sampled at its own rate. A scan of several components goes through the
frame in units that hold as many blocks of a component as its rates say; a scan of one component
goes through its blocks row by row.
-/
import JpegTranscoder.Bytes

namespace JpegTranscoder.Dct

/-- What a frame header says of a component. -/
structure Component where
  name : UInt8
  /-- Horizontal sampling rate. -/
  across : Nat
  /-- Vertical sampling rate. -/
  down : Nat
  /-- The slot of its quantization table. -/
  slot : Nat
  deriving DecidableEq, Repr

/-- What a frame header says of a frame. -/
structure Shape where
  precision : Nat
  width : Nat
  height : Nat
  components : List Component
  deriving DecidableEq, Repr

namespace Shape

/-- The components in the list of a frame header. -/
def readComponents : Bytes → List Component
  | name :: rates :: slot :: rest =>
    ⟨name, rates.toNat / 16, rates.toNat % 16, slot.toNat⟩ :: readComponents rest
  | _ => []

/-- Reads the payload of a frame header, which ends with its list of components. -/
def read : Bytes → Option Shape
  | precision :: heightHigh :: heightLow :: widthHigh :: widthLow :: count :: list =>
    if list.length = 3 * count.toNat then
      some
        { precision := precision.toNat
          width := (word16 widthHigh widthLow).toNat
          height := (word16 heightHigh heightLow).toNat
          components := readComponents list }
    else none
  | _ => none

/-- The highest horizontal sampling rate. -/
def maxAcross (shape : Shape) : Nat := (shape.components.map Component.across).foldl max 1

/-- The highest vertical sampling rate. -/
def maxDown (shape : Shape) : Nat := (shape.components.map Component.down).foldl max 1

/-- The quotient of two numbers, rounded up. -/
def ceilDiv (number divisor : Nat) : Nat := (number + divisor - 1) / divisor

/-- The number of units in a row of units. -/
def unitsAcross (shape : Shape) : Nat := ceilDiv shape.width (8 * shape.maxAcross)

/-- The number of rows of units. -/
def unitsDown (shape : Shape) : Nat := ceilDiv shape.height (8 * shape.maxDown)

/-- The blocks of a component that are stored in a row: those of all units. -/
def blocksAcross (shape : Shape) (component : Component) : Nat :=
  shape.unitsAcross * component.across

/-- The rows of blocks of a component that are stored. -/
def blocksDown (shape : Shape) (component : Component) : Nat :=
  shape.unitsDown * component.down

/-- The blocks of a component that hold samples of the frame, in a row. -/
def ownAcross (shape : Shape) (component : Component) : Nat :=
  ceilDiv (ceilDiv (shape.width * component.across) shape.maxAcross) 8

/-- The rows of blocks of a component that hold samples of the frame. -/
def ownDown (shape : Shape) (component : Component) : Nat :=
  ceilDiv (ceilDiv (shape.height * component.down) shape.maxDown) 8

/-- The blocks of one component of a unit, as indices among its stored blocks. -/
def unitBlocks (shape : Shape) (component : Component) (unitRow unitColumn : Nat) : List Nat :=
  (List.range component.down).flatMap fun row =>
    (List.range component.across).map fun column =>
      (unitRow * component.down + row) * shape.blocksAcross component +
        (unitColumn * component.across + column)

/-- The units of a scan, each with its blocks as pairs of a component's index and a block's. -/
def units (shape : Shape) : List (Nat × Component) → List (List (Nat × Nat))
  | [(index, component)] =>
    (List.range (shape.ownDown component)).flatMap fun row =>
      (List.range (shape.ownAcross component)).map fun column =>
        [(index, row * shape.blocksAcross component + column)]
  | components =>
    (List.range shape.unitsDown).flatMap fun unitRow =>
      (List.range shape.unitsAcross).map fun unitColumn =>
        components.flatMap fun (index, component) =>
          (shape.unitBlocks component unitRow unitColumn).map fun block => (index, block)

end Shape

end JpegTranscoder.Dct
