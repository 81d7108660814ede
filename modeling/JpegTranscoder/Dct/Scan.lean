/-
**Reading a scan.**

A scan sends a band of the coefficients of some components. Its data falls into stretches, between
restart markers; each stretch starts afresh. Data that makes no sense ends its stretch, and the
blocks that it did not reach stay as they are.
-/
import JpegTranscoder.Dct.Coefficients
import JpegTranscoder.Dct.Layout

namespace JpegTranscoder.Dct

/-- What a scan header says of a component: its name, and the slots of its Huffman tables. -/
structure ScanComponent where
  name : UInt8
  dcSlot : Nat
  acSlot : Nat
  deriving DecidableEq, Repr

/-- What a scan header says. -/
structure ScanHeader where
  components : List ScanComponent
  band : Band
  deriving DecidableEq, Repr

namespace ScanHeader

/-- Reads the list of components. -/
def readComponents : Nat → Bytes → List ScanComponent × Bytes
  | count + 1, name :: slots :: rest =>
    let (components, after) := readComponents count rest
    (⟨name, slots.toNat / 16, slots.toNat % 16⟩ :: components, after)
  | _, rest => ([], rest)

/-- The band of a scan. A sequential frame always sends whole coefficients of all ranks. -/
def readBand (progressive : Bool) : Bytes → Band
  | first :: last :: bits :: _ =>
    if progressive then
      ⟨min first.toNat 63, min last.toNat 63, decide (0 < bits.toNat / 16), bits.toNat % 16⟩
    else ⟨0, 63, false, 0⟩
  | _ => ⟨0, 63, false, 0⟩

/-- Reads the payload of a scan header. -/
def read (progressive : Bool) : Bytes → ScanHeader
  | count :: list =>
    let (components, rest) := readComponents count.toNat list
    ⟨components, readBand progressive rest⟩
  | [] => ⟨[], readBand progressive []⟩

end ScanHeader

/-- The blocks of the components of a frame, in zigzag order. -/
abbrev Planes := Array (Array Block)

namespace Planes

def block (planes : Planes) (component index : Nat) : Block :=
  ((planes[component]?).bind fun plane => plane[index]?).getD (Vector.replicate 64 0)

/-- The blocks with one of them replaced. -/
def put (planes : Planes) (component index : Nat) (block : Block) : Planes :=
  planes.modify component fun plane => plane.setIfInBounds index block

end Planes

/-- A component of a scan, ready to be read. -/
structure Lane where
  /-- Its index in the frame. -/
  index : Nat
  component : Component
  tables : Tables

/-- Where a stretch stands. -/
structure Cursor where
  bits : Bits
  /-- The number of blocks that hold no more coefficients. -/
  endRun : Nat
  /-- The first coefficients of the last blocks, by component. -/
  predictions : List Int

namespace Cursor

/-- The start of a stretch. -/
def start (data : Bytes) : Cursor := ⟨Bits.ofBytes data, 0, [0, 0, 0, 0]⟩

/-- Reads what the scan sends of a block. -/
def readBlock (cursor : Cursor) (band : Band) (lane : Lane) (block : Block) :
    Option (Block × Cursor) := do
  let prediction := cursor.predictions[lane.index]?.getD 0
  let (block, prediction, bits) ←
    if band.first = 0 then readFirst lane.tables band prediction block cursor.bits
    else some (block, prediction, cursor.bits)
  let read ←
    if band.last = 0 then some ⟨block, cursor.endRun, bits⟩
    else readOthers lane.tables band cursor.endRun block bits
  return (read.block, ⟨read.bits, read.endRun, cursor.predictions.set lane.index prediction⟩)

end Cursor

/-- Reads the blocks of a stretch. -/
def readStretch (band : Band) (lanes : List Lane) (cursor : Cursor) (planes : Planes) :
    List (Nat × Nat) → Planes
  | [] => planes
  | (component, index) :: rest =>
    match lanes.find? fun lane => lane.index == component with
    | none => readStretch band lanes cursor planes rest
    | some lane =>
      match cursor.readBlock band lane (planes.block component index) with
      | none => planes
      | some (block, next) =>
        readStretch band lanes next (planes.put component index block) rest

/-- Lists of `size` members each; a size of zero makes one list. -/
def chunks {α : Type} (size : Nat) : List α → List (List α)
  | [] => []
  | first :: rest =>
    match size with
    | 0 => [first :: rest]
    | size + 1 => (first :: rest.take size) :: chunks (size + 1) (rest.drop size)
termination_by list => list.length
decreasing_by
  simp only [List.length_drop, List.length_cons]
  omega

/-- Reads a scan: each stretch holds as many units as the restart interval says. -/
def readScan (band : Band) (lanes : List Lane) (units : List (List (Nat × Nat)))
    (interval : Nat) (stretches : List Bytes) (planes : Planes) : Planes :=
  ((chunks interval units).zip stretches).foldl
    (fun planes (units, data) => readStretch band lanes (.start data) planes units.flatten) planes

end JpegTranscoder.Dct
