/-
**Storage for the rows of a frame.**

A raster is one block of bytes, row after row. Its dimensions are fixed when it is allocated; once
released it holds no bytes, and only its dimensions remain.
-/
import JpegTranscoder.Bytes
import JpegTranscoder.Error

namespace JpegTranscoder

/-- Where blocks of bytes come from: which sizes are granted. -/
structure Memory where
  grants : Nat → Bool

/-- How a size is refused to a block that is asked for outside a raster. -/
def Memory.refusal : String :=
  "memory allocation failed because the memory allocator returned an error"

/-- Memory that grants every size below a limit. -/
def Memory.below (limit : Nat) : Memory := ⟨fun bytes => decide (bytes < limit)⟩

/-- Byte counts and offsets are words of 64 bits. -/
def wordLimit : Nat := Nat.pow 2 64

/-- The product of two words, if it is a word. -/
def checkedProduct (first second : Nat) : Option Nat :=
  if first * second < wordLimit then some (first * second) else none

inductive AllocationError where
  /-- A dimension is zero. -/
  | zeroDimension (width height components : Nat)
  /-- The number of bytes is no word, or it was not granted. -/
  | outOfMemory (bytes : Nat)
  deriving DecidableEq, Repr

/-- An allocation error as a session reports it. -/
def TranscodeError.ofAllocation : AllocationError → TranscodeError
  | .zeroDimension width height components =>
    .invalidInput s!"raster geometry {width}x{height}x{components} has a zero dimension"
  | .outOfMemory bytes => .outOfMemory bytes

/-- The samples of a frame, `height` rows of `width * components` bytes. -/
structure Raster where
  samples : Bytes
  width : Nat
  height : Nat
  components : Nat
  released : Bool
  deriving DecidableEq, Repr

namespace Raster

/-- A raster of zeros. A size that is no word counts as the largest word. -/
def allocate (memory : Memory) (height width components : Nat) : Except AllocationError Raster :=
  if height = 0 ∨ width = 0 ∨ components = 0 then
    .error (.zeroDimension width height components)
  else
    match (checkedProduct width components).bind fun stride => checkedProduct stride height with
    | none => .error (.outOfMemory (wordLimit - 1))
    | some bytes =>
      if memory.grants bytes then
        .ok ⟨List.replicate bytes 0, width, height, components, false⟩
      else .error (.outOfMemory bytes)

/-- Bytes per row. -/
def stride (raster : Raster) : Nat := raster.width * raster.components

def byteSize (raster : Raster) : Nat := raster.samples.length

def hasRow (raster : Raster) (index : Nat) : Bool :=
  !raster.released && decide (index < raster.height)

def row (raster : Raster) (index : Nat) : Option Bytes :=
  if raster.hasRow index then
    some ((raster.samples.drop (index * raster.stride)).take raster.stride)
  else none

/-- Puts a block of bytes at an offset, over what is there. -/
def write (raster : Raster) (offset : Nat) (block : Bytes) : Raster :=
  { raster with
    samples := raster.samples.take offset ++ overlay block (raster.samples.drop offset) }

/-- Writes over row `index`, if there is one. -/
def setRow (raster : Raster) (index : Nat) (bytes : Bytes) : Raster :=
  if raster.hasRow index then
    raster.write (index * raster.stride) (bytes.take raster.stride)
  else raster

def rowsFrom (raster : Raster) (index : Nat) : Bytes :=
  if raster.hasRow index then raster.samples.drop (index * raster.stride) else []

def setRowsFrom (raster : Raster) (index : Nat) (block : Bytes) : Raster :=
  if raster.hasRow index then raster.write (index * raster.stride) block else raster

/-- The first `count` pieces of `size` bytes each. -/
def pieces (size : Nat) : Nat → Bytes → List Bytes
  | 0, _ => []
  | count + 1, bytes => bytes.take size :: pieces size count (bytes.drop size)

def rows (raster : Raster) : List Bytes :=
  pieces raster.stride (raster.samples.length / raster.stride) raster.samples

/-- Gives the samples back. -/
def release (raster : Raster) : Raster := { raster with samples := [], released := true }

end Raster

end JpegTranscoder
