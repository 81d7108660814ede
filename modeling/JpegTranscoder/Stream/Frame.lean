/-
**The frame header.**
-/
import JpegTranscoder.Stream.Fault

namespace JpegTranscoder

/-- What a frame header says of the frame. -/
structure Frame where
  code : UInt8
  width : UInt16
  height : UInt16
  components : UInt8
  deriving DecidableEq, Repr

/-- Reads the payload of a frame header: a precision, height, width, the number of components and
three bytes for each. -/
def Frame.read (code : UInt8) : Bytes → Except HeaderFault Frame
  | _ :: heightHigh :: heightLow :: widthHigh :: widthLow :: components :: list =>
    if list.length < 3 * components.toNat then .error .componentsCut
    else .ok ⟨code, word16 widthHigh widthLow, word16 heightHigh heightLow, components⟩
  | _ => .error .frameShort

end JpegTranscoder
