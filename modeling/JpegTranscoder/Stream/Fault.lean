/-
**What can be wrong with a header.**
-/
import JpegTranscoder.Stream.Marker

namespace JpegTranscoder

/-- Why the segments of a header cannot be read. -/
inductive HeaderFault where
  /-- The bytes end where a marker is due. -/
  | noMarker
  /-- The bytes end inside the length of a segment. -/
  | lengthCut
  /-- A segment declares fewer bytes than its own length takes. -/
  | lengthShort (code : UInt8) (length : Nat)
  /-- The bytes end inside the payload of a segment. -/
  | payloadCut (code : UInt8)
  /-- A second frame header. -/
  | secondFrame
  /-- The frame header ends before its component count. -/
  | frameShort
  /-- The frame header ends inside its component list. -/
  | componentsCut
  /-- A quantization table for a slot that does not exist. -/
  | tableSlot (slot : Nat)
  /-- A table of bytes is cut short. -/
  | byteTableCut
  /-- A table of words is cut short. -/
  | wordTableCut
  /-- A table of neither bytes nor words. -/
  | tablePrecision (precision : Nat)
  /-- No frame header before the first scan. -/
  | noFrame
  deriving DecidableEq, Repr

/-- How a header fault is told. -/
def HeaderFault.message : HeaderFault → String
  | .noMarker => "truncated before marker code"
  | .lengthCut => "truncated segment length"
  | .lengthShort code length => s!"segment {Marker.codeText code} declares length {length}"
  | .payloadCut code => s!"segment {Marker.codeText code} is truncated"
  | .secondFrame => "multiple frame headers"
  | .frameShort => "frame header too short"
  | .componentsCut => "frame header component list truncated"
  | .tableSlot slot => s!"quantization table id {slot} out of range"
  | .byteTableCut => "8-bit quantization table truncated"
  | .wordTableCut => "16-bit quantization table truncated"
  | .tablePrecision precision => s!"quantization table precision {precision} is invalid"
  | .noFrame => "no frame header before first scan"

end JpegTranscoder
