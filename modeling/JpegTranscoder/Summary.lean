/-
**What can be told of an encoded stream.**

Beside its header a stream tells which metadata segments it holds and whether its Huffman tables are
typical ones.
-/
import JpegTranscoder.Dct.TypicalTables
import JpegTranscoder.Stream.Header

namespace JpegTranscoder.Summary

/-- The items before the first scan of a stream. -/
def items (stream : Bytes) : List Item := (Segment.split (stream.drop 2)).1

/-- The codes of the metadata segments before the first scan: applications but the first, and
comments. -/
def metadataSegments (stream : Bytes) : List UInt8 :=
  (items stream).filterMap fun
    | .standalone _ => none
    | .segment marker _ =>
      if (0xE1 ≤ marker.code && marker.code ≤ 0xEF) || marker.code == 0xFE then some marker.code
      else none

/-- Whether all Huffman tables before the first scan have the code lengths of typical ones. -/
def hasTypicalTables (stream : Bytes) : Bool :=
  (items stream).all fun
    | .standalone _ => true
    | .segment marker payload =>
      marker.code != Marker.huffmanTables ||
        (Dct.Huffman.readSegment payload).all Dct.Huffman.Typical.hasTypicalCounts

end JpegTranscoder.Summary
