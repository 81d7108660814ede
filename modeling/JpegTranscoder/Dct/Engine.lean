/-
**The engine of cosine-transformed frames.**
-/
import JpegTranscoder.Dct.Decoder
import JpegTranscoder.Dct.Encoder

namespace JpegTranscoder.Dct

/-- The engine that decodes and encodes frames with Huffman codes. -/
def engine : Engine where
  inspect source := ((Decoder.inspect source).map Offer.ofGeometry).mapError DecodeFault.message
  decode source geometry := (Decoder.decode source geometry).mapError DecodeFault.message
  encode settings frame := Encoder.encode settings frame
  refuse settings length :=
    let cause := "Image data too small for dimensions and color_type"
    s!"{cause}: {length} need at least {settings.geometry.byteCount}"

end JpegTranscoder.Dct
