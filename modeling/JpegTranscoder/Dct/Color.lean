/-
**Colours.**

Frames hold luminance and two chrominances, each from 0 to 255; pixels hold red, green and blue.
The weights are those of full-range video, in millionths.
-/
import JpegTranscoder.Dct.Cosine

namespace JpegTranscoder.Dct.Color

/-- A weighted sum in millionths, rounded and brought into the range of a sample. -/
def toSample (millionths : Int) : UInt8 :=
  UInt8.ofNat (max 0 (min 255 (Cosine.roundDiv millionths 1000000))).toNat

/-- The pixel of a luminance and two chrominances. -/
def toRgb (luminance blueness redness : Int) : List UInt8 :=
  let light := luminance * 1000000
  let blue := blueness - 128
  let red := redness - 128
  [toSample (light + 1402000 * red),
    toSample (light - 344136 * blue - 714136 * red),
    toSample (light + 1772000 * blue)]

/-- The luminance and the chrominances of a pixel. -/
def ofRgb (red green blue : Int) : Vector UInt8 3 := #v[
  toSample (299000 * red + 587000 * green + 114000 * blue),
  toSample (128000000 - 168736 * red - 331264 * green + 500000 * blue),
  toSample (128000000 + 500000 * red - 418688 * green - 81312 * blue)]

/-- The pixel of inks whose samples stand for the light that they let through. -/
def ofInks (cyan magenta yellow black : Int) : List UInt8 :=
  [cyan, magenta, yellow].map fun ink => toSample (ink * black * 1000000 / 255)

end JpegTranscoder.Dct.Color
