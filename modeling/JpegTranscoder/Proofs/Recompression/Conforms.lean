/-
**What is relied on of an engine.**

An engine writes a frame as a stream of the written form, with the reference tables scaled to the
quality, and reads back what it wrote:

* `EncodedForm`: the written form of a frame;
* `EncodedForm.read`: what the header of such a stream declares;
* `Engine.Conforms`: what is relied on.
-/
import JpegTranscoder.Engine
import JpegTranscoder.Proofs.Quant.Recovery
import JpegTranscoder.Proofs.Stream.HeaderForm

namespace JpegTranscoder

open Quant.Reference

/-- The frame header that an encoder writes: a progressive one or a baseline one, of one component
for gray frames and of three for colour frames. -/
def EncoderSettings.frame (settings : EncoderSettings) : Frame where
  code := if settings.progressive then 0xC2 else 0xC0
  width := settings.geometry.width
  height := settings.geometry.height
  components := UInt8.ofNat settings.geometry.components

/-- A stream as an encoder writes it: a header with the frame, with the scaled reference tables in
slot 0 and 1 and with any other segments, up to a start of scan, and behind that anything that
holds an end of image. -/
inductive EncodedForm (settings : EncoderSettings) : Bytes → Prop where
  | mk {items : List Item} {closing : Marker} {head rest payload : Bytes}
      {lists : List (List QuantSegment.Entry)} (form : HeaderForm items closing head)
      (start : closing.code = Marker.startOfScan)
      (alone : items.filterMap Item.frameHeader = [(settings.frame.code, payload)])
      (told : settings.frame.Form payload)
      (tables : items.filterMap Item.tablePayload = lists.map QuantSegment.write)
      (fit : ∀ entries ∈ lists, ∀ entry ∈ entries, entry.Fits)
      (first : QuantSegment.lastTable 0 lists.flatten =
        some (scaled luma settings.quality.toNat))
      (second : QuantSegment.lastTable 1 lists.flatten =
        some (scaled chroma settings.quality.toNat))
      (ends : containsPair 0xFF Marker.endOfImage rest = true) :
      EncodedForm settings (head ++ rest)

/-- **What the header of an encoder's stream declares**: the settings, if their quality is one. -/
theorem EncodedForm.read {settings : EncoderSettings} {written : Bytes}
    (form : EncodedForm settings written) (valid : isValidQuality settings.quality = true) :
    ∃ header, Header.read written = .ok header ∧ isTerminated written = .ok true ∧
      header.width = settings.geometry.width ∧ header.height = settings.geometry.height ∧
      header.components = UInt8.ofNat settings.geometry.components ∧
      header.progressive = settings.progressive ∧ header.quality = settings.quality := by
  obtain ⟨form, start, alone, told, tables, fit, first, second, ends⟩ := form
  rename_i items closing head rest payload lists
  let slots : Quant.Slots := Vector.ofFn fun slot => QuantSegment.lastTable slot lists.flatten
  let header : Header :=
    ⟨settings.geometry.width, settings.geometry.height,
      UInt8.ofNat settings.geometry.components, settings.progressive, slots⟩
  have mode : settings.progressive = true ↔ Marker.StartsProgressive settings.frame.code := by
    show _ ↔ Marker.StartsProgressive (if settings.progressive then 0xC2 else 0xC0)
    cases settings.progressive <;> decide
  have slot (index : Fin 4) : slots[index] = QuantSegment.lastTable index lists.flatten :=
    Vector.getElem_ofFn index.isLt
  have declared : header.DeclaredBy items :=
    ⟨⟨settings.frame, payload, alone, told, rfl, rfl, rfl, mode⟩, lists, tables, fit, slot⟩
  have estimated : header.quality = settings.quality := by
    have luma : header.luma = _ := (slot 0).trans first
    have chroma : header.chroma = _ := (slot 1).trans second
    rw [Header.quality, luma, chroma, Quant.estimate_scaled valid]
  refine ⟨header, Header.read_append form declared rest, ?_, rfl, rfl, rfl, rfl, estimated⟩
  rw [Header.isTerminated_append form start declared, ends]

/-- What is relied on of an engine. -/
structure Engine.Conforms (engine : Engine) : Prop where
  /-- A frame is offered with the width and the height that its header declares. -/
  reports {source : Bytes} {header : Header} {offer : Offer}
    (read : Header.read source = .ok header) (accepted : engine.inspect source = .ok offer) :
    offer.width = header.width.toUInt32 ∧ offer.height = header.height.toUInt32
  /-- A frame is written in its form. -/
  writes (settings : EncoderSettings) (frame : Frame.Samples settings.geometry)
    (valid : isValidQuality settings.quality = true) (wide : 0 < settings.geometry.width)
    (high : 0 < settings.geometry.height) :
    EncodedForm settings (engine.encode settings frame)
  /-- What was written is accepted, as the frame that it was, and decoded. -/
  reads (settings : EncoderSettings) (frame : Frame.Samples settings.geometry)
    (valid : isValidQuality settings.quality = true) (wide : 0 < settings.geometry.width)
    (high : 0 < settings.geometry.height) :
    engine.inspect (engine.encode settings frame) = .ok (.ofGeometry settings.geometry) ∧
      ∃ decoded, engine.decode (engine.encode settings frame) settings.geometry = .ok decoded

end JpegTranscoder
