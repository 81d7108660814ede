/-
**An engine for one shade of gray.**

It takes every source for a frame of the middle gray, and writes every frame as one. Of such frames
of one block it writes and reads what an engine of cosine transforms does, and it keeps what is
relied on of an engine:

* `segment_form`: a segment is written in its form;
* `Flat.conforms`: what is relied on of an engine holds.
-/
import JpegTranscoder.Dct.Encoder
import JpegTranscoder.Proofs.Recompression.Conforms

namespace JpegTranscoder

open Dct.Encoder Quant.Reference

/-! ### Segments -/

theorem segment_form {code : UInt8} {payload : Bytes} (has : Marker.HasSegment code)
    (short : payload.length + 2 < 65536) :
    (Item.segment ⟨code, 0⟩ payload).Form (segment code payload) := by
  obtain ⟨notZero, notFill, notAlone, notClosing⟩ := has
  have marker : (Marker.mk code 0).Form [0xFF, code] := .mk 0 .none notZero notFill
  refine .segment _ _ marker notAlone notClosing ?_
  rw [← toNat_word16, word16_split, UInt16.toNat_ofNat']
  omega

/-- The divisors of a scaled table are bytes. -/
theorem fits_scaled (slot : Fin 4) (base : Vector UInt16 64) (quality : Nat) :
    QuantSegment.Entry.Fits ⟨slot, .byte, scaled base quality⟩ := by
  intro position
  show ((scaled base quality).values[position]).toNat < 256
  rw [scaled, Fin.getElem_fin, Vector.getElem_map, toNat_scaleDivisor, scaleBy]
  omega

theorem write_byte_length (slot : Fin 4) (table : Quant.Table) :
    (QuantSegment.write [⟨slot, .byte, table⟩]).length = 65 := by
  have bytes := QuantSegment.Entry.divisorBytes_length ⟨slot, .byte, table⟩
  rw [QuantSegment.write, List.flatMap_singleton]
  show (_ :: QuantSegment.Entry.divisorBytes ⟨slot, .byte, table⟩).length = 65
  rw [List.length_cons, bytes]
  rfl

/-! ### The engine -/

namespace Flat

/-- The entry of a scaled table. -/
def entry (settings : EncoderSettings) (slot : Fin 4) : QuantSegment.Entry :=
  ⟨slot, .byte, quantTable settings.quality slot.val⟩

/-- The payload of an interchange segment. -/
def interchange : Bytes := [0x4A, 0x46, 0x49, 0x46, 0x00, 1, 2, 0, 0, 1, 0, 1, 0, 0]

/-- A Huffman table of a single symbol, 0, with a code of one bit. -/
def singleSymbol (kind : UInt8) : Bytes := kind :: 1 :: List.replicate 16 0

/-- The components that a frame header lists. -/
def componentList (settings : EncoderSettings) : Bytes :=
  (List.range settings.geometry.components).flatMap fun component =>
    [UInt8.ofNat component, 0x11, UInt8.ofNat (tableSlot component)]

/-- The payload of a frame header. -/
def framePayload (settings : EncoderSettings) : Bytes :=
  8 :: wordBytes settings.geometry.height ++ wordBytes settings.geometry.width ++
    UInt8.ofNat settings.geometry.components :: componentList settings

/-- The items of a header. -/
def items (settings : EncoderSettings) : List Item :=
  [.segment ⟨0xE0, 0⟩ interchange,
    .segment ⟨settings.frame.code, 0⟩ (framePayload settings),
    .segment ⟨Marker.quantTables, 0⟩ (QuantSegment.write [entry settings 0]),
    .segment ⟨Marker.quantTables, 0⟩ (QuantSegment.write [entry settings 1]),
    .segment ⟨Marker.huffmanTables, 0⟩ (singleSymbol 0x00),
    .segment ⟨Marker.huffmanTables, 0⟩ (singleSymbol 0x10)]

/-- The segments of a header. -/
def segments (settings : EncoderSettings) : Bytes :=
  interchangeSegment ++ (frameSegment settings ++
    (segment Marker.quantTables (QuantSegment.write [entry settings 0]) ++
    (segment Marker.quantTables (QuantSegment.write [entry settings 1]) ++
    (segment Marker.huffmanTables (singleSymbol 0x00) ++
    (segment Marker.huffmanTables (singleSymbol 0x10) ++ [])))))

/-- A scan of one gray block without any nonzero coefficient, behind its marker, and the end. -/
def scan : Bytes := [0x00, 0x08, 0x01, 0x00, 0x00, 0x00, 0x3F, 0x00, 0x3F, 0xFF, 0xD9]

/-- The stream of a frame. -/
def stream (settings : EncoderSettings) : Bytes :=
  0xFF :: 0xD8 :: (segments settings ++ [0xFF, Marker.startOfScan]) ++ scan

/-- A frame of the middle gray. -/
def frame (geometry : Geometry) : Frame.Samples geometry :=
  ⟨List.replicate geometry.byteCount 128, List.length_replicate⟩

/-- The color of a frame by its components. -/
def color (components : UInt8) : ColorSpace := if components = 1 then .gray else .rgb

/-- The engine. -/
def engine : Engine where
  inspect source :=
    match Header.read source with
    | .error _ => .error "unreadable header"
    | .ok header => .ok (.ofGeometry ⟨header.width, header.height, color header.components⟩)
  decode _ geometry := .ok (frame geometry)
  encode settings _ := stream settings
  refuse _ _ := "too few samples"

/-! ### What it writes -/

variable (settings : EncoderSettings)

theorem frame_code (settings : EncoderSettings) :
    Marker.StartsFrame settings.frame.code ∧ settings.frame.code ≠ Marker.quantTables ∧
      Marker.HasSegment settings.frame.code := by
  have code : settings.frame.code = if settings.progressive then 0xC2 else 0xC0 := rfl
  rw [code]
  cases settings.progressive <;> decide

theorem componentList_length :
    (componentList settings).length = 3 * settings.geometry.components := by
  rw [componentList, Geometry.components]
  cases settings.geometry.color <;> rfl

theorem framePayload_form : settings.frame.Form (framePayload settings) := by
  refine .mk 8 (componentList settings) ?_
  show 3 * (UInt8.ofNat settings.geometry.components).toNat ≤ _
  rw [componentList_length, UInt8.toNat_ofNat']
  omega

theorem framePayload_length : (framePayload settings).length + 2 < 65536 := by
  have few : settings.geometry.components ≤ 3 := by
    rw [Geometry.components]
    cases settings.geometry.color <;> decide
  simp only [framePayload, wordBytes, List.length_append, List.length_cons, List.length_nil,
    componentList_length]
  omega

theorem items_form : ItemsForm (items settings) (segments settings) := by
  have tables (slot : Fin 4) : (QuantSegment.write [entry settings slot]).length + 2 < 65536 := by
    rw [entry, write_byte_length]
    decide
  refine .cons ?_ (.cons ?_ (.cons ?_ (.cons ?_ (.cons ?_ (.cons ?_ .nil)))))
  · exact segment_form (by decide) (by decide)
  · exact segment_form (frame_code settings).2.2 (framePayload_length settings)
  · exact segment_form (by decide) (tables 0)
  · exact segment_form (by decide) (tables 1)
  · exact segment_form (by decide) (by decide)
  · exact segment_form (by decide) (by decide)

theorem items_frames : (items settings).filterMap Item.frameHeader =
    [(settings.frame.code, framePayload settings)] := by
  have plain {code : UInt8} {payload : Bytes} (other : ¬Marker.StartsFrame code) :
      (Item.segment ⟨code, 0⟩ payload).frameHeader = none := if_neg other
  have starts : (Item.segment ⟨settings.frame.code, 0⟩ (framePayload settings)).frameHeader =
      some (settings.frame.code, framePayload settings) := if_pos (frame_code settings).1
  rw [items, List.filterMap_cons_none (plain (by decide)), List.filterMap_cons_some starts,
    List.filterMap_cons_none (plain (by decide)), List.filterMap_cons_none (plain (by decide)),
    List.filterMap_cons_none (plain (by decide)), List.filterMap_cons_none (plain (by decide)),
    List.filterMap_nil]

theorem items_tables : (items settings).filterMap Item.tablePayload =
    [[entry settings 0], [entry settings 1]].map QuantSegment.write := by
  have plain {code : UInt8} {payload : Bytes} (other : code ≠ Marker.quantTables) :
      (Item.segment ⟨code, 0⟩ payload).tablePayload = none := if_neg other
  have holds (payload : Bytes) :
      (Item.segment ⟨Marker.quantTables, 0⟩ payload).tablePayload = some payload := rfl
  rw [items, List.filterMap_cons_none (plain (by decide)),
    List.filterMap_cons_none (plain (frame_code settings).2.1),
    List.filterMap_cons_some (holds _), List.filterMap_cons_some (holds _),
    List.filterMap_cons_none (plain (by decide)), List.filterMap_cons_none (plain (by decide)),
    List.filterMap_nil]
  rfl

theorem stream_form : EncodedForm settings (stream settings) := by
  have start : (Marker.mk Marker.startOfScan 0).Form [0xFF, Marker.startOfScan] :=
    .mk 0 .none (by decide) (by decide)
  have form : HeaderForm (items settings) ⟨Marker.startOfScan, 0⟩ _ :=
    .mk (items_form settings) start (Or.inl rfl)
  have fit : ∀ entries ∈ [[entry settings 0], [entry settings 1]], ∀ given ∈ entries,
      given.Fits := by
    simp only [List.forall_mem_cons]
    exact ⟨⟨fits_scaled _ _ _, nofun⟩, ⟨fits_scaled _ _ _, nofun⟩, nofun⟩
  exact .mk form rfl (items_frames settings) (framePayload_form settings) (items_tables settings)
    fit rfl rfl rfl

theorem color_components (shape : Geometry) :
    color (UInt8.ofNat shape.components) = shape.color := by
  rw [Geometry.components]
  cases shape.color <;> rfl

/-- **What is relied on of an engine holds.** -/
theorem conforms : engine.Conforms := by
  refine ⟨?_, fun settings _ _ _ _ => stream_form settings, ?_⟩
  · intro source header shape read accepted
    simp only [engine, read] at accepted
    cases accepted
    exact ⟨rfl, rfl⟩
  · intro settings given valid _ _
    obtain ⟨header, read, _, width, height, components, _⟩ := (stream_form settings).read valid
    refine ⟨?_, frame settings.geometry, rfl⟩
    simp only [engine, read, width, height, components, color_components]

end Flat

end JpegTranscoder
