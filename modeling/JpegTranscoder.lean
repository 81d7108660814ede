import JpegTranscoder.Bytes
import JpegTranscoder.Codec
import JpegTranscoder.Codec.Scripted
import JpegTranscoder.Dct.Bits
import JpegTranscoder.Dct.Coefficients
import JpegTranscoder.Dct.Color
import JpegTranscoder.Dct.Cosine
import JpegTranscoder.Dct.Decoder
import JpegTranscoder.Dct.Encoder
import JpegTranscoder.Dct.Engine
import JpegTranscoder.Dct.Huffman
import JpegTranscoder.Dct.Layout
import JpegTranscoder.Dct.Picture
import JpegTranscoder.Dct.Scan
import JpegTranscoder.Dct.Tokens
import JpegTranscoder.Dct.TypicalTables
import JpegTranscoder.Decimal
import JpegTranscoder.Engine
import JpegTranscoder.Error
import JpegTranscoder.FileSystem
import JpegTranscoder.Geometry
import JpegTranscoder.Json.Record
import JpegTranscoder.Json.Token
import JpegTranscoder.Json.Value
import JpegTranscoder.Log
import JpegTranscoder.Optimize
import JpegTranscoder.Options
import JpegTranscoder.Proofs.FailedRuns
import JpegTranscoder.Proofs.Quant.Coarser
import JpegTranscoder.Proofs.Quant.Recovery
import JpegTranscoder.Proofs.Quant.Search
import JpegTranscoder.Proofs.RasterRows
import JpegTranscoder.Proofs.RasterShape
import JpegTranscoder.Proofs.RasterSize
import JpegTranscoder.Proofs.Recompression.Conforms
import JpegTranscoder.Proofs.Recompression.Flat
import JpegTranscoder.Proofs.Recompression.Preserved
import JpegTranscoder.Proofs.Results
import JpegTranscoder.Proofs.Scanline.Calls
import JpegTranscoder.Proofs.Scanline.Frame
import JpegTranscoder.Proofs.Scanline.Presented
import JpegTranscoder.Proofs.Scanline.Reading
import JpegTranscoder.Proofs.Scanline.Residue
import JpegTranscoder.Proofs.Scanline.Retry
import JpegTranscoder.Proofs.Scanline.Returns
import JpegTranscoder.Proofs.Scanline.Rows
import JpegTranscoder.Proofs.Scanline.Runs
import JpegTranscoder.Proofs.Scanline.SinkFailure
import JpegTranscoder.Proofs.Scanline.Transcode
import JpegTranscoder.Proofs.Scanline.Verdict
import JpegTranscoder.Proofs.Scanline.WholeSource
import JpegTranscoder.Proofs.Session.Begun
import JpegTranscoder.Proofs.Session.Chunks
import JpegTranscoder.Proofs.Session.Conversation
import JpegTranscoder.Proofs.Session.Endings
import JpegTranscoder.Proofs.Session.Holdings
import JpegTranscoder.Proofs.Session.Learned
import JpegTranscoder.Proofs.Session.Lifecycle
import JpegTranscoder.Proofs.Session.Misplaced
import JpegTranscoder.Proofs.Session.Outcomes
import JpegTranscoder.Proofs.Session.Protocol
import JpegTranscoder.Proofs.Session.Quality
import JpegTranscoder.Proofs.Session.Rounds
import JpegTranscoder.Proofs.Session.Run
import JpegTranscoder.Proofs.Session.Stages
import JpegTranscoder.Proofs.Session.Steps
import JpegTranscoder.Proofs.Session.Tiled
import JpegTranscoder.Proofs.Sink
import JpegTranscoder.Proofs.Source
import JpegTranscoder.Proofs.Stream.FirstMarker
import JpegTranscoder.Proofs.Stream.HeaderForm
import JpegTranscoder.Proofs.Stream.HeaderPrefix
import JpegTranscoder.Proofs.Stream.MarkerForm
import JpegTranscoder.Proofs.Stream.ScansForm
import JpegTranscoder.Proofs.Stream.SegmentForm
import JpegTranscoder.Proofs.Stream.TableEntries
import JpegTranscoder.Proofs.Stream.TableSegment
import JpegTranscoder.Proofs.Streaming
import JpegTranscoder.Proofs.Truncation
import JpegTranscoder.Proofs.TruthfulReports
import JpegTranscoder.Quant.Calibration
import JpegTranscoder.Quant.Estimate
import JpegTranscoder.Quant.Reference
import JpegTranscoder.Quant.Table
import JpegTranscoder.Quant.Zigzag
import JpegTranscoder.Raster
import JpegTranscoder.Scanline.Codec
import JpegTranscoder.Scanline.Decoder
import JpegTranscoder.Scanline.Encoder
import JpegTranscoder.Session.Attempt
import JpegTranscoder.Session.Basic
import JpegTranscoder.Session.Decode
import JpegTranscoder.Session.Encode
import JpegTranscoder.Session.Open
import JpegTranscoder.Session.Operation
import JpegTranscoder.Sink
import JpegTranscoder.Source
import JpegTranscoder.Stream.Fault
import JpegTranscoder.Stream.Frame
import JpegTranscoder.Stream.Header
import JpegTranscoder.Stream.Marker
import JpegTranscoder.Stream.QuantSegment
import JpegTranscoder.Stream.Segment
import JpegTranscoder.Summary
import JpegTranscoder.Transcode
