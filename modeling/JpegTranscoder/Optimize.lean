/-
**Optimizing a file.**

The file under one path is transcoded, and the result is written under another. Nothing is written
before the encoding has succeeded.
-/
import JpegTranscoder.Decimal
import JpegTranscoder.FileSystem
import JpegTranscoder.Transcode

namespace JpegTranscoder

/-- The sizes of a file before and after, in bytes, and the quality it was encoded at. -/
structure SizeReport where
  inputSize : Nat
  outputSize : Nat
  quality : UInt8
  deriving DecidableEq, Repr

namespace SizeReport

/-- The bytes saved in percent of the input, in double precision; negative if the file grew. -/
def savedPercent (report : SizeReport) : Float :=
  if report.inputSize = 0 then 0
  else
    let input := (UInt64.ofNat report.inputSize).toFloat
    let output := (UInt64.ofNat report.outputSize).toFloat
    (input - output) * 100 / input

/-- The line that tells of a file, with its output size and savings as given. -/
def line (report : SizeReport) (source outputSize saved : String) : String :=
  let sizes := s!"{report.inputSize} -> {outputSize} bytes ({saved}% saved)"
  s!"optimized {source}: {sizes} at quality {report.quality}"

/-- The log record that tells of a file. -/
def record (report : SizeReport) (source : String) : Log.Record where
  level := .info
  text := report.line source (toString report.outputSize) (Decimal.oneDecimal report.savedPercent)

end SizeReport

/-- What an optimization leaves behind: its result, its log, and the files. -/
structure Optimized where
  result : Except TranscodeError SizeReport
  log : List Log.Record
  files : FileSystem

/-- Encodes a source in memory, and tells the quality it was encoded at. -/
def transcodeWithQuality (codec : Codec) (memory : Memory) (source : Bytes) (options : Options) :
    Logged (UInt8 × Bytes) :=
  let opened := (Session.create codec memory options).openBytes source
  let recoded := recode codec opened fun session =>
    session.encodeToBytes.map fun bytes => (session.effectiveQuality, bytes)
  ⟨recoded.result, recoded.trace.log⟩

/-- Optimizes the file named `source` into the file named `target`. -/
def optimizeFile (codec : Codec) (memory : Memory) (files : FileSystem) (source target : String)
    (options : Options) : Optimized :=
  match files.readNamed source with
  | .error error => ⟨.error (.ofStream error), [], files⟩
  | .ok input =>
    let transcoded := transcodeWithQuality codec memory input options
    match transcoded.result with
    | .error error => ⟨.error error, transcoded.log, files⟩
    | .ok (quality, output) =>
      match files.writeNamed target output with
      | (.error error, after) => ⟨.error (.ofStream error), transcoded.log, after⟩
      | (.ok (), after) =>
        let report : SizeReport := ⟨input.length, output.length, quality⟩
        ⟨.ok report, transcoded.log ++ [report.record source], after⟩

end JpegTranscoder
