/-
**Conversations with a codec.**

A codec is asked for its steps in a fixed order, each with arguments that the answers before it
determine. `Protocol` says so of a list of calls, each told by the calls before it. The same is said
by a machine that reads the calls one by one: `Progress` is what it knows of the answers so far,
`Progress.Admits` what it lets pass, `Progress.next` where an answer leads.

* `follows_append`: the machine reads a list part after part;
* `Records.after`: what it knows is true of the calls that it has read;
* `Follows.protocol`: calls that it lets pass keep to the protocol.
-/
import JpegTranscoder.Proofs.Session.Holdings
import Mathlib.Algebra.GroupWithZero.Nat

namespace JpegTranscoder

/-! ### The protocol -/

/-- What a codec can be asked for. -/
inductive CallKind where
  | readHeader
  | beginDecode
  | readRows
  | finishDecode
  | createEncoder
  | beginEncode
  | writeRows
  | finishEncode
  deriving DecidableEq, Repr

namespace CodecCall

def kind : CodecCall → CallKind
  | .readHeader _ _ => .readHeader
  | .beginDecode _ => .beginDecode
  | .readRows _ _ _ => .readRows
  | .finishDecode _ => .finishDecode
  | .createEncoder _ => .createEncoder
  | .beginEncode _ _ => .beginEncode
  | .writeRows _ _ _ => .writeRows
  | .finishEncode _ => .finishEncode

/-- Whether a call was answered with an error. -/
def failed : CodecCall → Bool
  | .readHeader _ answer => !answer.isOk
  | .beginDecode answer => !answer.isOk
  | .readRows _ _ answer | .writeRows _ _ answer => !answer.isOk
  | .finishDecode answer | .createEncoder answer | .beginEncode _ answer
  | .finishEncode answer => !answer.isOk

/-- The rows that a call gave. -/
def rowsGiven : CodecCall → Nat
  | .readRows _ _ (.ok count) => count
  | _ => 0

end CodecCall

/-- The rows that the calls gave together. -/
def rowsGiven (calls : List CodecCall) : Nat := (calls.map CodecCall.rowsGiven).sum

/-- All that a codec is asked for when nothing goes wrong. -/
def wholeLife (reads writes : Nat) : List CallKind :=
  [.readHeader, .beginDecode] ++ List.replicate (reads + 1) .readRows ++
    [.finishDecode, .createEncoder, .beginEncode] ++ List.replicate (writes + 1) .writeRows ++
    [.finishEncode]

/-- What the calls before a call determine of it. -/
def FitsBehind (before : List CodecCall) : CodecCall → Prop
  | .readRows room stride _ =>
    ∃ geometry, .beginDecode (.ok geometry) ∈ before ∧ stride = geometry.stride ∧
      rowsGiven before < geometry.rows ∧
      room = (geometry.rows - rowsGiven before) * geometry.stride
  | .finishDecode _ =>
    ∃ geometry, .beginDecode (.ok geometry) ∈ before ∧ rowsGiven before = geometry.rows
  | .beginEncode settings _ =>
    .beginDecode (.ok settings.geometry) ∈ before ∧
      (∃ source header, .readHeader source (.ok header) ∈ before ∧
        settings.progressive = header.progressive) ∧
      settings.optimized = true
  | .writeRows rows stride _ =>
    ∃ geometry, .beginDecode (.ok geometry) ∈ before ∧ stride = geometry.stride ∧
      rowsTaken before < geometry.rows ∧
      rows.length = (geometry.rows - rowsTaken before) * geometry.stride
  | .finishEncode _ =>
    ∃ geometry, .beginDecode (.ok geometry) ∈ before ∧ rowsTaken before = geometry.rows
  | .readHeader _ _ | .beginDecode _ | .createEncoder _ => True

/-- Calls that are made in order, none behind an error, each with what the ones before it
determine. -/
structure Protocol (calls : List CodecCall) : Prop where
  ordered : ∃ reads writes, calls.map CodecCall.kind <+: wholeLife reads writes
  stopped : ∀ {before call after}, calls = before ++ call :: after → call.failed = true →
    after = []
  fitting : ∀ {before call after}, calls = before ++ call :: after → FitsBehind before call

/-! ### The machine -/

/-- How far a conversation has come, and what the answers told. -/
inductive Progress where
  | fresh
  | opened (progressive : Bool)
  | reading (progressive : Bool) (geometry : Geometry) (row : Nat)
  | decoded (progressive : Bool) (geometry : Geometry)
  | created (progressive : Bool) (geometry : Geometry)
  | writing (progressive : Bool) (geometry : Geometry) (row : Nat)
  | over

namespace Progress

/-- The calls that may be made, whatever they are answered. -/
inductive Admits : Progress → CodecCall → Prop where
  | readHeader {source : Bytes} {answer : Except CodecError Header} :
      Admits .fresh (.readHeader source answer)
  | beginDecode {progressive : Bool} {answer : Except CodecError Geometry} :
      Admits (.opened progressive) (.beginDecode answer)
  | readRows {progressive : Bool} {geometry : Geometry} {row : Nat} {answer : Except CodecError Nat}
      (due : row < geometry.rows) :
      Admits (.reading progressive geometry row)
        (.readRows ((geometry.rows - row) * geometry.stride) geometry.stride answer)
  | finishDecode {progressive : Bool} {geometry : Geometry} {answer : Except CodecError Unit}
      (high : 0 < geometry.rows) :
      Admits (.reading progressive geometry geometry.rows) (.finishDecode answer)
  | createEncoder {progressive : Bool} {geometry : Geometry} {answer : Except CodecError Unit} :
      Admits (.decoded progressive geometry) (.createEncoder answer)
  | beginEncode {progressive : Bool} {geometry : Geometry} {quality : UInt8}
      {answer : Except CodecError Unit} :
      Admits (.created progressive geometry)
        (.beginEncode ⟨geometry, quality, progressive, true⟩ answer)
  | writeRows {progressive : Bool} {geometry : Geometry} {row : Nat} {rows : Bytes}
      {answer : Except CodecError Nat} (due : row < geometry.rows)
      (rest : rows.length = (geometry.rows - row) * geometry.stride) :
      Admits (.writing progressive geometry row) (.writeRows rows geometry.stride answer)
  | finishEncode {progressive : Bool} {geometry : Geometry} {answer : Except CodecError Unit}
      (high : 0 < geometry.rows) :
      Admits (.writing progressive geometry geometry.rows) (.finishEncode answer)

/-- Where the answer to a call leads. An error ends the conversation, and so does a number of rows
that is none or too many. -/
def next : Progress → CodecCall → Progress
  | .fresh, .readHeader _ (.ok header) => .opened header.progressive
  | .opened progressive, .beginDecode (.ok geometry) => .reading progressive geometry 0
  | .reading progressive geometry row, .readRows _ _ (.ok count) =>
    if count = 0 ∨ geometry.rows - row < count then .over
    else .reading progressive geometry (row + count)
  | .reading progressive geometry _, .finishDecode (.ok ()) => .decoded progressive geometry
  | .decoded progressive geometry, .createEncoder (.ok ()) => .created progressive geometry
  | .created progressive geometry, .beginEncode _ (.ok ()) => .writing progressive geometry 0
  | .writing progressive geometry row, .writeRows _ _ (.ok count) =>
    if count = 0 ∨ geometry.rows - row < count then .over
    else .writing progressive geometry (row + count)
  | _, _ => .over

/-- Where the answers to some calls lead. -/
def after (progress : Progress) (calls : List CodecCall) : Progress := calls.foldl next progress

/-- Calls each of which may be made behind those before it. -/
def Follows : Progress → List CodecCall → Prop
  | _, [] => True
  | progress, call :: later => progress.Admits call ∧ (progress.next call).Follows later

variable {progress : Progress} {call : CodecCall} {calls first second : List CodecCall}

theorem after_append : progress.after (first ++ second) = (progress.after first).after second :=
  List.foldl_append

theorem follows_append :
    progress.Follows (first ++ second) ↔
      progress.Follows first ∧ (progress.after first).Follows second := by
  induction first generalizing progress with
  | nil => exact ⟨fun follows => ⟨trivial, follows⟩, And.right⟩
  | cons call later ih =>
    rw [List.cons_append, Follows, Follows, ih, and_assoc]
    rfl

/-- An error ends the conversation. -/
theorem next_of_failed (error : call.failed = true) : progress.next call = .over := by
  unfold next
  split <;> first | rfl | cases error

/-- Nothing is called when a conversation is over. -/
theorem follows_over (follows : Progress.over.Follows calls) : calls = [] := by
  cases calls with
  | nil => rfl
  | cons call later => cases follows.1

/-! ### What the machine knows -/

/-- The header's mode and the decoder's geometry were answered. -/
structure Known (progressive : Bool) (geometry : Geometry) (calls : List CodecCall) : Prop where
  header : ∃ source header, .readHeader source (.ok header) ∈ calls ∧
    progressive = header.progressive
  geometry : .beginDecode (.ok geometry) ∈ calls

theorem Known.append {progressive : Bool} {geometry : Geometry}
    (known : Known progressive geometry calls) (more : List CodecCall) :
    Known progressive geometry (calls ++ more) := by
  obtain ⟨⟨source, header, member, same⟩, told⟩ := known
  exact ⟨⟨source, header, List.mem_append_left _ member, same⟩, List.mem_append_left _ told⟩

/-- What is true of the calls behind which a conversation has come so far. -/
def Records : Progress → List CodecCall → Prop
  | .fresh, calls => calls = []
  | .opened progressive, calls =>
    ∃ source header, calls = [.readHeader source (.ok header)] ∧ progressive = header.progressive
  | .reading progressive geometry row, calls =>
    Known progressive geometry calls ∧ rowsGiven calls = row ∧ row ≤ geometry.rows ∧
      rowsTaken calls = 0 ∧
      ∃ reads, calls.map CodecCall.kind =
        [.readHeader, .beginDecode] ++ List.replicate reads .readRows ∧
        (0 < row → ∃ more, reads = more + 1)
  | .decoded progressive geometry, calls =>
    Known progressive geometry calls ∧ rowsTaken calls = 0 ∧
      ∃ reads, calls.map CodecCall.kind =
        [.readHeader, .beginDecode] ++ List.replicate (reads + 1) .readRows ++ [.finishDecode]
  | .created progressive geometry, calls =>
    Known progressive geometry calls ∧ rowsTaken calls = 0 ∧
      ∃ reads, calls.map CodecCall.kind =
        [.readHeader, .beginDecode] ++ List.replicate (reads + 1) .readRows ++
          [.finishDecode, .createEncoder]
  | .writing progressive geometry row, calls =>
    Known progressive geometry calls ∧ rowsTaken calls = row ∧ row ≤ geometry.rows ∧
      ∃ reads writes, calls.map CodecCall.kind =
        [.readHeader, .beginDecode] ++ List.replicate (reads + 1) .readRows ++
          [.finishDecode, .createEncoder, .beginEncode] ++ List.replicate writes .writeRows ∧
        (0 < row → ∃ more, writes = more + 1)
  | .over, _ => True

/-- An admitted call has its place in the order. -/
theorem Records.ordered (records : progress.Records calls) (admitted : progress.Admits call) :
    ∃ reads writes, (calls ++ [call]).map CodecCall.kind <+: wholeLife reads writes := by
  rw [List.map_append]
  cases admitted with
  | readHeader =>
    cases records
    exact ⟨0, 0, by simp [wholeLife, CodecCall.kind]⟩
  | beginDecode =>
    obtain ⟨source, header, rfl, _⟩ := records
    exact ⟨0, 0, by simp [wholeLife, CodecCall.kind]⟩
  | readRows due =>
    obtain ⟨_, _, _, _, reads, order, _⟩ := records
    refine ⟨reads, 0, ?_⟩
    rw [order]
    simp [wholeLife, List.replicate_succ', CodecCall.kind]
  | finishDecode high =>
    obtain ⟨_, _, _, _, _, order, some⟩ := records
    obtain ⟨reads, rfl⟩ := some high
    refine ⟨reads, 0, ?_⟩
    rw [order]
    simp [wholeLife, CodecCall.kind]
  | createEncoder =>
    obtain ⟨_, _, reads, order⟩ := records
    refine ⟨reads, 0, ?_⟩
    rw [order]
    simp [wholeLife, CodecCall.kind]
  | beginEncode =>
    obtain ⟨_, _, reads, order⟩ := records
    refine ⟨reads, 0, ?_⟩
    rw [order]
    simp [wholeLife, CodecCall.kind]
  | writeRows due rest =>
    obtain ⟨_, _, _, reads, writes, order, _⟩ := records
    refine ⟨reads, writes, ?_⟩
    rw [order]
    simp [wholeLife, List.replicate_succ', CodecCall.kind]
  | finishEncode high =>
    obtain ⟨_, _, _, reads, _, order, some⟩ := records
    obtain ⟨writes, rfl⟩ := some high
    refine ⟨reads, writes, ?_⟩
    rw [order]
    simp [wholeLife, CodecCall.kind]

theorem rowsGiven_concat (calls : List CodecCall) (call : CodecCall) :
    rowsGiven (calls ++ [call]) = rowsGiven calls + call.rowsGiven := by
  simp [rowsGiven]

theorem rowsTaken_concat (calls : List CodecCall) (call : CodecCall) :
    rowsTaken (calls ++ [call]) = rowsTaken calls + call.rowsTaken := by
  show ((calls ++ [call]).map CodecCall.rowsTaken).sum = (calls.map CodecCall.rowsTaken).sum + _
  simp

/-- **What is known stays true** when an admitted call is answered. -/
theorem Records.next (records : progress.Records calls) (admitted : progress.Admits call) :
    (progress.next call).Records (calls ++ [call]) := by
  by_cases error : call.failed = true
  · rw [next_of_failed error]
    trivial
  cases admitted with
  | @readHeader source answer =>
    cases records
    cases answer with
    | error => exact absurd rfl error
    | ok header => exact ⟨source, header, rfl, rfl⟩
  | @beginDecode progressive answer =>
    obtain ⟨source, header, rfl, mode⟩ := records
    cases answer with
    | error => exact absurd rfl error
    | ok geometry =>
      refine ⟨⟨⟨source, header, by simp, mode⟩, by simp⟩, rfl, Nat.zero_le _, rfl, 0, rfl, ?_⟩
      exact fun due => absurd due (Nat.lt_irrefl 0)
  | @readRows progressive geometry row answer due =>
    obtain ⟨known, given, bound, taken, reads, kinds, _⟩ := records
    cases answer with
    | error => exact absurd rfl error
    | ok count =>
      show Records (if count = 0 ∨ geometry.rows - row < count then _ else _) _
      split
      · trivial
      · rename_i good
        refine ⟨known.append _, ?_, by omega, ?_, reads + 1, ?_, fun _ => ⟨reads, rfl⟩⟩
        · rw [rowsGiven_concat, given]
          rfl
        · rw [rowsTaken_concat, taken]
          rfl
        · rw [List.map_append, kinds, List.replicate_succ', List.append_assoc]
          rfl
  | @finishDecode progressive geometry answer high =>
    obtain ⟨known, _, _, taken, _, kinds, some⟩ := records
    obtain ⟨reads, rfl⟩ := some high
    cases answer with
    | error => exact absurd rfl error
    | ok =>
      refine ⟨known.append _, ?_, reads, ?_⟩
      · rw [rowsTaken_concat, taken]
        rfl
      · rw [List.map_append, kinds]
        rfl
  | @createEncoder progressive geometry answer =>
    obtain ⟨known, taken, reads, kinds⟩ := records
    cases answer with
    | error => exact absurd rfl error
    | ok =>
      refine ⟨known.append _, ?_, reads, ?_⟩
      · rw [rowsTaken_concat, taken]
        rfl
      · rw [List.map_append, kinds, List.append_assoc]
        rfl
  | @beginEncode progressive geometry quality answer =>
    obtain ⟨known, taken, reads, kinds⟩ := records
    cases answer with
    | error => exact absurd rfl error
    | ok =>
      refine ⟨known.append _, ?_, Nat.zero_le _, reads, 0, ?_, ?_⟩
      · rw [rowsTaken_concat, taken]
        rfl
      · rw [List.map_append, kinds, List.append_assoc]
        simp [CodecCall.kind]
      · exact fun due => absurd due (Nat.lt_irrefl 0)
  | @writeRows progressive geometry row rows answer due rest =>
    obtain ⟨known, taken, bound, reads, writes, kinds, _⟩ := records
    cases answer with
    | error => exact absurd rfl error
    | ok count =>
      show Records (if count = 0 ∨ geometry.rows - row < count then _ else _) _
      split
      · trivial
      · rename_i good
        refine ⟨known.append _, ?_, by omega, reads, writes + 1, ?_, fun _ => ⟨writes, rfl⟩⟩
        · rw [rowsTaken_concat, taken]
          rfl
        · simp [kinds, List.replicate_succ', CodecCall.kind]
  | finishEncode high => trivial

/-- **What the machine knows is true of the calls that it has read.** -/
theorem Records.after (records : progress.Records first) (follows : progress.Follows second) :
    (progress.after second).Records (first ++ second) := by
  induction second generalizing progress first with
  | nil =>
    rw [List.append_nil]
    exact records
  | cons call later ih =>
    rw [List.append_cons]
    exact ih (records.next follows.1) follows.2

/-- What is known determines the call that may be made. -/
theorem Records.fits (records : progress.Records calls) (admitted : progress.Admits call) :
    FitsBehind calls call := by
  cases admitted with
  | @readRows progressive geometry row answer due =>
    obtain ⟨known, rfl, _⟩ := records
    exact ⟨geometry, known.geometry, rfl, due, rfl⟩
  | @finishDecode progressive geometry answer high =>
    obtain ⟨known, given, _⟩ := records
    exact ⟨geometry, known.geometry, given⟩
  | beginEncode =>
    obtain ⟨known, _⟩ := records
    exact ⟨known.geometry, known.header, rfl⟩
  | @writeRows progressive geometry row rows answer due rest =>
    obtain ⟨known, rfl, _⟩ := records
    exact ⟨geometry, known.geometry, rfl, due, rest⟩
  | @finishEncode progressive geometry answer high =>
    obtain ⟨known, taken, _⟩ := records
    exact ⟨geometry, known.geometry, taken⟩
  | _ => trivial

/-- **Calls that the machine lets pass keep to the protocol.** -/
theorem Follows.protocol (follows : Progress.fresh.Follows calls) : Protocol calls where
  ordered := by
    rcases List.eq_nil_or_concat calls with rfl | ⟨before, last, rfl⟩
    · exact ⟨0, 0, List.nil_prefix⟩
    · rw [List.concat_eq_append] at follows ⊢
      obtain ⟨told, admitted, _⟩ := follows_append.mp follows
      have records : Progress.fresh.Records [] := rfl
      exact (records.after told).ordered admitted
  stopped := by
    rintro before call after rfl error
    obtain ⟨_, _, rest⟩ := follows_append.mp follows
    rw [next_of_failed error] at rest
    exact follows_over rest
  fitting := by
    rintro before call after rfl
    obtain ⟨told, admitted, _⟩ := follows_append.mp follows
    have records : Progress.fresh.Records [] := rfl
    exact (records.after told).fits admitted

end Progress

end JpegTranscoder
