/-
**What a failed run leaves.**

A run that optimizes a file makes the whole result in memory before it writes. Up to there nothing
is changed, and nothing is if the file is not opened; but once it is opened it is emptied, and the
write can break off behind any byte:

* `Path.Plain.resolve`: the path of a name without directories;
* `optimizeFile_unwritten`: a run that does not get as far as writing changes nothing;
* `Writes.failed`: a write that fails leaves its file alone, or with the bytes written so far;
* `optimizeFile_failed`: when a failed run leaves all files as they were.
-/
import JpegTranscoder.Optimize
import JpegTranscoder.Proofs.Scanline.Verdict

namespace JpegTranscoder

/-! ### Names -/

section Names

open String

/-- A text is not split at a character that is no slash. -/
theorem splitOnAux_next {text : String} {i : Pos.Raw} (inside : ¬i.atEnd text = true)
    (other : ¬(i.get text == '/') = true) :
    text.splitOnAux "/" 0 i 0 [] = text.splitOnAux "/" 0 (i.next text) 0 [] := by
  have slash : Pos.Raw.get "/" 0 = '/' := by decide
  rw [splitOnAux, if_neg inside, slash, if_neg other]
  rfl

/-- A name of a file in the working directory. -/
structure Path.Plain (name : String) : Prop where
  single : name.splitOn "/" = [name]
  slash : '/' ∉ name.toList
  zero : Char.ofNat 0 ∉ name.toList
  ne_empty : name ≠ ""
  ne_dot : name ≠ "."
  ne_dots : name ≠ ".."
  short : name.utf8ByteSize ≤ 255

namespace Path.Plain

variable {name : String}

theorem isAround_eq (plain : Plain name) : Path.isAround [name] = false := by
  have below : ([name] == root) = false := by
    refine beq_false_of_ne fun same => ?_
    obtain rfl : name = "/" := List.head_eq_of_cons_eq same
    exact plain.slash (by decide)
  have inside : ([name] : Path).all (· == "..") = false := by
    rw [List.all_cons, List.all_nil, Bool.and_true]
    exact beq_false_of_ne plain.ne_dots
  rw [isAround, below, inside]
  rfl

/-- **A name without directories** is a path of its own, whatever files there are. -/
theorem resolve (plain : Plain name) (files : FileSystem) : files.resolve name = .ok [name] := by
  have relative : Path.start name = [] := by
    refine if_neg fun absolute => plain.slash ?_
    exact (startsWith_string_iff.mp absolute).subset (by decide)
  have printable : ¬name.contains (Char.ofNat 0) = true := by
    rw [contains_char_eq, decide_eq_true_eq]
    exact plain.zero
  have given : ¬name.isEmpty = true := fun empty => plain.ne_empty (isEmpty_iff.mp empty)
  have fits : ¬4095 < name.utf8ByteSize := by
    have short := plain.short
    omega
  rw [FileSystem.resolve, plain.single, FileSystem.walk, if_neg printable, if_neg given,
    if_neg fits, relative]
  show (files.step [] name).bind pure = _
  have here : files.entry [] = some .directory := rfl
  rw [FileSystem.step, here]
  dsimp only
  rw [if_neg (not_or.mpr ⟨plain.ne_empty, plain.ne_dot⟩), if_neg plain.ne_dots,
    if_neg (Nat.not_lt.mpr plain.short)]
  rfl

theorem resolveNew (plain : Plain name) (files : FileSystem) :
    files.resolveNew name = .ok [name] := by
  have noDirectory : ¬name.endsWith "/" = true := by
    intro directory
    refine plain.slash ?_
    rw [← copy_toSlice (s := name)]
    exact (Slice.endsWith_string_iff.mp directory).subset (by decide)
  rw [FileSystem.resolveNew, if_neg noDirectory, plain.resolve]

end Path.Plain

end Names

/-! ### Contents -/

namespace FileSystem

variable {files : FileSystem} {path : Path}

theorem isAround_of_free (free : files.entry path ≠ some .directory) : path.isAround = false := by
  refine Bool.eq_false_iff.mpr fun around => free ?_
  rw [entry, if_pos around]

/-- Bytes stand under a path, and under any other what stood there before. -/
structure Overwritten (files after : FileSystem) (path : Path) (bytes : Bytes) : Prop where
  entry_eq : after.entry path = some (.file bytes)
  others : ∀ other, other ≠ path → after.entry other = files.entry other

theorem overwritten_put (free : files.entry path ≠ some .directory) (bytes : Bytes) :
    files.Overwritten (files.put path bytes) path bytes where
  entry_eq := by
    have first : ((path, FileEntry.file bytes) :: files.entries).find?
        (fun known => known.1 == path) = some (path, .file bytes) :=
      List.find?_cons_of_pos (beq_self_eq_true path)
    rw [entry, isAround_of_free free, if_neg Bool.false_ne_true]
    exact congrArg (Option.map Prod.snd) first
  others := by
    intro other ne
    have behind : ((path, FileEntry.file bytes) :: files.entries).find?
        (fun known => known.1 == other) = files.entries.find? fun known => known.1 == other :=
      List.find?_cons_of_neg fun same => ne (eq_of_beq same).symm
    rw [entry, entry, ← behind]
    rfl

/-- All is as it was only if the bytes are those that stood there before. -/
theorem Overwritten.same_iff {after : FileSystem} {bytes : Bytes}
    (overwritten : files.Overwritten after path bytes) :
    (∀ path, after.entry path = files.entry path) ↔ files.entry path = some (.file bytes) := by
  constructor
  · intro same
    rw [← same path]
    exact overwritten.entry_eq
  · intro before other
    by_cases same : other = path
    · rw [same, overwritten.entry_eq, before]
    · exact overwritten.others other same

/-- How a write fails. -/
inductive Failing (files : FileSystem) (path : Path) (bytes : Bytes) :
    StreamError → FileSystem → Prop where
  /-- The file is not opened, and stays as it was. -/
  | unopened {error : StreamError} (planned : files.writeFault path = some (.unopened error)) :
    Failing files path bytes error files
  /-- The write breaks off in the opened file. -/
  | torn {written : Nat} {error : StreamError}
      (planned : files.writeFault path = some (.torn written error))
      (short : written < bytes.length) :
    Failing files path bytes error (files.put path (bytes.take written))

theorem write_eq (free : files.entry path ≠ some .directory) (bytes : Bytes) :
    files.write path bytes =
      match files.writeFault path with
      | none => (.ok (), files.put path bytes)
      | some (.unopened error) => (.error error, files)
      | some (.torn written error) =>
        (if written < bytes.length then .error error else .ok (),
          files.put path (bytes.take written)) := by
  rw [write]
  split
  · rename_i directory
    exact absurd directory free
  · rfl

/-- **A write to a path without a directory** puts the bytes there, or fails. -/
theorem write_free (free : files.entry path ≠ some .directory) (bytes : Bytes) :
    files.write path bytes = (.ok (), files.put path bytes) ∨
      ∃ error after, files.write path bytes = (.error error, after) ∧
        files.Failing path bytes error after := by
  rw [write_eq free]
  cases planned : files.writeFault path with
  | none => exact .inl rfl
  | some fault =>
    cases fault with
    | unopened error => exact .inr ⟨error, files, rfl, .unopened planned⟩
    | torn written error =>
      dsimp only
      split
      · rename_i short
        exact .inr ⟨error, _, rfl, .torn planned short⟩
      · rename_i whole
        rw [List.take_of_length_le (Nat.not_lt.mp whole)]
        exact .inl rfl

theorem write_directory (directory : files.entry path = some .directory) (bytes : Bytes) :
    files.write path bytes = (.error isDirectory, files) := by
  rw [write, directory]

end FileSystem

/-! ### Runs -/

/-- Encodings of the same results have the same result. -/
theorem recode_map {codec : Codec} {α β : Type} (opened : Outcome codec Metadata)
    {first : Session codec → Outcome codec α} {second : Session codec → Outcome codec β} {f : α → β}
    (same : ∀ session, (first session).result.map f = (second session).result) :
    (recode codec opened first).result.map f = (recode codec opened second).result := by
  unfold recode
  cases opened.result with
  | error error => rfl
  | ok metadata =>
    dsimp only
    cases opened.session.decode.result with
    | error error => rfl
    | ok done =>
      dsimp only
      rw [← same]
      cases (first opened.session.decode.session).result with
      | error error => rfl
      | ok value => rfl

section Runs

variable {codec : Codec} {memory : Memory} {files : FileSystem} {source target : String}
  {options : Options} {path : Path} {bytes : Bytes}

theorem transcodeWithQuality_snd (codec : Codec) (memory : Memory) (input : Bytes)
    (options : Options) :
    (transcodeWithQuality codec memory input options).result.map Prod.snd =
      (transcode codec memory input options).result := by
  refine recode_map _ fun session => ?_
  show (session.encodeToBytes.result.map _).map _ = _
  cases session.encodeToBytes.result with
  | error error => rfl
  | ok bytes => rfl

/-- A run gets as far as writing bytes under a path. -/
structure Writes (codec : Codec) (memory : Memory) (files : FileSystem) (source target : String)
    (options : Options) (path : Path) (bytes : Bytes) : Prop where
  transcoded : ∃ input, files.readNamed source = .ok input ∧
    (transcode codec memory input options).result = .ok bytes
  named : files.resolveNew target = .ok path
  free : files.entry path ≠ some .directory

/-- What a run comes to is what its write comes to. -/
theorem Writes.ending (writes : Writes codec memory files source target options path bytes) :
    let run := optimizeFile codec memory files source target options
    run.result.map (fun _ => ()) = (files.write path bytes).1.mapError .ofStream ∧
      run.files = (files.write path bytes).2 := by
  obtain ⟨⟨input, found, transcoded⟩, named, free⟩ := writes
  intro run
  rw [← transcodeWithQuality_snd] at transcoded
  cases made : (transcodeWithQuality codec memory input options).result with
  | error error =>
    rw [made] at transcoded
    cases transcoded
  | ok pair =>
    obtain ⟨quality, output⟩ := pair
    rw [made] at transcoded
    cases transcoded
    have ran : run = optimizeFile codec memory files source target options := rfl
    rw [optimizeFile, found] at ran
    simp only [made, FileSystem.writeNamed, named] at ran
    rw [ran]
    rcases files.write path output with ⟨error | done, after⟩
    · exact ⟨rfl, rfl⟩
    · exact ⟨rfl, rfl⟩

/-- **Before it writes, a run changes nothing.** -/
theorem optimizeFile_unwritten
    (unwritten : ¬∃ path bytes, Writes codec memory files source target options path bytes) :
    (optimizeFile codec memory files source target options).files = files := by
  rw [optimizeFile]
  cases found : files.readNamed source with
  | error error => rfl
  | ok input =>
    have transcoded := transcodeWithQuality_snd codec memory input options
    dsimp only
    cases made : (transcodeWithQuality codec memory input options).result with
    | error error => rfl
    | ok pair =>
      obtain ⟨quality, output⟩ := pair
      rw [made] at transcoded
      simp only [FileSystem.writeNamed]
      cases named : files.resolveNew target with
      | error error => rfl
      | ok path =>
        dsimp only
        by_cases directory : files.entry path = some .directory
        · rw [FileSystem.write_directory directory]
        · exact absurd
            ⟨path, output, ⟨input, found, transcoded.symm⟩, named, directory⟩ unwritten

/-- **A run whose write fails**: either the file is not opened, or the write breaks off in it. -/
theorem Writes.failed (writes : Writes codec memory files source target options path bytes)
    {error : TranscodeError}
    (failed : (optimizeFile codec memory files source target options).result = .error error) :
    let after := (optimizeFile codec memory files source target options).files
    (∃ refused, files.writeFault path = some (.unopened refused) ∧ error = .ofStream refused ∧
      after = files) ∨
    ∃ written broken, files.writeFault path = some (.torn written broken) ∧
      written < bytes.length ∧ error = .ofStream broken ∧
      files.Overwritten after path (bytes.take written) := by
  intro after
  obtain ⟨told, left⟩ := writes.ending
  rw [failed] at told
  rcases FileSystem.write_free writes.free bytes with wrote | ⟨fault, last, broke, failing⟩
  · rw [wrote] at told
    cases told
  · rw [broke] at told left
    rw [show after = last from left]
    have same : error = .ofStream fault := Except.error.inj told
    cases failing with
    | unopened planned => exact .inl ⟨fault, planned, same, rfl⟩
    | torn planned short =>
      exact .inr ⟨_, fault, planned, short, same, FileSystem.overwritten_put writes.free _⟩

/-- **What a failed run leaves.** If it did not get as far as writing, all files are as they were.
If it did, its write failed. Either the target was not opened, and all files are as they were; or
the write broke off, and the bytes written so far stand in place of the target, whatever stood there
and if nothing did, and only the other files are as they were. So a failed run leaves all files
alone exactly when no write broke off, or the target held just these bytes before. -/
theorem optimizeFile_failed {error : TranscodeError}
    (failed : (optimizeFile codec memory files source target options).result = .error error) :
    let after := (optimizeFile codec memory files source target options).files
    ((¬∃ path bytes, Writes codec memory files source target options path bytes) →
      after = files) ∧
    (∀ path bytes, Writes codec memory files source target options path bytes →
      (∃ refused, files.writeFault path = some (.unopened refused) ∧ error = .ofStream refused ∧
        after = files) ∨
      ∃ written broken, files.writeFault path = some (.torn written broken) ∧
        written < bytes.length ∧ error = .ofStream broken ∧
        files.Overwritten after path (bytes.take written)) ∧
    ((∀ path, after.entry path = files.entry path) ↔
      ∀ path bytes written broken,
        Writes codec memory files source target options path bytes →
          files.writeFault path = some (.torn written broken) →
            files.entry path = some (.file (bytes.take written))) := by
  intro after
  refine ⟨optimizeFile_unwritten, fun path bytes writes => writes.failed failed, ?_, ?_⟩
  · intro same path bytes written broken writes planned
    rcases writes.failed failed with ⟨refused, known, _⟩ | ⟨_, _, known, _, _, overwritten⟩
    · cases planned.symm.trans known
    · cases planned.symm.trans known
      exact overwritten.same_iff.mp same
  · intro kept
    by_cases wrote : ∃ path bytes, Writes codec memory files source target options path bytes
    · obtain ⟨path, bytes, writes⟩ := wrote
      rcases writes.failed failed with ⟨_, _, _, same⟩ | ⟨_, _, planned, _, _, overwritten⟩
      · exact fun path => congrArg (·.entry path) same
      · exact overwritten.same_iff.mpr (kept path bytes _ _ writes planned)
    · rw [show after = files from optimizeFile_unwritten wrote]
      exact fun _ => rfl

end Runs

/-! ### A gray block in a file -/

/-- The device holds no more. -/
def deviceFull : StreamError := ⟨.other, "No space left on device (os error 28)"⟩

/-- A stream of a gray block. -/
def grayBlock : Bytes := Flat.stream ⟨⟨8, 8, .gray⟩, 50, false, true⟩

/-- One file, and a device that holds one byte more. -/
def nearlyFull : FileSystem :=
  ⟨[(["in.jpg"], .file grayBlock)], fun _ => none, fun _ => some (.torn 1 deviceFull)⟩

theorem plain_in : Path.Plain "in.jpg" := by
  refine ⟨?_, by decide, by decide, by decide, by decide, by decide, by decide⟩
  rw [String.splitOn, if_neg (by decide)]
  simp (disch := decide) only [splitOnAux_next]
  rw [String.splitOnAux, if_pos (by decide)]
  decide

theorem plain_out : Path.Plain "out.jpg" := by
  refine ⟨?_, by decide, by decide, by decide, by decide, by decide, by decide⟩
  rw [String.splitOn, if_neg (by decide)]
  simp (disch := decide) only [splitOnAux_next]
  rw [String.splitOnAux, if_pos (by decide)]
  decide

/-- A gray block is transcoded to the same stream, and then written under any plain name. -/
theorem grayBlock_writes {name : String} (plain : Path.Plain name) :
    Writes (Scanline.codec Flat.engine (.below 65)) (.below 65) nearlyFull "in.jpg" name .default
      [name] grayBlock where
  transcoded := by
    refine ⟨grayBlock, ?_, ?_⟩
    · rw [FileSystem.readNamed, plain_in.resolve]
      rfl
    · exact @Scanline.flat_transcode _ ⟨⟨8, 8, .gray⟩, 50, false, true⟩ rfl (by decide) (by decide)
        (by decide) .default
  named := plain.resolveNew nearlyFull
  free := by
    have around := plain.isAround_eq
    rw [FileSystem.entry, around, if_neg Bool.false_ne_true]
    intro directory
    obtain ⟨known, found, same⟩ := Option.map_eq_some_iff.mp directory
    obtain rfl := List.mem_singleton.mp (List.mem_of_find?_eq_some found)
    cases same

/-- The write of the block breaks off behind its first byte. -/
theorem grayBlock_breaks {name : String} (plain : Path.Plain name) :
    let run := optimizeFile (Scanline.codec Flat.engine (.below 65)) (.below 65) nearlyFull "in.jpg"
      name .default
    run.result = .error (.ofStream deviceFull) ∧
      nearlyFull.Overwritten run.files [name] [0xFF] := by
  intro run
  have writes := grayBlock_writes plain
  obtain ⟨told, left⟩ := writes.ending
  have short : 1 < grayBlock.length := by
    obtain ⟨rest, begins⟩ : ∃ rest, grayBlock = 0xFF :: 0xD8 :: rest := ⟨_, rfl⟩
    rw [begins, List.length_cons, List.length_cons]
    omega
  rw [FileSystem.write_eq writes.free] at told left
  simp only [nearlyFull, if_pos short] at told left
  exact ⟨map_eq_error_iff.mp told, left ▸ FileSystem.overwritten_put writes.free [0xFF]⟩

/-- A write under a new name breaks off behind its first byte: the source is kept, and a file begins
to stand where nothing did. -/
theorem optimizeFile_failed_new :
    let run := optimizeFile (Scanline.codec Flat.engine (.below 65)) (.below 65) nearlyFull "in.jpg"
      "out.jpg" .default
    run.result = .error (.ofStream deviceFull) ∧
      nearlyFull.entry ["out.jpg"] = none ∧
      run.files.entry ["out.jpg"] = some (.file [0xFF]) ∧
      run.files.entry ["in.jpg"] = some (.file grayBlock) := by
  intro run
  have writes := grayBlock_writes plain_out
  have failed : run.result = .error (.ofStream deviceFull) := (grayBlock_breaks plain_out).1
  rcases (optimizeFile_failed failed).2.1 ["out.jpg"] grayBlock writes with
    ⟨refused, planned, _⟩ | ⟨written, broken, planned, _, _, overwritten⟩
  · cases planned
  · cases planned
    exact ⟨failed, by decide, overwritten.entry_eq, overwritten.others ["in.jpg"] (by decide)⟩

/-- **A failed run can destroy its source**: a file is optimized in place, and its write breaks off
behind the first byte. -/
theorem optimizeFile_destroys_source :
    let run := optimizeFile (Scanline.codec Flat.engine (.below 65)) (.below 65) nearlyFull "in.jpg"
      "in.jpg" .default
    run.result = .error (.ofStream deviceFull) ∧
      nearlyFull.entry ["in.jpg"] = some (.file grayBlock) ∧
      run.files.entry ["in.jpg"] = some (.file [0xFF]) ∧ grayBlock ≠ [0xFF] := by
  intro run
  obtain ⟨failed, overwritten⟩ := grayBlock_breaks plain_in
  refine ⟨failed, ?_, overwritten.entry_eq, nofun⟩
  rw [FileSystem.entry, plain_in.isAround_eq]
  rfl

end JpegTranscoder
