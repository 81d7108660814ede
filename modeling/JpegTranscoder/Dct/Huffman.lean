/-
**Huffman tables.**

A table lists its symbols by the length of their codes, 1 to 16 bits; the codes themselves follow
from the counts: codes of one length are consecutive numbers, and a longer code starts where the
shorter ones left off.

* `Huffman.Table.readSymbol` reads a symbol, `Huffman.Table.codes` lists what is read;
* `Huffman.readSegment` reads the payload of a table segment, `Huffman.writeTable` writes one;
* `Huffman.isSoundSegment` tells whether all of a payload is read, as tables that can be used.
-/
import JpegTranscoder.Dct.Bits

namespace JpegTranscoder.Dct.Huffman

structure Table where
  /-- The number of codes of 1, 2, … 16 bits. -/
  counts : List Nat
  /-- The symbols in the order of their codes. -/
  symbols : List UInt8
  deriving DecidableEq, Repr

/-- A code: its length, its bits as a number, and its symbol. -/
structure Code where
  length : Nat
  value : Nat
  symbol : UInt8
  deriving DecidableEq, Repr

def Code.bits (code : Code) : Bits := Bits.ofNat code.length code.value

/-- The codes from length `length` on; `first` is the first code of that length. -/
def codesFrom (length first : Nat) : List Nat → List UInt8 → List Code
  | [], _ => []
  | count :: counts, symbols =>
    ((symbols.take count).zipIdx.map fun (symbol, index) => ⟨length, first + index, symbol⟩) ++
      codesFrom (length + 1) ((first + count) * 2) counts (symbols.drop count)

def Table.codes (table : Table) : List Code := codesFrom 1 0 table.counts table.symbols

/-- Reads a symbol whose code begins with the `prior` bits already read; `first` is the first code
of one bit more. -/
def readFrom (prior first : Nat) : List Nat → List UInt8 → Bits → Option (UInt8 × Bits)
  | [], _, _ => none
  | _ :: _, _, [] => none
  | count :: counts, symbols, bit :: bits =>
    let code := 2 * prior + bit.toNat
    if code < first + count then
      (symbols[code - first]?).map fun symbol => (symbol, bits)
    else readFrom code ((first + count) * 2) counts (symbols.drop count) bits

def Table.readSymbol (table : Table) (bits : Bits) : Option (UInt8 × Bits) :=
  readFrom 0 0 table.counts table.symbols bits

/-! ### Table segments -/

/-- Whether the codes from length `length` on fit into their lengths, and none is of ones alone;
`first` is the first code of that length. -/
def fitsFrom (length first : Nat) : List Nat → Bool
  | [] => true
  | count :: counts =>
    first + count < Nat.pow 2 length && fitsFrom (length + 1) ((first + count) * 2) counts

/-- What a table codes. -/
inductive Class where
  /-- Differences of first coefficients. -/
  | dc
  /-- Runs of zeros with the coefficient after them. -/
  | ac
  deriving DecidableEq, Repr

/-- The number that stands for a class. -/
def Class.code : Class → Nat
  | .dc => 0
  | .ac => 1

/-- The class that a number stands for. -/
def Class.ofCode? : Nat → Option Class
  | 0 => some .dc
  | 1 => some .ac
  | _ => none

/-- A table and where it is kept. -/
structure Entry where
  kind : Class
  slot : Nat
  table : Table
  deriving DecidableEq, Repr

/-- The number of codes of all lengths. -/
def codeTotal (counts : List Nat) : Nat := counts.foldr (· + ·) 0

/-- The entries of a table segment; one that is cut short, or of no class, ends the list. -/
def readSegment : Bytes → List Entry
  | [] => []
  | head :: rest =>
    let counts := (rest.take 16).map UInt8.toNat
    let after := rest.drop 16
    if rest.length < 16 ∨ after.length < codeTotal counts then []
    else
      match Class.ofCode? (head.toNat / 16) with
      | none => []
      | some kind =>
        ⟨kind, head.toNat % 16, counts, after.take (codeTotal counts)⟩ ::
          readSegment (after.drop (codeTotal counts))
termination_by bytes => bytes.length
decreasing_by
  simp only [List.length_drop, List.length_cons]
  omega

/-- Whether a table can be used: its slot is one of four, it has at most 256 codes, and they fit; a
difference has at most 15 bits. -/
def Entry.isSound (entry : Entry) : Bool :=
  decide (entry.slot < 4) && decide (codeTotal entry.table.counts ≤ 256) &&
    fitsFrom 1 0 entry.table.counts && (entry.kind == .ac || entry.table.symbols.all (· ≤ 15))

/-- The number of bytes of an entry. -/
def Entry.size (entry : Entry) : Nat := 17 + entry.table.symbols.length

/-- Whether a table segment holds whole tables that can be used, and nothing else. A table begins
with a byte for its class, 0 or 1, and its slot. -/
def isSoundSegment (payload : Bytes) : Bool :=
  let entries := readSegment payload
  entries.all Entry.isSound && (entries.map Entry.size).foldr (· + ·) 0 == payload.length

/-- The payload of a segment with one table. -/
def writeTable (entry : Entry) : Bytes :=
  UInt8.ofNat (entry.kind.code * 16 + entry.slot) ::
    entry.table.counts.map UInt8.ofNat ++ entry.table.symbols

/-! ### Tables for given frequencies -/

/-- A group of symbols under one node: how often they occur together, and the depth of each. -/
structure Group where
  weight : Nat
  depths : List Nat

/-- Two groups under a new node. -/
def Group.join (first second : Group) : Group :=
  ⟨first.weight + second.weight, (first.depths ++ second.depths).map (· + 1)⟩

/-- Puts a group among groups that are sorted by weight. -/
def insertGroup (group : Group) : List Group → List Group
  | [] => [group]
  | other :: rest =>
    if group.weight ≤ other.weight then group :: other :: rest
    else other :: insertGroup group rest

theorem insertGroup_length (group : Group) (groups : List Group) :
    (insertGroup group groups).length = groups.length + 1 := by
  induction groups with
  | nil => rfl
  | cons other rest ih =>
    unfold insertGroup
    split <;> simp [ih]

/-- The depths of the tree that joins the two lightest groups again and again. -/
def joinGroups : List Group → List Nat
  | [] => []
  | [group] => group.depths
  | first :: second :: rest => joinGroups (insertGroup (first.join second) rest)
termination_by groups => groups.length
decreasing_by
  rw [insertGroup_length]
  simp only [List.length_cons]
  omega

/-- The depths of the symbols of a tree for the given weights, as a list of lengths, shortest
first. -/
def depthsFor (weights : List Nat) : List Nat :=
  let groups := (weights.map fun weight => (⟨weight, [0]⟩ : Group)).foldr insertGroup []
  (joinGroups groups).mergeSort

/-- Code lengths of at most 16 bits for the given weights: the weights are evened out until the tree
is flat enough. -/
def lengthsFor (weights : List Nat) : List Nat :=
  let candidates := (List.range 32).map fun step =>
    depthsFor (weights.map fun weight => max 1 (weight / Nat.pow 2 step))
  (candidates.find? fun lengths => lengths.all (· ≤ 16)).getD []

/-- A table for symbols that occur with the given frequencies. The code of ones alone is given to no
symbol. -/
def Table.ofFrequencies (frequencies : List (UInt8 × Nat)) : Table :=
  let sorted := frequencies.mergeSort fun first second => second.2 ≤ first.2
  let lengths := (lengthsFor (sorted.map Prod.snd ++ [0])).take sorted.length
  { counts := (List.range 16).map fun index => lengths.count (index + 1)
    symbols := sorted.map Prod.fst }

end JpegTranscoder.Dct.Huffman
