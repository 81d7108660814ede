/-
**Writing the coefficients of a block.**

A token is a Huffman symbol followed by plain bits. The tokens of a scan are known before its
Huffman tables are: the tables can be made for them, and then every token has its bits.
-/
import JpegTranscoder.Dct.Coefficients

namespace JpegTranscoder.Dct

/-- A symbol, the table that it is coded with, and the bits after it. -/
structure Token where
  kind : Huffman.Class
  slot : Nat
  symbol : UInt8
  extra : Bits

/-- The number of bits of a magnitude. -/
def bitWidth (value : Int) : Nat := if value = 0 then 0 else Nat.log2 value.natAbs + 1

/-- The bits of a signed number; a negative one is told by a leading zero. -/
def signedBits (value : Int) : Bits :=
  let width := bitWidth value
  Bits.ofNat width (if value < 0 then value + Int.pow 2 width - 1 else value).toNat

/-- The token of a first coefficient, given that of the block before. -/
def differenceToken (slot : Nat) (prediction value : Int) : Token :=
  let difference := value - prediction
  ⟨.dc, slot, UInt8.ofNat (bitWidth difference), signedBits difference⟩

/-- The tokens of the other coefficients of a band, after `zeros` zero ones. -/
def runTokens (slot : Nat) (zeros : Nat) : List Int → List Token
  | [] => if zeros = 0 then [] else [⟨.ac, slot, 0x00, []⟩]
  | value :: rest =>
    if value = 0 then runTokens slot (zeros + 1) rest
    else
      List.replicate (zeros / 16) ⟨.ac, slot, 0xF0, []⟩ ++
        ⟨.ac, slot, UInt8.ofNat (zeros % 16 * 16 + bitWidth value), signedBits value⟩ ::
          runTokens slot 0 rest

/-- The tokens of the blocks of one component in a band of first passes. -/
def blockTokens (slot : Nat) (band : Band) (prediction : Int) (block : Block) : List Token :=
  let others := (block.toList.take (band.last + 1)).drop (max 1 band.first)
  (if band.first = 0 then [differenceToken slot prediction (block.coefficient 0)] else []) ++
    if band.last = 0 then [] else runTokens slot 0 others

/-- How often each symbol of a table occurs. -/
def frequencies (kind : Huffman.Class) (slot : Nat) (tokens : List Token) : List (UInt8 × Nat) :=
  let used := tokens.filter fun token => token.kind = kind ∧ token.slot = slot
  let counts := used.foldl
    (fun counts token => counts.modify token.symbol.toNat (· + 1)) (Array.replicate 256 0)
  (List.range 256).filterMap fun symbol =>
    let count := counts[symbol]?.getD 0
    if count = 0 then none else some (UInt8.ofNat symbol, count)

def codeBits (table : Huffman.Table) : Array Bits :=
  table.codes.foldl (fun bits code => bits.setIfInBounds code.symbol.toNat code.bits)
    (Array.replicate 256 [])

/-- The bits of tokens under the given tables. -/
def tokenBits (tables : List Huffman.Entry) (tokens : List Token) : Bits :=
  let codes := tables.map fun entry => (entry.kind, entry.slot, codeBits entry.table)
  tokens.flatMap fun token =>
    match codes.find? fun (kind, slot, _) => kind = token.kind ∧ slot = token.slot with
    | some (_, _, bits) => bits[token.symbol.toNat]?.getD [] ++ token.extra
    | none => token.extra

end JpegTranscoder.Dct
