/-
**JSON values.**

The tokens of a text make a value, or none. Objects keep every field, in order, also those whose
names come twice.
-/
import JpegTranscoder.Json.Token

namespace JpegTranscoder.Json

inductive Value where
  | null
  | boolean (value : Bool)
  | number (value : Option Nat)
  | string (text : Option String)
  | array (items : List Value)
  | object (fields : List (Option String × Value))

/-- What was read off a list of tokens, and a shorter list of the tokens after it. -/
abbrev Taken (α : Type) (tokens : List Token) : Type :=
  α × { rest : List Token // rest.length < tokens.length }

/-- The same value, read off one token more. -/
def Taken.weaken {α : Type} {token : Token} {tokens : List Token} (taken : Taken α tokens) :
    Taken α (token :: tokens) :=
  (taken.1, ⟨taken.2.val, Nat.lt_succ_of_lt taken.2.property⟩)

mutual

/-- The value that the tokens begin with. -/
def takeValue (tokens : List Token) : Option (Taken Value tokens) :=
  match tokens with
  | .null :: rest => some (.null, ⟨rest, Nat.lt_succ_self _⟩)
  | .boolean value :: rest => some (.boolean value, ⟨rest, Nat.lt_succ_self _⟩)
  | .number value :: rest => some (.number value, ⟨rest, Nat.lt_succ_self _⟩)
  | .string text :: rest => some (.string text, ⟨rest, Nat.lt_succ_self _⟩)
  | .openArray :: .closeArray :: rest =>
    some (.array [], ⟨rest, Nat.lt_succ_of_lt (Nat.lt_succ_self _)⟩)
  | .openArray :: rest => (takeItems rest).map fun (items, after) =>
    (Value.array items, after) |> Taken.weaken
  | .openObject :: .closeObject :: rest =>
    some (.object [], ⟨rest, Nat.lt_succ_of_lt (Nat.lt_succ_self _)⟩)
  | .openObject :: rest => (takeFields rest).map fun (fields, after) =>
    (Value.object fields, after) |> Taken.weaken
  | _ => none
termination_by 2 * tokens.length

/-- The items of an array, up to its closing bracket. -/
def takeItems (tokens : List Token) : Option (Taken (List Value) tokens) :=
  match takeValue tokens with
  | none => none
  | some (item, ⟨rest, shorter⟩) =>
    match rest with
    | .closeArray :: after =>
      some ([item], ⟨after, Nat.lt_trans (Nat.lt_succ_self _) shorter⟩)
    | .comma :: after =>
      (takeItems after).map fun (items, last) =>
        (item :: items, ⟨last.val, by
          have inner := last.property
          simp only [List.length_cons] at shorter
          omega⟩)
    | _ => none
termination_by 2 * tokens.length + 1
decreasing_by
  · omega
  · simp only [List.length_cons] at shorter
    omega

/-- The fields of an object, up to its closing brace. -/
def takeFields (tokens : List Token) :
    Option (Taken (List (Option String × Value)) tokens) :=
  match tokens with
  | .string name :: .colon :: tail =>
    match takeValue tail with
    | none => none
    | some (value, ⟨rest, shorter⟩) =>
      match rest with
      | .closeObject :: after =>
        some ([(name, value)], ⟨after, by simp only [List.length_cons] at shorter ⊢; omega⟩)
      | .comma :: after =>
        (takeFields after).map fun (fields, last) =>
          ((name, value) :: fields, ⟨last.val, by
            have inner := last.property
            simp only [List.length_cons] at shorter ⊢
            omega⟩)
      | _ => none
  | _ => none
termination_by 2 * tokens.length + 1
decreasing_by
  · simp only [List.length_cons]
    omega
  · simp only [List.length_cons] at shorter ⊢
    omega

end

def Value.read (text : String) : Option Value := do
  let (value, rest) ← takeValue (← tokens text)
  if rest.val.isEmpty then some value else none

end JpegTranscoder.Json
