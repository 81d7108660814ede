/-
**The first marker behind an offset.**

A marker stands where an `FF` has a code other than `00` and `FF` behind it, and a fill byte where
an `FF` has another one behind it. From any offset on the search finds the first marker that stands
there, and counts the bytes before it that are no fill bytes:

* `Marker.StandsAt`, `Marker.FillAt`: where markers and fill bytes stand;
* `Marker.seekFrom_finds`: the search finds the first marker, or there is none;
* `Marker.search_iff`: the loops of the search at a cursor end, with what the search finds;
* `Header.walk_of_found`, `Header.walk_of_missing`: what a walk that comes to an offset tells then;
* `Marker.first_marker`: all of this for every offset of every byte string.
-/
import Mathlib.Order.Bounds.Defs
import JpegTranscoder.Proofs.Stream.HeaderForm

namespace JpegTranscoder

namespace Marker

variable {data : Bytes} {base first : Nat} {code : UInt8}

/-! ### Where markers stand -/

/-- A marker stands at the offset: an `FF`, and a code other than `00` and `FF` behind it. -/
def StandsAt (data : Bytes) (offset : Nat) : Prop :=
  data[offset]? = some 0xFF ∧ ∃ code ∈ data[offset + 1]?, code ≠ 0x00 ∧ code ≠ 0xFF
  deriving Decidable

/-- A fill byte stands at the offset: an `FF`, and another one behind it. -/
def FillAt (data : Bytes) (offset : Nat) : Prop :=
  data[offset]? = some 0xFF ∧ data[offset + 1]? = some 0xFF
  deriving Decidable

/-- The number of fill bytes from one offset up to another. -/
def fillCount (data : Bytes) (start stop : Nat) : Nat :=
  (List.range' start (stop - start)).countP fun offset => FillAt data offset

theorem StandsAt.lt (stands : StandsAt data base) : base + 1 < data.length := by
  obtain ⟨_, code, behind, _⟩ := stands
  exact (List.getElem?_eq_some_iff.mp behind).1

theorem FillAt.not_standsAt (fill : FillAt data base) : ¬StandsAt data base := by
  rintro ⟨_, code, behind, _, notFill⟩
  exact notFill (Option.some.inj (behind.symm.trans fill.2))

theorem fillCount_step (before : base < first) :
    fillCount data base first =
      (if FillAt data base then 1 else 0) + fillCount data (base + 1) first := by
  have more : first - base = first - (base + 1) + 1 := by omega
  rw [fillCount, more, List.range'_succ, List.countP_cons, Nat.add_comm, fillCount]
  simp only [decide_eq_true_eq]

/-! ### The first marker -/

/-- The marker of the code is the first one from the offset `base` on. It stands at `first`, and
`stray` counts the bytes before it that are no fill bytes. -/
structure IsFirst (data : Bytes) (base first : Nat) (code : UInt8) (stray : Nat) : Prop where
  behind : base ≤ first
  stands : StandsAt data first
  code : data[first + 1]? = some code
  least : ∀ offset, base ≤ offset → StandsAt data offset → first ≤ offset
  counted : stray + fillCount data base first = first - base

/-- The first marker from the next offset on is the first one from this one on, if none stands
here. -/
theorem IsFirst.step {stray : Nat} (later : IsFirst data (base + 1) first code stray)
    (passed : ¬StandsAt data base) :
    IsFirst data base first code ((if FillAt data base then 0 else 1) + stray) := by
  have behind := later.behind
  have counted := later.counted
  refine ⟨by omega, later.stands, later.code, fun offset within stands => ?_, ?_⟩
  · rcases Nat.eq_or_lt_of_le within with rfl | further
    · exact absurd stands passed
    · exact later.least offset further stands
  · rw [fillCount_step behind]
    split <;> omega

/-- What a search from the offset `base` on may come to, with `before` stray bytes counted by then:
the first marker and the bytes behind it, or nothing where no marker stands. -/
inductive Finds (data : Bytes) (base before : Nat) : Option (Marker × Bytes) → Prop where
  | marker {first stray : Nat} {code : UInt8} (found : IsFirst data base first code stray) :
      Finds data base before (some (⟨code, before + stray⟩, data.drop (first + 2)))
  | missing (absent : ∀ offset, base ≤ offset → ¬StandsAt data offset) :
      Finds data base before none

variable {before : Nat} {result : Option (Marker × Bytes)}

/-- One byte is passed over. -/
theorem Finds.step (passed : ¬StandsAt data base)
    (later : Finds data (base + 1) (before + if FillAt data base then 0 else 1) result) :
    Finds data base before result := by
  cases later with
  | marker found =>
    rw [Nat.add_assoc]
    exact .marker (found.step passed)
  | missing absent =>
    refine .missing fun offset within stands => ?_
    rcases Nat.eq_or_lt_of_le within with rfl | further
    · exact passed stands
    · exact absent offset further stands

/-- A fill byte is passed over and not counted. -/
theorem Finds.fill (fill : FillAt data base) (later : Finds data (base + 1) before result) :
    Finds data base before result := by
  refine .step fill.not_standsAt ?_
  rwa [if_pos fill]

/-- A stray byte is passed over and counted. -/
theorem Finds.stray (passed : ¬StandsAt data base) (other : ¬FillAt data base)
    (later : Finds data (base + 1) (before + 1) result) : Finds data base before result := by
  refine .step passed ?_
  rwa [if_neg other]

theorem Finds.plain {value : UInt8} (here : data[base]? = some value) (plain : value ≠ 0xFF)
    (later : Finds data (base + 1) (before + 1) result) : Finds data base before result := by
  have other : data[base]? ≠ some 0xFF := by
    rw [here]
    exact fun same => plain (Option.some.inj same)
  exact .stray (fun stands => other stands.1) (fun fill => other fill.1) later

/-- An `FF` before a zero is no marker, and both are counted. -/
theorem Finds.stuffed (zero : data[base + 1]? = some 0x00)
    (later : Finds data (base + 2) (before + 2) result) : Finds data base before result := by
  refine .stray ?_ ?_ (.plain zero (by decide) later)
  · rintro ⟨_, code, behind, notZero, _⟩
    exact notZero (Option.some.inj (behind.symm.trans zero))
  · rintro ⟨_, fill⟩
    cases zero.symm.trans fill

/-- The bytes from a cursor on begin with a byte where it stands at the cursor. -/
theorem drop_eq_cons_iff {byte : UInt8} {tail : Bytes} {cursor : Nat} :
    data.drop cursor = byte :: tail ↔
      data[cursor]? = some byte ∧ data.drop (cursor + 1) = tail := by
  constructor
  · intro cut
    constructor
    · rw [← Nat.add_zero cursor, ← List.getElem?_drop, cut, List.getElem?_cons_zero]
    · rw [← List.drop_drop, cut, List.drop_one, List.tail_cons]
  · rintro ⟨here, rfl⟩
    obtain ⟨within, rfl⟩ := List.getElem?_eq_some_iff.mp here
    exact List.drop_eq_getElem_cons within

/-- **The search finds the first marker.** When an `FF` was just read, the search is about the bytes
from that `FF` on. -/
theorem seekFrom_finds {afterFill : Bool} (filled : afterFill = true → data[base]? = some 0xFF) :
    Finds data base before (seekFrom afterFill before (data.drop (base + afterFill.toNat))) := by
  generalize cut : data.drop (base + afterFill.toNat) = bytes
  -- On the bytes to come. An `FF` that was just read stays uncounted at `base`: what it is shows in
  -- the next byte.
  induction bytes generalizing afterFill before base with
  | nil =>
    refine .missing fun offset within stands => ?_
    have short := List.drop_eq_nil_iff.mp cut
    have long := stands.lt
    have one := afterFill.toNat_le
    omega
  | cons byte tail ih =>
    obtain ⟨here, rest⟩ := drop_eq_cons_iff.mp cut
    unfold seekFrom
    split
    · rename_i isFill
      subst isFill
      cases afterFill with
      | false => exact ih (fun _ => here) rest
      | true => exact .fill ⟨filled rfl, here⟩ (ih (fun _ => here) rest)
    · rename_i plain
      cases afterFill with
      | false => exact .plain here plain (ih (fun impossible => by cases impossible) rest)
      | true =>
        rw [if_pos rfl]
        split
        · rename_i zero
          subst zero
          exact .stuffed here (ih (fun impossible => by cases impossible) rest)
        · rename_i notZero
          have stands : StandsAt data base := ⟨filled rfl, byte, here, notZero, plain⟩
          have alone : IsFirst data base base byte 0 := by
            refine ⟨Nat.le_refl _, stands, here, fun _ within _ => within, ?_⟩
            rw [fillCount, Nat.sub_self, List.range'_zero, List.countP_nil]
          rw [← rest]
          exact .marker alone

theorem seek_finds (data : Bytes) (start : Nat) : Finds data start 0 (seek (data.drop start)) :=
  seekFrom_finds fun impossible : false = true => by cases impossible

/-- From an offset before a marker, the search finds the first one. -/
theorem seek_of_stands {start offset : Nat} (within : start ≤ offset)
    (stands : StandsAt data offset) :
    ∃ first code stray, IsFirst data start first code stray ∧
      seek (data.drop start) = some (⟨code, stray⟩, data.drop (first + 2)) := by
  have finds := seek_finds data start
  generalize seek (data.drop start) = result at finds ⊢
  cases finds with
  | marker found =>
    rw [Nat.zero_add]
    exact ⟨_, _, _, found, rfl⟩
  | missing absent => exact absurd stands (absent offset within)

theorem seek_of_absent {start : Nat} (absent : ∀ offset, start ≤ offset → ¬StandsAt data offset) :
    seek (data.drop start) = none := by
  have finds := seek_finds data start
  generalize seek (data.drop start) = result at finds ⊢
  cases finds with
  | marker found => exact absurd found.stands (absent _ found.behind)
  | missing _ => rfl

/-! ### The search as loops at a cursor -/

/-- What a search at a cursor comes to: a marker and the offset just past it, or the header is
malformed. -/
abbrev Outcome : Type := Except HeaderError (Marker × Nat)

/-- What was found in a part of the bytes, with the offset just past it instead of what follows. -/
def located (data : Bytes) : Option (Marker × Bytes) → Outcome
  | none => .error (.malformed .noMarker)
  | some (marker, rest) => .ok (marker, data.length - rest.length)

/-- The next marker from an offset on, with the offset just past it. -/
def next (data : Bytes) (start : Nat) : Outcome :=
  located data (seek (data.drop start))

/-- The two inner loops of the search: over bytes other than `FF`, and over `FF`. -/
inductive Loop where
  | stray
  | fill

def Loop.isFill : Loop → Bool
  | .stray => false
  | .fill => true

/-- The search comes to an end with the outcome, from a cursor in one of its loops on and with so
many stray bytes counted. -/
inductive Search (data : Bytes) : Loop → Nat → Nat → Outcome → Prop where
  /-- Bytes other than `FF` are counted one by one. -/
  | stray {cursor count : Nat} {outcome : Outcome} {value : UInt8}
      (here : data[cursor]? = some value) (plain : value ≠ 0xFF)
      (later : Search data .stray (cursor + 1) (count + 1) outcome) :
      Search data .stray cursor count outcome
  /-- At an `FF`, and at the end of the bytes, the second loop takes over. -/
  | turn {cursor count : Nat} {outcome : Outcome}
      (past : ∀ value, data[cursor]? = some value → value = 0xFF)
      (later : Search data .fill cursor count outcome) : Search data .stray cursor count outcome
  /-- Every `FF` is passed over. -/
  | fill {cursor count : Nat} {outcome : Outcome} (here : data[cursor]? = some 0xFF)
      (later : Search data .fill (cursor + 1) count outcome) :
      Search data .fill cursor count outcome
  /-- At the end of the bytes there is no code. -/
  | ended {cursor count : Nat} (past : data[cursor]? = none) :
      Search data .fill cursor count (.error (.malformed .noMarker))
  /-- A zero is no code: it is counted with its `FF`, and the loops begin anew. -/
  | stuffed {cursor count : Nat} {outcome : Outcome} (here : data[cursor]? = some 0x00)
      (later : Search data .stray (cursor + 1) (count + 2) outcome) :
      Search data .fill cursor count outcome
  /-- Any other byte is the code. -/
  | found {cursor count : Nat} {code : UInt8} (here : data[cursor]? = some code)
      (notFill : code ≠ 0xFF) (notZero : code ≠ 0x00) :
      Search data .fill cursor count (.ok (⟨code, count⟩, cursor + 1))

theorem located_at {cursor : Nat} (here : data[cursor]? = some code) (marker : Marker) :
    located data (some (marker, data.drop (cursor + 1))) = .ok (marker, cursor + 1) := by
  have within := (List.getElem?_eq_some_iff.mp here).1
  have past : data.length - (data.drop (cursor + 1)).length = cursor + 1 := by
    rw [List.length_drop]
    omega
  rw [located, past]

/-- The loops end with nothing but what the search finds. -/
theorem Search.outcome_eq {loop : Loop} {cursor count : Nat} {outcome : Outcome}
    (ends : Search data loop cursor count outcome) :
    outcome = located data (seekFrom loop.isFill count (data.drop cursor)) := by
  induction ends with
  | stray here plain later ih =>
    rw [ih, drop_eq_cons_iff.mpr ⟨here, rfl⟩, seekFrom, if_neg plain]
    rfl
  | turn past later ih =>
    rename_i cursor count outcome
    rw [ih]
    cases here : data[cursor]? with
    | none =>
      rw [List.drop_eq_nil_iff.mpr (List.getElem?_eq_none_iff.mp here)]
      rfl
    | some value =>
      rw [drop_eq_cons_iff.mpr ⟨here, rfl⟩, past value here]
      rfl
  | fill here later ih =>
    rw [ih, drop_eq_cons_iff.mpr ⟨here, rfl⟩]
    rfl
  | ended past =>
    rw [List.drop_eq_nil_iff.mpr (List.getElem?_eq_none_iff.mp past)]
    rfl
  | stuffed here later ih =>
    rw [ih, drop_eq_cons_iff.mpr ⟨here, rfl⟩]
    rfl
  | found here notFill notZero =>
    rw [drop_eq_cons_iff.mpr ⟨here, rfl⟩, Loop.isFill, seekFrom, if_neg notFill, if_pos rfl,
      if_neg notZero, located_at here]

/-- The loops end. -/
theorem Search.ends (data : Bytes) (loop : Loop) (cursor count : Nat) :
    ∃ outcome, Search data loop cursor count outcome := by
  -- On the bytes behind the cursor: each turn of a loop takes one, and the first loop gives way to
  -- the second at most once before that.
  induction left : data.length - cursor generalizing loop cursor count with
  | zero =>
    have past : data[cursor]? = none := List.getElem?_eq_none_iff.mpr (by omega)
    have second : Search data .fill cursor count _ := .ended past
    cases loop with
    | stray => exact ⟨_, .turn (fun value here => by rw [past] at here; cases here) second⟩
    | fill => exact ⟨_, second⟩
  | succ left ih =>
    have within : cursor < data.length := by omega
    have here : data[cursor]? = some data[cursor] := List.getElem?_eq_getElem within
    have onward (loop : Loop) (count : Nat) := ih loop (cursor + 1) count (by omega)
    by_cases isFill : data[cursor] = 0xFF
    · rw [isFill] at here
      obtain ⟨outcome, later⟩ := onward .fill count
      have second : Search data .fill cursor count outcome := .fill here later
      cases loop with
      | stray =>
        exact ⟨outcome, .turn (fun value same => Option.some.inj (same.symm.trans here)) second⟩
      | fill => exact ⟨outcome, second⟩
    · cases loop with
      | stray =>
        obtain ⟨outcome, later⟩ := onward .stray (count + 1)
        exact ⟨outcome, .stray here isFill later⟩
      | fill =>
        by_cases zero : data[cursor] = 0x00
        · rw [zero] at here
          obtain ⟨outcome, later⟩ := onward .stray (count + 2)
          exact ⟨outcome, .stuffed here later⟩
        · exact ⟨_, .found here isFill zero⟩

/-- **The loops of the search end, with what the search finds.** -/
theorem search_iff (data : Bytes) (start : Nat) (outcome : Outcome) :
    Search data .stray start 0 outcome ↔ outcome = next data start := by
  constructor
  · exact fun ends => ends.outcome_eq
  · rintro rfl
    obtain ⟨outcome, ends⟩ := Search.ends data .stray start 0
    have same : outcome = next data start := ends.outcome_eq
    rwa [← same]

end Marker

/-! ### What a walk makes of it -/

/-- A marker that is found begins an item, or the header ends at it. -/
theorem Segment.split_found {bytes rest : Bytes} {marker : Marker}
    (found : Marker.seek bytes = some (marker, rest)) :
    (∃ item later ending, split bytes = (item :: later, ending) ∧ item.marker = marker) ∨
      ∃ ending, split bytes = ([], ending) ∧ ending.warning = marker.warning := by
  rw [split_eq, found]
  dsimp only
  by_cases scan : marker.code = Marker.startOfScan
  · rw [if_pos scan]
    exact .inr ⟨_, rfl, rfl⟩
  by_cases last : marker.code = Marker.endOfImage
  · rw [if_neg scan, if_pos last]
    exact .inr ⟨_, rfl, rfl⟩
  rw [if_neg scan, if_neg last]
  by_cases alone : Marker.isStandalone marker.code = true
  · rw [if_pos alone]
    exact .inl ⟨_, _, _, rfl, rfl⟩
  rw [if_neg alone]
  rcases takePayload marker.code rest with fault | ⟨payload, after⟩
  · exact .inr ⟨_, rfl, rfl⟩
  · exact .inl ⟨_, _, _, rfl, rfl⟩

namespace Header

/-- The walk over the bytes comes to look for a marker at the offset, with what it has told by then:
before the offset stand a start of image and items that can be declared one after another. -/
def LooksAt (data : Bytes) (offset : Nat) (told : List Log.Record) : Prop :=
  ∃ items body draft, data.take offset = 0xFF :: 0xD8 :: body ∧ ItemsForm items body ∧
    Draft.empty.addAll items = (told, .ok draft)

/-- The warning of the next item is told before anything else. -/
theorem Draft.warning_first (draft : Draft) (item : Item) (rest : List Item) :
    item.marker.warning <+: (draft.addAll (item :: rest)).1 := by
  rw [addAll_item]
  cases draft.add item with
  | error fault => exact List.prefix_refl _
  | ok next => exact List.prefix_append _ _

/-- What is told of items that can be declared is told before anything behind them. -/
theorem Draft.addAll_behind {draft last : Draft} {items : List Item} {told : List Log.Record}
    (added : draft.addAll items = (told, .ok last)) (rest : List Item) :
    draft.addAll (items ++ rest) = (told ++ (last.addAll rest).1, (last.addAll rest).2) := by
  induction items generalizing draft told with
  | nil =>
    cases added
    rfl
  | cons item items ih =>
    rw [List.cons_append]
    rw [addAll_item] at added ⊢
    cases first : draft.add item with
    | error fault =>
      rw [first] at added
      cases added
    | ok next =>
      rw [first] at added
      obtain ⟨rfl, declared⟩ := Prod.mk.inj added
      dsimp only
      rw [ih (Prod.ext rfl declared), List.append_assoc]

variable {data : Bytes} {offset : Nat} {told : List Log.Record}

/-- What is told of the items is told of the walk. -/
theorem told_first (tail : Bytes) :
    (Draft.empty.addAll (Segment.split tail).1).1 <+: (walk (0xFF :: 0xD8 :: tail)).log := by
  rw [walk_begun]
  rcases Draft.empty.addAll (Segment.split tail).1 with ⟨log, fault | draft⟩
  · exact List.prefix_refl _
  · exact List.prefix_append _ _

theorem walk_of_added {tail : Bytes} {items : List Item} {ending : Ending} {draft : Draft}
    (taken : Segment.split tail = (items, ending))
    (added : Draft.empty.addAll items = (told, .ok draft)) :
    walk (0xFF :: 0xD8 :: tail) =
      ⟨told ++ ending.warning, (draft.close ending).mapError .malformed⟩ := by
  rw [walk_begun, taken, added]

/-- The bytes of a walk that has come to an offset. -/
theorem LooksAt.cut (looks : LooksAt data offset told) :
    ∃ items body draft, data = 0xFF :: 0xD8 :: (body ++ data.drop offset) ∧
      Segment.split (body ++ data.drop offset) =
        (items ++ (Segment.split (data.drop offset)).1, (Segment.split (data.drop offset)).2) ∧
      Draft.empty.addAll items = (told, .ok draft) := by
  obtain ⟨items, body, draft, front, form, added⟩ := looks
  refine ⟨items, body, draft, ?_, Segment.split_items form _, added⟩
  rw [← List.cons_append, ← List.cons_append, ← front, List.take_append_drop]

/-- **Where no marker is found**, a walk ends, and the header is malformed. -/
theorem walk_of_missing (looks : LooksAt data offset told)
    (missing : Marker.seek (data.drop offset) = none) :
    walk data = ⟨told, .error (.malformed .noMarker)⟩ := by
  obtain ⟨items, body, draft, whole, taken, added⟩ := looks.cut
  have ends : Segment.split (data.drop offset) = ([], .noMarker) := by
    rw [Segment.split_eq, missing]
  rw [ends, List.append_nil] at taken
  rw [whole, walk_of_added taken added, Ending.warning, List.append_nil]
  rfl

/-- **Where a marker is found**, a walk tells its warning. -/
theorem walk_of_found (looks : LooksAt data offset told) {marker : Marker} {rest : Bytes}
    (found : Marker.seek (data.drop offset) = some (marker, rest)) :
    told ++ marker.warning <+: (walk data).log := by
  obtain ⟨items, body, draft, whole, taken, added⟩ := looks.cut
  rcases Segment.split_found found with ⟨item, later, ending, ends, rfl⟩ | ⟨ending, ends, same⟩
  · have first := told_first (body ++ data.drop offset)
    rw [← whole, taken, ends, Draft.addAll_behind added] at first
    exact ((List.prefix_append_right_inj told).mpr (draft.warning_first item later)).trans first
  · rw [ends, List.append_nil] at taken
    have log : (walk data).log = told ++ marker.warning := by
      rw [whole, walk_of_added taken added, same]
    exact ⟨[], by rw [log, List.append_nil]⟩

end Header

namespace Marker

/-! ### Every offset -/

/-- **The search finds the first marker and counts what it passes over.** From any offset on its
loops end with what it finds, which is a marker exactly if one stands there. For the first one it
gives the code behind the `FF` and goes on from the byte behind that. The stray bytes that it warns
of, if there are any, are all bytes before the `FF` but the fill bytes. Where no marker stands, the
header is malformed. -/
theorem first_marker (data : Bytes) (start : Nat) :
    let markers := {offset | start ≤ offset ∧ StandsAt data offset}
    (∀ outcome, Search data .stray start 0 outcome ↔ outcome = next data start) ∧
      ((∃ found, next data start = .ok found) ↔ ∃ offset, offset ∈ markers) ∧
      (∀ first, IsLeast markers first → ∃ marker,
        next data start = .ok (marker, first + 2) ∧ first + 2 ≤ data.length ∧
          seek (data.drop start) = some (marker, data.drop (first + 2)) ∧
          data[first + 1]? = some marker.code ∧
          marker.stray + fillCount data start first = first - start ∧
          marker.warning = (if marker.stray = 0 then [] else [⟨.warn,
            s!"skipped {marker.stray} extraneous bytes before marker {codeText marker.code}"⟩]) ∧
          ∀ told, Header.LooksAt data start told →
            told ++ marker.warning <+: (Header.walk data).log) ∧
      ((¬∃ offset, offset ∈ markers) → next data start = .error (.malformed .noMarker) ∧
        ∀ told, Header.LooksAt data start told →
          Header.walk data = ⟨told, .error (.malformed .noMarker)⟩) := by
  intro markers
  refine ⟨search_iff data start, ?_, ?_, ?_⟩
  · constructor
    · rintro ⟨found, given⟩
      have finds := seek_finds data start
      rw [next] at given
      generalize seek (data.drop start) = result at finds given
      cases finds with
      | marker isFirst => exact ⟨_, isFirst.behind, isFirst.stands⟩
      | missing _ => cases given
    · rintro ⟨offset, within, stands⟩
      obtain ⟨first, code, stray, _, found⟩ := seek_of_stands within stands
      rw [next, found]
      exact ⟨_, rfl⟩
  · rintro first ⟨⟨within, stands⟩, least⟩
    obtain ⟨other, code, stray, isFirst, found⟩ := seek_of_stands within stands
    have same : other = first :=
      Nat.le_antisymm (isFirst.least first within stands) (least ⟨isFirst.behind, isFirst.stands⟩)
    subst same
    refine ⟨⟨code, stray⟩, ?_, stands.lt, found, isFirst.code, isFirst.counted, rfl, ?_⟩
    · rw [next, found]
      exact located_at isFirst.code _
    · intro told looks
      exact Header.walk_of_found looks found
  · intro absent
    have missing := seek_of_absent fun offset within stands => absent ⟨offset, within, stands⟩
    refine ⟨?_, fun told looks => Header.walk_of_missing looks missing⟩
    rw [next, missing]
    rfl

/-- A table segment's marker behind a stray byte, a run of two `FF` that ends in a zero, another
stray byte and a fill byte; and the same bytes cut off before the code. -/
theorem first_marker_behind_stuffing :
    let data : Bytes := [0xFF, 0xD8, 0x12, 0xFF, 0xFF, 0x00, 0x34, 0xFF, 0xFF, 0xDB, 0xFF]
    let cut := data.take 9
    IsLeast {offset | 2 ≤ offset ∧ StandsAt data offset} 8 ∧ Header.LooksAt data 2 [] ∧
      next data 2 = .ok (⟨0xDB, 4⟩, 10) ∧
      [⟨.warn, "skipped 4 extraneous bytes before marker 0xDB"⟩] <+: (Header.walk data).log ∧
      (¬∃ offset, 2 ≤ offset ∧ StandsAt cut offset) ∧ Header.LooksAt cut 2 [] ∧
      Header.walk cut = ⟨[], .error (.malformed .noMarker)⟩ := by
  intro data cut
  have least : IsLeast {offset | 2 ≤ offset ∧ StandsAt data offset} 8 := by
    have earlier : ∀ offset < 8, 2 ≤ offset → ¬StandsAt data offset := by decide
    refine ⟨⟨by decide, by decide⟩, fun offset ⟨within, stands⟩ => ?_⟩
    exact Nat.not_lt.mp fun early => earlier offset early within stands
  have absent : ¬∃ offset, 2 ≤ offset ∧ StandsAt cut offset := by
    have everywhere : ∀ offset < 9, 2 ≤ offset → ¬StandsAt cut offset := by decide
    rintro ⟨offset, within, stands⟩
    have short : offset + 1 < 9 := stands.lt
    exact everywhere offset (Nat.lt_of_succ_lt short) within stands
  have begun (tail : Bytes) : Header.LooksAt (0xFF :: 0xD8 :: tail) 2 [] :=
    ⟨[], [], _, rfl, .nil, rfl⟩
  obtain ⟨_, _, found, _⟩ := first_marker data 2
  obtain ⟨⟨code, stray⟩, given, _, _, behind, counted, _, told⟩ := found 8 least
  have fills : fillCount data 2 8 = 2 := by decide
  have same : code = 0xDB := (Option.some.inj behind).symm
  have four : stray = 4 := by
    rw [fills] at counted
    exact Nat.add_right_cancel counted
  subst same four
  obtain ⟨_, _, _, missing⟩ := first_marker cut 2
  exact ⟨least, begun _, given, told [] (begun _), absent, begun _,
    (missing absent).2 [] (begun _)⟩

end Marker

end JpegTranscoder
