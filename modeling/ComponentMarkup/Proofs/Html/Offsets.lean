import ComponentMarkup.Proofs.Html.Search
import Mathlib.Data.List.ReduceOption

/-!
The search for start tags told by byte offsets. Each answer of a locator is the line and column of
the first byte at which the tag opens, behind all that was found before. A search that keeps an
offset and cuts the source anew at every turn comes to the same answers, and never cuts outside the
source or inside a character.
-/

namespace ComponentMarkup
open Text (byteLength)

/-- The numbers as 32 bits hold them. -/
def Position.narrow (p : Position) : Position :=
  ⟨(UInt32.ofNat p.line).toNat, (UInt32.ofNat p.column).toNat⟩

theorem Position.narrow_eq_self {p : Position} (line : p.line < UInt32.size)
    (column : p.column < UInt32.size) : p.narrow = p := by
  rw [narrow, UInt32.toNat_ofNat_of_lt' line, UInt32.toNat_ofNat_of_lt' column]

namespace Html

/-! ## Lines -/

/-- The bytes behind the line feeds of a text that begins at `offset`. -/
def behindBreaks : Nat → List Char → List Nat
  | _, [] => []
  | offset, c :: cs =>
      if c = '\n' then (offset + 1) :: behindBreaks (offset + 1) cs
      else behindBreaks (offset + c.utf8Size) cs

/-- The bytes at which the lines of a text begin. -/
def lineStarts (cs : List Char) : List Nat := 0 :: behindBreaks 0 cs

/-- The place behind a text. -/
def placeBehind (cs : List Char) : Position := cs.foldl Position.past ⟨1, 1⟩

section Lines
variable {cs : List Char} {offset start : Nat}

theorem behindBreaks_append (offset : Nat) (before after : List Char) :
    behindBreaks offset (before ++ after) =
      behindBreaks offset before ++ behindBreaks (offset + byteLength before) after := by
  induction before generalizing offset with
  | nil => rfl
  | cons c before ih =>
      have size : byteLength (c :: before) = c.utf8Size + byteLength before := rfl
      rw [List.cons_append, behindBreaks, behindBreaks, ih, ih]
      by_cases feed : c = '\n'
      · have one : c.utf8Size = 1 := by rw [feed]; rfl
        rw [if_pos feed, if_pos feed, size, one, Nat.add_assoc, List.cons_append]
      · rw [if_neg feed, if_neg feed, size, Nat.add_assoc]

theorem lineStarts_append (before after : List Char) :
    lineStarts (before ++ after) = lineStarts before ++ behindBreaks (byteLength before) after := by
  rw [lineStarts, behindBreaks_append, Nat.zero_add]
  rfl

theorem bounds_of_mem_behindBreaks (member : start ∈ behindBreaks offset cs) :
    offset < start ∧ start ≤ offset + byteLength cs := by
  induction cs generalizing offset with
  | nil => cases member
  | cons c cs ih =>
      have size : byteLength (c :: cs) = c.utf8Size + byteLength cs := rfl
      have wide := c.utf8Size_pos
      rw [behindBreaks] at member
      split at member
      · rcases List.mem_cons.1 member with rfl | member
        · omega
        · have := ih member
          omega
      · have := ih member
        omega

theorem le_of_mem_lineStarts (member : start ∈ lineStarts cs) : start ≤ byteLength cs := by
  rcases List.mem_cons.1 member with rfl | member
  · exact Nat.zero_le _
  · have := bounds_of_mem_behindBreaks member
    omega

theorem line_placeBehind (cs : List Char) : (placeBehind cs).line = cs.count '\n' + 1 := by
  have counted (p : Position) : (cs.foldl Position.past p).line = p.line + cs.count '\n' := by
    induction cs generalizing p with
    | nil => rfl
    | cons c cs ih =>
        rw [List.foldl_cons, ih, List.count_cons, Position.past]
        by_cases feed : c = '\n'
        · simp [feed]
          omega
        · simp [feed]
  rw [placeBehind, counted, Nat.add_comm]

theorem length_lineStarts (cs : List Char) : (lineStarts cs).length = (placeBehind cs).line := by
  have counted (offset : Nat) : (behindBreaks offset cs).length = cs.count '\n' := by
    induction cs generalizing offset with
    | nil => rfl
    | cons c cs ih =>
        rw [behindBreaks, List.count_cons]
        by_cases feed : c = '\n'
        · simp [feed, ih]
        · simp [feed, ih]
  rw [line_placeBehind, lineStarts, List.length_cons, counted]

/-- The column behind a text counts the bytes from where its last line begins. -/
theorem getLast?_lineStarts (cs : List Char) : ∃ start, (lineStarts cs).getLast? = some start ∧
    1 ≤ (placeBehind cs).column ∧ start + ((placeBehind cs).column - 1) = byteLength cs := by
  induction cs using List.reverseRecOn with
  | nil => exact ⟨0, rfl, Nat.le_refl _, rfl⟩
  | append_singleton cs c ih =>
      obtain ⟨start, last, positive, same⟩ := ih
      have past : placeBehind (cs ++ [c]) = (placeBehind cs).past c := by
        rw [placeBehind, List.foldl_append]
        rfl
      have size : byteLength (cs ++ [c]) = byteLength cs + c.utf8Size :=
        Text.byteLength_append cs [c]
      rw [lineStarts_append, past, size, behindBreaks, Position.past]
      by_cases feed : c = '\n'
      · have one : c.utf8Size = 1 := by rw [feed]; rfl
        rw [if_pos feed, if_pos feed, one]
        exact ⟨byteLength cs + 1, List.getLast?_concat .., Nat.le_refl _, rfl⟩
      · rw [if_neg feed, if_neg feed, behindBreaks, List.append_nil]
        exact ⟨start, last, Nat.le_add_right_of_le positive, by dsimp only; omega⟩

/-- A line goes on behind the part of a text in which it begins. -/
theorem getElem?_lineStarts (before after : List Char) : ∃ start,
    (lineStarts (before ++ after))[(placeBehind before).line - 1]? = some start ∧
      1 ≤ (placeBehind before).column ∧
        start + ((placeBehind before).column - 1) = byteLength before := by
  obtain ⟨start, last, column⟩ := getLast?_lineStarts before
  have line := line_placeBehind before
  refine ⟨start, ?_, column⟩
  rw [lineStarts_append, List.getElem?_append_left (by rw [length_lineStarts]; omega),
    ← length_lineStarts, ← List.getLast?_eq_getElem?, last]

end Lines

theorem length_le_byteLength (cs : List Char) : cs.length ≤ byteLength cs := by
  induction cs with
  | nil => exact Nat.le_refl _
  | cons c cs ih =>
      have size : byteLength (c :: cs) = c.utf8Size + byteLength cs := rfl
      have wide := c.utf8Size_pos
      rw [List.length_cons, size]
      omega

/-- The place of a byte: its line is one more than the line feeds in front of it, and its column
counts from the byte at which that line begins. They fit into 32 bits when the next byte does. -/
structure Places (source : String) (offset : Nat) (p : Position) : Prop where
  line : ∃ before after : String, before ++ after = source ∧ before.utf8ByteSize = offset ∧
    p.line = before.toList.count '\n' + 1
  column : ∃ start, (lineStarts source.toList)[p.line - 1]? = some start ∧
    1 ≤ p.column ∧ start + (p.column - 1) = offset
  fits : offset + 1 < UInt32.size → p.narrow = p

theorem places_placeBehind {source : String} {before after : List Char}
    (whole : before ++ after = source.toList) :
    Places source (byteLength before) (placeBehind before) where
  line := by
    refine ⟨String.ofList before, String.ofList after, ?_, Text.utf8ByteSize_ofList before, ?_⟩
    · rw [← String.ofList_append, whole, String.ofList_toList]
    · rw [String.toList_ofList, line_placeBehind]
  column := by
    rw [← whole]
    exact getElem?_lineStarts before after
  fits small := by
    obtain ⟨start, -, positive, column⟩ := getElem?_lineStarts before after
    have line := line_placeBehind before
    have feeds : before.count '\n' ≤ before.length := List.count_le_length
    have bytes := length_le_byteLength before
    exact Position.narrow_eq_self (by omega) (by omega)

/-! ## Tags in a row -/

/-- At this byte of a text the tag is spelled, and its name ends behind that. -/
def Opens (text tag : String) (offset : Nat) : Prop :=
  ∃ before after : String, before ++ ("<" ++ tag) ++ after = text ∧
    before.utf8ByteSize = offset ∧ Locator.endsHere after.toList = true

/-- The first byte from `cursor` on at which the tag opens. -/
structure OpensFirst (text tag : String) (cursor offset : Nat) : Prop where
  ahead : cursor ≤ offset
  opens : Opens text tag offset
  first : ∀ earlier, cursor ≤ earlier → earlier < offset → ¬ Opens text tag earlier

/-- What is found for tags in a row, from one byte of a text to another. The search for the next tag
begins behind a hit; after a miss it begins where the last one did. -/
inductive Trail (text : String) : Nat → List String → List (Option Nat) → Nat → Prop
  | done {cursor : Nat} : Trail text cursor [] [] cursor
  | hit {cursor offset last : Nat} {tag : String} {tags : List String} {hits : List (Option Nat)}
      (finds : OpensFirst text tag cursor offset)
      (later : Trail text (offset + ("<" ++ tag).utf8ByteSize) tags hits last) :
      Trail text cursor (tag :: tags) (some offset :: hits) last
  | miss {cursor last : Nat} {tag : String} {tags : List String} {hits : List (Option Nat)}
      (nowhere : ∀ offset, cursor ≤ offset → ¬ Opens text tag offset)
      (later : Trail text cursor tags hits last) :
      Trail text cursor (tag :: tags) (none :: hits) last

section Trails
variable {text : String} {cursor last : Nat} {tags : List String} {hits : List (Option Nat)}

theorem Trail.ahead (trail : Trail text cursor tags hits last) :
    ∀ offset ∈ hits.reduceOption, cursor ≤ offset := by
  induction trail with
  | done => exact fun offset member => nomatch member
  | hit finds later ih =>
      intro offset member
      rw [List.reduceOption_cons_of_some] at member
      have from' := finds.ahead
      rcases List.mem_cons.1 member with rfl | member
      · exact from'
      · have behind := ih offset member
        omega
  | miss nowhere later ih =>
      rw [List.reduceOption_cons_of_none]
      exact ih

/-- Each hit stands behind those before it. -/
theorem Trail.increasing (trail : Trail text cursor tags hits last) :
    hits.reduceOption.Pairwise (· < ·) := by
  induction trail with
  | done => exact .nil
  | hit finds later ih =>
      rw [List.reduceOption_cons_of_some, List.pairwise_cons]
      refine ⟨fun offset member => ?_, ih⟩
      have behind := later.ahead offset member
      have bracket : "<".utf8ByteSize = 1 := by decide
      rw [String.utf8ByteSize_append] at behind
      omega
  | miss nowhere later ih =>
      rw [List.reduceOption_cons_of_none]
      exact ih

end Trails

/-- What a locator answers to tags in a row, and how it is left. -/
def Locator.locateAll (l : Locator) : List String → List (Option Position) × Locator
  | [] => ([], l)
  | tag :: tags =>
      match l.locate tag with
      | some (p, next) => ((next.locateAll tags).map (some p :: ·) id)
      | none => ((l.locateAll tags).map (none :: ·) id)

/-! ## The search by bytes -/

/-- Why a search by bytes breaks off. -/
inductive Fault where
  /-- A cut outside the text or inside a character. -/
  | cut (offset : Nat)
  /-- A search by halves in a list that is not in order. -/
  | disorder
  /-- A line that is not there, or begins behind the offset. -/
  | line (number offset : Nat)
deriving DecidableEq, Repr

/-- What stands behind the first bytes of a text. -/
def behindBytes (text : String) (offset : Nat) : Except Fault String :=
  if valid : String.Pos.Raw.IsValid text ⟨offset⟩ then
    .ok (text.sliceFrom (text.pos ⟨offset⟩ valid)).copy
  else .error (.cut offset)

theorem behindBytes_eq_ok_iff {text rest : String} {offset : Nat} :
    behindBytes text offset = .ok rest ↔
      ∃ front, front ++ rest = text ∧ front.utf8ByteSize = offset := by
  unfold behindBytes
  split
  · next valid =>
    have splits := (text.pos ⟨offset⟩ valid).splits
    rw [Except.ok.injEq]
    constructor
    · rintro rfl
      refine ⟨_, splits.eq_append.symm, ?_⟩
      exact (congrArg String.Pos.Raw.byteIdx splits.offset_eq_rawEndPos).symm
    · rintro ⟨front, rfl, rfl⟩
      have between : ((front ++ rest).pos ⟨front.utf8ByteSize⟩ valid).Splits front rest :=
        ⟨rfl, rfl⟩
      exact splits.eq_right between
  · next invalid =>
    refine iff_of_false nofun ?_
    rintro ⟨front, rfl, rfl⟩
    exact invalid (String.Pos.Raw.isValid_iff_exists_append.2 ⟨front, rest, rfl, rfl⟩)

/-- How many items stand in front of the first that fails `p`. All behind it have to fail too. -/
def partitionPoint (p : Nat → Bool) (items : List Nat) : Except Fault Nat :=
  if (items.dropWhile p).any p then .error .disorder else .ok (items.takeWhile p).length

/-- A locator that counts the bytes which it has left behind. -/
structure ByteLocator where
  lowered : String
  starts : List Nat
  cursor : Nat := 0

namespace ByteLocator

def new (source : String) : ByteLocator where
  lowered := Text.lowered source
  starts := lineStarts source.toList

/-- The byte from `start` on at which the tag opens. Where the name goes on behind what is spelled
like the tag, the search goes on behind that. -/
def seek (lowered tag : String) (start : Nat) : Except Fault (Option Nat) :=
  match _ahead : behindBytes lowered start with
  | .error fault => .error fault
  | .ok ahead =>
      match Text.cutAt (markOf tag) ahead.toList with
      | none => .ok none
      | some (before, _) =>
          let found := start + byteLength before
          let stop := found + byteLength (markOf tag)
          match behindBytes lowered stop with
          | .error fault => .error fault
          | .ok after =>
              if Locator.endsHere after.toList then .ok (some found) else seek lowered tag stop
termination_by lowered.utf8ByteSize + 1 - start
decreasing_by
  obtain ⟨front, rfl, rfl⟩ := behindBytes_eq_ok_iff.1 ‹behindBytes lowered start = _›
  have mark : 0 < byteLength (markOf tag) := Nat.add_pos_left (Char.utf8Size_pos _) _
  rw [String.utf8ByteSize_append]
  omega

/-- The line and column of a byte, from the last line that begins at it or in front of it. -/
def placeOf (starts : List Nat) (offset : Nat) : Except Fault Position := do
  let line ← partitionPoint (· ≤ offset) starts
  match starts[line - 1]? with
  | none => throw (.line line offset)
  | some start =>
      if line = 0 ∨ offset < start then throw (.line line offset)
      return Position.narrow ⟨line, offset - start + 1⟩

def locate (l : ByteLocator) (tag : String) : Except Fault (Option Position × ByteLocator) := do
  match ← seek l.lowered tag l.cursor with
  | none => return (none, l)
  | some found =>
      let p ← placeOf l.starts found
      return (some p, { l with cursor := found + byteLength (markOf tag) })

def locateAll (l : ByteLocator) : List String → Except Fault (List (Option Position) × ByteLocator)
  | [] => return ([], l)
  | tag :: tags => do
      let (answer, l) ← l.locate tag
      let (answers, l) ← l.locateAll tags
      return (answer :: answers, l)

/-- The locator of a source with this many bytes behind it. -/
def standing (source : String) (offset : Nat) : ByteLocator := { new source with cursor := offset }

end ByteLocator

/-! ### Bytes and characters -/

/-- The bytes in front of the character with the given number. -/
def bytesBefore (cs : List Char) (count : Nat) : Nat := byteLength (cs.take count)

section Characters
variable {cs mark : List Char} {text tag : String} {count other start found offset : Nat}

theorem bytesBefore_add (cs : List Char) (count more : Nat) : bytesBefore cs (count + more) =
    bytesBefore cs count + byteLength ((cs.drop count).take more) := by
  rw [bytesBefore, List.take_add, Text.byteLength_append]
  rfl

theorem bytesBefore_lt (inside : count < cs.length) (later : count < other) :
    bytesBefore cs count < bytesBefore cs other := by
  obtain ⟨more, rfl⟩ := Nat.exists_eq_add_of_lt later
  have long := length_le_byteLength ((cs.drop count).take (more + 1))
  rw [List.length_take, List.length_drop] at long
  rw [Nat.add_assoc, bytesBefore_add]
  omega

theorem bytesBefore_lt_iff (within : count ≤ cs.length) (within' : other ≤ cs.length) :
    bytesBefore cs count < bytesBefore cs other ↔ count < other := by
  constructor
  · intro before
    refine Nat.lt_of_not_le fun later => ?_
    rcases Nat.eq_or_lt_of_le later with rfl | later
    · exact Nat.lt_irrefl _ before
    · exact Nat.lt_asymm before (bytesBefore_lt (by omega) later)
  · exact fun later => bytesBefore_lt (by omega) later

theorem bytesBefore_le_iff (within : count ≤ cs.length) (within' : other ≤ cs.length) :
    bytesBefore cs count ≤ bytesBefore cs other ↔ count ≤ other := by
  rw [← Nat.not_lt, bytesBefore_lt_iff within' within, Nat.not_lt]

theorem bytesBefore_behind (stands : Text.StandsAt mark cs start) :
    bytesBefore cs (start + mark.length) = bytesBefore cs start + byteLength mark := by
  obtain ⟨rest, whole⟩ := stands
  rw [bytesBefore_add, ← whole, List.take_left]

theorem behindBytes_bytesBefore (text : String) (count : Nat) :
    behindBytes text (bytesBefore text.toList count) =
      .ok (String.ofList (text.toList.drop count)) := by
  refine behindBytes_eq_ok_iff.2 ⟨String.ofList (text.toList.take count), ?_,
    Text.utf8ByteSize_ofList _⟩
  rw [← String.ofList_append, List.take_append_drop, String.ofList_toList]

theorem le_length_of_standsAt (nonempty : mark ≠ []) (stands : Text.StandsAt mark cs start) :
    start + mark.length ≤ cs.length := by
  have length := stands.length_le
  have positive := List.length_pos_iff.2 nonempty
  rw [List.length_drop] at length
  omega

theorem toList_mark (tag : String) : ("<" ++ tag).toList = markOf tag := String.toList_append ..

theorem utf8ByteSize_mark (tag : String) :
    ("<" ++ tag).utf8ByteSize = byteLength (markOf tag) := by
  rw [Text.utf8ByteSize_eq, toList_mark]

/-- A tag opens at the first byte of a character where its mark stands. -/
theorem opens_iff : Opens text tag offset ↔
    ∃ found, IsMark text.toList (markOf tag) found ∧ bytesBefore text.toList found = offset := by
  constructor
  · rintro ⟨before, after, rfl, rfl, ends⟩
    have chars : (before ++ ("<" ++ tag) ++ after).toList =
        before.toList ++ markOf tag ++ after.toList := by
      rw [String.toList_append, String.toList_append, toList_mark]
    rw [chars]
    refine ⟨before.toList.length, ⟨Text.standsAt_between _ _ _, ?_⟩, ?_⟩
    · rw [← List.length_append, List.drop_left]
      exact ends
    · rw [bytesBefore, List.append_assoc, List.take_left, Text.utf8ByteSize_eq]
  · rintro ⟨found, ⟨⟨rest, stands⟩, ends⟩, rfl⟩
    refine ⟨String.ofList (text.toList.take found), String.ofList rest, ?_,
      Text.utf8ByteSize_ofList _, ?_⟩
    · rw [← String.toList_inj, String.toList_append, String.toList_append, toList_mark,
        String.toList_ofList, String.toList_ofList, List.append_assoc, stands,
        List.take_append_drop]
    · rw [← List.drop_drop, ← stands, List.drop_left] at ends
      rwa [String.toList_ofList]

theorem Finds.opensFirst (noOpen : '<' ∉ tag.toList)
    (finds : Finds text.toList (markOf tag) start found) :
    OpensFirst text tag (bytesBefore text.toList start) (bytesBefore text.toList found) := by
  obtain ⟨ahead, isMark, first⟩ := (finds_iff noOpen).1 finds
  have inside := finds.lt_length (markOf_ne_nil tag)
  refine ⟨(bytesBefore_le_iff (by omega) (by omega)).2 ahead, opens_iff.2 ⟨found, isMark, rfl⟩, ?_⟩
  intro earlier ahead before opens
  obtain ⟨count, isMark', rfl⟩ := opens_iff.1 opens
  have within := le_length_of_standsAt (markOf_ne_nil tag) isMark'.1
  exact first count ((bytesBefore_le_iff (by omega) (by omega)).1 ahead)
    ((bytesBefore_lt_iff (by omega) (by omega)).1 before) isMark'

theorem not_opens_of_nowhere (noOpen : '<' ∉ tag.toList) (within : start ≤ text.toList.length)
    (nowhere : ∀ found, ¬ Finds text.toList (markOf tag) start found) :
    ∀ offset, bytesBefore text.toList start ≤ offset → ¬ Opens text tag offset := by
  intro offset ahead opens
  obtain ⟨found, isMark, rfl⟩ := opens_iff.1 opens
  have within' := le_length_of_standsAt (markOf_ne_nil tag) isMark.1
  exact (not_exists_finds_iff noOpen).1 nowhere found
    ((bytesBefore_le_iff within (by omega)).1 ahead) isMark

end Characters

/-! ### Turns of the search -/

namespace ByteLocator

theorem seek_eq {lowered ahead tag : String} {start : Nat}
    (there : behindBytes lowered start = .ok ahead) : seek lowered tag start =
      match Text.cutAt (markOf tag) ahead.toList with
      | none => .ok none
      | some (before, _) =>
          match behindBytes lowered (start + byteLength before + byteLength (markOf tag)) with
          | .error fault => .error fault
          | .ok after =>
              if Locator.endsHere after.toList then .ok (some (start + byteLength before))
              else seek lowered tag (start + byteLength before + byteLength (markOf tag)) := by
  rw [seek]
  split
  · next fault failed =>
    rw [there] at failed
    cases failed
  · next ahead' there' =>
    obtain rfl : ahead = ahead' := Except.ok.inj (there.symm.trans there')
    rfl

/-- A search by bytes finds what a search by characters finds, at the byte where that begins. -/
theorem seek_spec (text tag : String) (start : Nat) :
    (∃ found, Finds text.toList (markOf tag) start found ∧
      seek text tag (bytesBefore text.toList start) = .ok (some (bytesBefore text.toList found))) ∨
    ((∀ found, ¬ Finds text.toList (markOf tag) start found) ∧
      seek text tag (bytesBefore text.toList start) = .ok none) := by
  -- by induction on what is left of the text: a mark where the name goes on is left behind
  generalize left : text.toList.length - start = n
  induction n using Nat.strongRecOn generalizing start with
  | ind n ih =>
      rw [seek_eq (behindBytes_bytesBefore text start), String.toList_ofList]
      cases cut : Text.cutAt (markOf tag) (text.toList.drop start) with
      | none =>
          refine .inr ⟨fun found finds => ?_, rfl⟩
          obtain ⟨count, rfl⟩ := Nat.exists_eq_add_of_le finds.le
          refine Text.cutAt_eq_none.1 cut count ?_
          rw [Text.StandsAt, List.drop_drop]
          exact finds.isMark.1
      | some parts =>
          obtain ⟨before, rest⟩ := parts
          have whole := Text.append_of_cutAt cut
          have stands : Text.StandsAt (markOf tag) text.toList (start + before.length) := by
            rw [Text.StandsAt, ← List.drop_drop, ← whole]
            exact Text.standsAt_between _ _ _
          have bytes : bytesBefore text.toList start + byteLength before =
              bytesBefore text.toList (start + before.length) := by
            rw [bytesBefore_add, ← whole, List.append_assoc, List.take_left]
          have skip (found : Nat) : Finds text.toList (markOf tag) start found ↔
              Finds text.toList (markOf tag) (start + before.length) found := by
            refine finds_iff_of_misses (Nat.le_add_right _ _) fun offset ahead earlier stands' => ?_
            obtain ⟨count, rfl⟩ := Nat.exists_eq_add_of_le ahead
            rw [Text.StandsAt, ← List.drop_drop] at stands'
            have first := Text.le_of_cutAt cut stands'
            omega
          dsimp only
          rw [bytes, ← bytesBefore_behind stands, behindBytes_bytesBefore]
          dsimp only
          rw [String.toList_ofList]
          simp only [skip]
          cases ends : Locator.endsHere
              (text.toList.drop (start + before.length + (markOf tag).length)) with
          | true => exact .inl ⟨_, .here ⟨stands, ends⟩, rfl⟩
          | false =>
              have within := le_length_of_standsAt (markOf_ne_nil tag) stands
              have length := length_markOf tag
              simp only [finds_iff_pass stands ends]
              exact ih _ (by omega) _ rfl

/-- The lines that begin at a byte or in front of it are those that begin in the text before it. -/
theorem partitionPoint_lineStarts (before after : List Char) :
    partitionPoint (· ≤ byteLength before) (lineStarts (before ++ after)) =
      .ok (placeBehind before).line := by
  have early : ∀ start ∈ lineStarts before, decide (start ≤ byteLength before) = true :=
    fun start member => decide_eq_true (le_of_mem_lineStarts member)
  have late : ∀ start ∈ behindBreaks (byteLength before) after,
      decide (start ≤ byteLength before) = false := fun start member =>
    decide_eq_false (Nat.not_le.2 (bounds_of_mem_behindBreaks member).1)
  have next : ∀ start ∈ (behindBreaks (byteLength before) after).head?,
      decide (start ≤ byteLength before) = false := fun start first =>
    late start (List.mem_of_mem_head? first)
  rw [partitionPoint, lineStarts_append, Text.dropWhile_append early next,
    Text.takeWhile_append early next, length_lineStarts, if_neg]
  rw [List.any_eq_true]
  rintro ⟨start, member, behind⟩
  exact Bool.false_ne_true ((late start member).symm.trans behind)

theorem placeOf_lineStarts (before after : List Char) :
    placeOf (lineStarts (before ++ after)) (byteLength before) =
      .ok (placeBehind before).narrow := by
  obtain ⟨start, found, positive, column⟩ := getElem?_lineStarts before after
  have line := line_placeBehind before
  have inside : ¬ ((placeBehind before).line = 0 ∨ byteLength before < start) := by omega
  have columns : byteLength before - start + 1 = (placeBehind before).column := by omega
  rw [placeOf, partitionPoint_lineStarts]
  simp only [bind, Except.bind, found, if_neg inside, columns]
  rfl

section Answers
variable {l : ByteLocator} {tag : String} {offset : Nat} {p : Position}

theorem locate_of_missed (missed : seek l.lowered tag l.cursor = .ok none) :
    l.locate tag = .ok (none, l) := by
  rw [locate, missed]
  rfl

theorem locate_of_found (found : seek l.lowered tag l.cursor = .ok (some offset))
    (placed : placeOf l.starts offset = .ok p) :
    l.locate tag = .ok (some p, { l with cursor := offset + byteLength (markOf tag) }) := by
  rw [locate, found]
  simp only [bind, Except.bind, placed]
  rfl

end Answers
end ByteLocator

/-! ### Locators at a byte -/

section Source
variable {source tag : String} {l : Locator} {cursor : Nat}

theorem byteLength_map_toLower (cs : List Char) :
    byteLength (cs.map Char.toLower) = byteLength cs := by
  induction cs with
  | nil => rfl
  | cons c cs ih => exact congrArg₂ (· + ·) (toLower_alike c).1 ih

theorem bytesBefore_lowered (source : String) (count : Nat) :
    bytesBefore (Text.lowered source).toList count = byteLength (source.toList.take count) := by
  rw [bytesBefore, Text.lowered, String.toList_ofList, ← List.map_take, byteLength_map_toLower]

theorem place_lowered (source : String) (count : Nat) :
    place (Text.lowered source).toList count = placeBehind (source.toList.take count) := by
  rw [Text.lowered, String.toList_ofList, place_map_toLower]
  rfl

theorem places_place (source : String) (count : Nat) :
    Places source (bytesBefore (Text.lowered source).toList count)
      (place (Text.lowered source).toList count) := by
  rw [bytesBefore_lowered, place_lowered]
  exact places_placeBehind (List.take_append_drop count _)

/-- The locator has this many bytes of the text behind it. -/
def Locator.StandsAt (l : Locator) (text : String) (offset : Nat) : Prop :=
  ∃ count ≤ text.toList.length, l = .behind text.toList count ∧
    bytesBefore text.toList count = offset

theorem Locator.standsAt_new (source : String) :
    (Locator.new source).StandsAt (Text.lowered source) 0 := by
  refine ⟨0, Nat.zero_le _, ?_, rfl⟩
  rw [Text.lowered, String.toList_ofList]
  rfl

/-- What becomes of a locator that stands at a byte and is asked for a tag, and that a locator by
bytes does the same. -/
inductive Located (source tag : String) (l : Locator) (cursor : Nat) : Prop
  | hit {offset : Nat} {p : Position} {next : Locator} (found : l.locate tag = some (p, next))
      (first : OpensFirst (Text.lowered source) tag cursor offset) (places : Places source offset p)
      (stands : next.StandsAt (Text.lowered source) (offset + ("<" ++ tag).utf8ByteSize))
      (bytes : (ByteLocator.standing source cursor).locate tag =
        .ok (some p.narrow, .standing source (offset + ("<" ++ tag).utf8ByteSize)))
  | miss (missed : l.locate tag = none)
      (nowhere : ∀ offset, cursor ≤ offset → ¬ Opens (Text.lowered source) tag offset)
      (bytes : (ByteLocator.standing source cursor).locate tag =
        .ok (none, .standing source cursor))

theorem Locator.StandsAt.located (stands : l.StandsAt (Text.lowered source) cursor)
    (noOpen : '<' ∉ tag.toList) : Located source tag l cursor := by
  obtain ⟨count, within, rfl, rfl⟩ := stands
  rcases ByteLocator.seek_spec (Text.lowered source) tag count with
    ⟨found, finds, sought⟩ | ⟨nowhere, sought⟩
  · have stop : bytesBefore (Text.lowered source).toList (found + (markOf tag).length) =
        bytesBefore (Text.lowered source).toList found + ("<" ++ tag).utf8ByteSize := by
      rw [bytesBefore_behind finds.isMark.1, utf8ByteSize_mark]
    have placed := ByteLocator.placeOf_lineStarts (source.toList.take found)
      (source.toList.drop found)
    rw [List.take_append_drop, ← bytesBefore_lowered, ← place_lowered] at placed
    refine .hit (locate_of_finds finds) (finds.opensFirst noOpen) (places_place source found)
      ⟨_, le_length_of_standsAt (markOf_ne_nil tag) finds.isMark.1, rfl, stop⟩ ?_
    rw [utf8ByteSize_mark]
    exact ByteLocator.locate_of_found sought placed
  · exact .miss (locate_eq_none nowhere) (not_opens_of_nowhere noOpen within nowhere)
      (ByteLocator.locate_of_missed sought)

/-- What becomes of a locator that stands at a byte and is asked for tags in a row. -/
theorem Locator.StandsAt.run {tags : List String}
    (stands : l.StandsAt (Text.lowered source) cursor) (noOpen : ∀ tag ∈ tags, '<' ∉ tag.toList) :
    ∃ hits last, Trail (Text.lowered source) cursor tags hits last ∧
      List.Forall₂ (Option.Rel (Places source)) hits (l.locateAll tags).1 ∧
      (l.locateAll tags).2.StandsAt (Text.lowered source) last ∧
      (ByteLocator.standing source cursor).locateAll tags =
        .ok ((l.locateAll tags).1.map (Option.map Position.narrow), .standing source last) := by
  induction tags generalizing l cursor with
  | nil => exact ⟨[], cursor, .done, .nil, stands, rfl⟩
  | cons tag tags ih =>
      obtain ⟨noOpen, later⟩ := List.forall_mem_cons.1 noOpen
      cases stands.located noOpen with
      | hit found first places stands' bytes =>
          obtain ⟨hits, last, trail, placed, ends, run⟩ := ih stands' later
          refine ⟨some _ :: hits, last, .hit first trail, ?_⟩
          rw [locateAll, found, ByteLocator.locateAll, bytes]
          refine ⟨.cons (.some places) placed, ends, ?_⟩
          simp only [bind, Except.bind, run]
          rfl
      | miss missed nowhere bytes =>
          obtain ⟨hits, last, trail, placed, ends, run⟩ := ih stands later
          refine ⟨none :: hits, last, .miss nowhere trail, ?_⟩
          rw [locateAll, missed, ByteLocator.locateAll, bytes]
          refine ⟨.cons .none placed, ends, ?_⟩
          simp only [bind, Except.bind, run]
          rfl

/-- Whatever tags a new locator is asked for, it finds each at the first byte of the lowered source
where the tag opens behind all that it found before, or it finds none there and stays where it is.
So the bytes of its hits increase, and its answers are their lines and columns. The search by bytes
comes to an end without a fault, and to the same answers. -/
theorem trails_locateAll (source : String) (tags : List String)
    (noOpen : ∀ tag ∈ tags, '<' ∉ tag.toList) :
    ∃ hits last, Trail (Text.lowered source) 0 tags hits last ∧
      hits.reduceOption.Pairwise (· < ·) ∧
      List.Forall₂ (Option.Rel (Places source)) hits ((Locator.new source).locateAll tags).1 ∧
      ((Locator.new source).locateAll tags).2.StandsAt (Text.lowered source) last ∧
      (ByteLocator.new source).locateAll tags =
        .ok (((Locator.new source).locateAll tags).1.map (Option.map Position.narrow),
          .standing source last) := by
  obtain ⟨hits, last, trail, run⟩ := (Locator.standsAt_new source).run noOpen
  exact ⟨hits, last, trail, trail.increasing, run⟩

/-- A longer tag in front of the one that is looked for, a wide letter, and a tag at the end. -/
def headedSource : String := "<header>\n  <HEAD>é<p"

/-- The longer tag is passed over, and there is no second paragraph. -/
theorem trails_locateAll_headedSource : (∀ tag ∈ ["head", "p", "p"], '<' ∉ tag.toList) ∧
    Trail (Text.lowered headedSource) 0 ["head", "p", "p"] [some 11, some 19, none] 21 ∧
    ((Locator.new headedSource).locateAll ["head", "p", "p"]).1 =
      [some ⟨2, 3⟩, some ⟨2, 11⟩, none] ∧
    (ByteLocator.new headedSource).locateAll ["head", "p", "p"] =
      .ok ([some ⟨2, 3⟩, some ⟨2, 11⟩, none], .standing headedSource 21) := by
  have noOpen : ∀ tag ∈ ["head", "p", "p"], '<' ∉ tag.toList := by decide
  have starts : lineStarts headedSource.toList = [0, 9] := by decide
  have answers : ((Locator.new headedSource).locateAll ["head", "p", "p"]).1 =
      [some ⟨2, 3⟩, some ⟨2, 11⟩, none] := by decide
  have byte {offset column : Nat} (places : Places headedSource offset ⟨2, column⟩) :
      9 + (column - 1) = offset := by
    obtain ⟨start, found, -, same⟩ := places.column
    rw [starts] at found
    obtain rfl : 9 = start := Option.some.inj found
    exact same
  obtain ⟨hits, last, trail, -, placed, -, run⟩ := trails_locateAll headedSource _ noOpen
  rw [answers] at placed run
  obtain _ | ⟨⟨head⟩, _ | ⟨⟨paragraph⟩, _ | ⟨⟨⟩, ⟨⟩⟩⟩⟩ := placed
  obtain rfl := byte head
  obtain rfl := byte paragraph
  have ends : last = 21 := by
    obtain _ | ⟨-, _ | ⟨-, _ | _ | ⟨-, _ | _⟩⟩⟩ := trail
    decide
  rw [ends] at trail run
  exact ⟨noOpen, trail, answers, run⟩

end Source

end Html
end ComponentMarkup
