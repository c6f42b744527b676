import ComponentMarkup.Path.Basic
import ComponentMarkup.Path.Resolve
import ComponentMarkup.Proofs.Text
import Mathlib.Data.List.Basic

/-!
Segments of paths. Splitting a spelling gives the segments back that it was made of, and a name put
under a folder is one segment more. Canonical segments have no dots, and `..` only in front: they
are what resolving dots leaves, and what it leaves alone.

Files of one folder. A link to a plain name leads next to the file that holds it, under the
canonical spelling of the folder.
-/

namespace ComponentMarkup

/-- A segment that can stand behind others. -/
def Segment.IsInner : Segment → Prop
  | .root | .current => False
  | .up => True
  | .name text => text ≠ [] ∧ '/' ∉ text ∧ text ≠ ['.'] ∧ text ≠ ['.', '.']

namespace Path
variable {a b piece : List Char} {s : Segment} {S T : List Segment}

/-- Segments that some path has: only the first can be the root or a dot. -/
def Proper : List Segment → Prop
  | [] => True
  | s :: rest => (s = .root ∨ s = .current ∨ s.IsInner) ∧ ∀ t ∈ rest, t.IsInner

/-! ## Pieces -/

theorem pieces_ne_nil (text : List Char) : pieces text ≠ [] := by
  cases text with
  | nil => exact List.cons_ne_nil _ _
  | cons c rest =>
      rw [pieces]
      split
      · exact List.cons_ne_nil _ _
      · split <;> exact List.cons_ne_nil _ _

theorem pieces_append_slash (a b : List Char) : pieces (a ++ '/' :: b) = pieces a ++ pieces b := by
  induction a with
  | nil => rfl
  | cons c a ih =>
      rw [List.cons_append, pieces, pieces, ih]
      split
      · rfl
      · obtain ⟨first, more, split⟩ := List.exists_cons_of_ne_nil (pieces_ne_nil a)
        rw [split]
        rfl

theorem pieces_of_noSlash (whole : '/' ∉ piece) : pieces piece = [piece] := by
  induction piece with
  | nil => rfl
  | cons c rest ih =>
      rw [List.mem_cons, not_or] at whole
      rw [pieces, if_neg (Ne.symm whole.1), ih whole.2]

theorem noSlash_of_mem_pieces {text : List Char} : ∀ piece ∈ pieces text, '/' ∉ piece := by
  induction text with
  | nil => exact List.forall_mem_singleton.2 List.not_mem_nil
  | cons c rest ih =>
      rw [pieces]
      split
      · exact List.forall_mem_cons.2 ⟨List.not_mem_nil, ih⟩
      · next other =>
        split
        · exact List.forall_mem_singleton.2 (by simpa using Ne.symm other)
        · next first more split =>
          rw [split] at ih
          obtain ⟨here, later⟩ := List.forall_mem_cons.1 ih
          refine List.forall_mem_cons.2 ⟨?_, later⟩
          rw [List.mem_cons, not_or]
          exact ⟨Ne.symm other, here⟩

theorem isInner_of_segment? (whole : '/' ∉ piece) (read : segment? piece = some s) :
    s.IsInner := by
  unfold segment? at read
  split at read
  · cases read
  · next some =>
    simp only [Bool.or_eq_true, decide_eq_true_eq, not_or] at some
    split at read
    · obtain rfl := Option.some.inj read
      exact trivial
    · next single =>
      obtain rfl := Option.some.inj read
      exact ⟨some.1, whole, some.2, single⟩

theorem segment?_spelling (inner : s.IsInner) : segment? (Segment.spelling s) = some s := by
  cases s with
  | root => cases inner
  | current => cases inner
  | up => rfl
  | name text =>
      obtain ⟨nonempty, -, noDot, noDots⟩ := inner
      simp [segment?, Segment.spelling, nonempty, noDot, noDots]

theorem noSlash_spelling (inner : s.IsInner) : '/' ∉ Segment.spelling s := by
  cases s with
  | root => cases inner
  | current => cases inner
  | up => decide
  | name text => exact inner.2.1

/-! ## Segments of pieces -/

theorem segmentsOf_of_pieces {text first : List Char} {rest : List (List Char)}
    (split : pieces text = first :: rest) : segmentsOf text =
      if first = [] then if rest = [] then [] else .root :: rest.filterMap segment?
      else if first = ['.'] then .current :: rest.filterMap segment?
      else (first :: rest).filterMap segment? := by
  unfold segmentsOf
  rw [split]
  by_cases empty : first = []
  · subst empty
    cases rest <;> rfl
  · by_cases dot : first = ['.']
    · subst dot
      rfl
    · rw [if_neg empty, if_neg dot]
      split <;> simp_all

theorem proper_segmentsOf (text : List Char) : Proper (segmentsOf text) := by
  obtain ⟨first, rest, split⟩ := List.exists_cons_of_ne_nil (pieces_ne_nil text)
  have whole : ∀ piece ∈ first :: rest, '/' ∉ piece := split ▸ noSlash_of_mem_pieces
  have inner {parts : List (List Char)} (noSlash : ∀ piece ∈ parts, '/' ∉ piece) :
      ∀ s ∈ parts.filterMap segment?, s.IsInner := by
    intro s member
    obtain ⟨piece, listed, read⟩ := List.mem_filterMap.1 member
    exact isInner_of_segment? (noSlash piece listed) read
  have behind := inner (List.forall_mem_cons.1 whole).2
  rw [segmentsOf_of_pieces split]
  split
  · split
    · trivial
    · exact ⟨.inl rfl, behind⟩
  · split
    · exact ⟨.inr (.inl rfl), behind⟩
    · have all := inner whole
      generalize (first :: rest).filterMap segment? = S at all ⊢
      cases S with
      | nil => trivial
      | cons s S =>
          obtain ⟨here, later⟩ := List.forall_mem_cons.1 all
          exact ⟨.inr (.inr here), later⟩

theorem proper_segments (p : Path) : Proper p.segments := proper_segmentsOf _

/-! ## Spelling -/

theorem spell_cons (other : s ≠ .root) (more : S ≠ []) :
    spell (s :: S) = Segment.spelling s ++ '/' :: spell S := by
  cases S with
  | nil => exact absurd rfl more
  | cons t S => cases s with
    | root => exact absurd rfl other
    | current | up | name => rfl

theorem spell_root (S : List Segment) : spell (.root :: S) = '/' :: spell S := by
  cases S <;> rfl

theorem pieces_spell (inner : ∀ s ∈ S, s.IsInner) (nonempty : S ≠ []) :
    pieces (spell S) = S.map Segment.spelling := by
  induction S with
  | nil => exact absurd rfl nonempty
  | cons s S ih =>
      obtain ⟨here, later⟩ := List.forall_mem_cons.1 inner
      have alone := pieces_of_noSlash (noSlash_spelling here)
      by_cases last : S = []
      · subst last
        exact alone
      · have other : s ≠ .root := by
          rintro rfl
          cases here
        rw [spell_cons other last, pieces_append_slash, alone, ih later last]
        rfl

theorem filterMap_spelling (inner : ∀ s ∈ S, s.IsInner) :
    (S.map Segment.spelling).filterMap segment? = S := by
  induction S with
  | nil => rfl
  | cons s S ih =>
      obtain ⟨here, later⟩ := List.forall_mem_cons.1 inner
      rw [List.map_cons, List.filterMap_cons_some (segment?_spelling here), ih later]

theorem segmentsOf_spell (proper : Proper S) : segmentsOf (spell S) = S := by
  cases S with
  | nil => rfl
  | cons s S =>
      obtain ⟨first, inner⟩ := proper
      rcases first with rfl | rfl | here
      · -- Behind the root there is always a piece, be it an empty one.
        have split : pieces ('/' :: spell S) = [] :: pieces (spell S) := rfl
        rw [spell_root, segmentsOf_of_pieces split, if_pos rfl, if_neg (pieces_ne_nil _)]
        by_cases bare : S = []
        · subst bare
          rfl
        · rw [pieces_spell inner bare, filterMap_spelling inner]
      · by_cases bare : S = []
        · subst bare
          rfl
        · have split : pieces (spell (.current :: S)) = ['.'] :: S.map Segment.spelling := by
            rw [spell_cons (by decide) bare, pieces_append_slash, pieces_spell inner bare]
            rfl
          rw [segmentsOf_of_pieces split, if_neg (List.cons_ne_nil _ _), if_pos rfl,
            filterMap_spelling inner]
      · have all : ∀ t ∈ s :: S, t.IsInner := List.forall_mem_cons.2 ⟨here, inner⟩
        have read := segment?_spelling here
        have nonempty : Segment.spelling s ≠ [] := by
          intro empty
          rw [empty] at read
          cases read
        have noDot : Segment.spelling s ≠ ['.'] := by
          intro dot
          rw [dot] at read
          cases read
        rw [segmentsOf_of_pieces (pieces_spell all (List.cons_ne_nil _ _)), if_neg nonempty,
          if_neg noDot]
        exact filterMap_spelling all

theorem segments_ofSegments (proper : Proper S) : (ofSegments S).segments = S := by
  rw [segments, ofSegments, String.toList_ofList, segmentsOf_spell proper]

/-! ## One segment more -/

theorem Proper.append (proper : Proper S) (inner : s.IsInner) : Proper (S ++ [s]) := by
  cases S with
  | nil => exact ⟨.inr (.inr inner), nofun⟩
  | cons t S =>
      refine ⟨proper.1, fun u member => ?_⟩
      rcases List.mem_append.1 member with old | new
      · exact proper.2 u old
      · exact List.mem_singleton.1 new ▸ inner

theorem Proper.isInner_of_append (proper : Proper (S ++ [s])) (behind : S ≠ []) : s.IsInner := by
  cases S with
  | nil => exact absurd rfl behind
  | cons t S => exact proper.2 s (List.mem_append_right S List.mem_cons_self)

theorem Proper.of_append (proper : Proper (S ++ T)) : Proper S := by
  cases S with
  | nil => trivial
  | cons s S => exact ⟨proper.1, fun t member => proper.2 t (List.mem_append_left T member)⟩

theorem parent_of_segments {p : Path} {text : List Char} (split : p.segments = S ++ [.name text]) :
    p.parent = ofSegments S := by
  rw [parent, split, List.getLast?_concat, List.dropLast_concat]

/-- A slash stands between the spellings unless nothing or the root is in front. -/
theorem spell_append (proper : Proper S) (s : Segment) : spell (S ++ [s]) =
    if S = [] ∨ S = [.root] then spell S ++ Segment.spelling s
    else spell S ++ '/' :: Segment.spelling s := by
  cases S with
  | nil => rfl
  | cons t S =>
      have behind : spell (S ++ [s]) =
          if S = [] then Segment.spelling s else spell S ++ '/' :: Segment.spelling s := by
        have inner := proper.2
        clear proper
        induction S with
        | nil => rfl
        | cons u S ih =>
            obtain ⟨here, later⟩ := List.forall_mem_cons.1 inner
            have other : u ≠ .root := by
              rintro rfl
              cases here
            rw [List.cons_append, spell_cons other (by simp), ih later, if_neg (List.cons_ne_nil _ _)]
            by_cases last : S = []
            · rw [if_pos last, last]
              rfl
            · rw [if_neg last, spell_cons other last, List.append_assoc, List.cons_append]
      by_cases atRoot : t = .root
      · rw [List.cons_append, atRoot, spell_root, spell_root, behind]
        by_cases bare : S = [] <;> simp [bare, spell]
      · rw [List.cons_append, spell_cons atRoot (by simp), behind]
        by_cases bare : S = []
        · cases t <;> simp [bare, spell, Segment.spelling] at atRoot ⊢
        · simp [atRoot, bare, spell_cons atRoot bare]

theorem getLast?_spelling_ne (fits : s = .current ∨ s.IsInner) :
    (Segment.spelling s).getLast? ≠ some '/' ∧ Segment.spelling s ≠ [] := by
  rcases fits with rfl | inner
  · decide
  · refine ⟨fun last => noSlash_spelling inner (List.mem_of_getLast? last), fun empty => ?_⟩
    have read := segment?_spelling inner
    rw [empty] at read
    cases read

/-- A spelling is empty or ends in a slash only where the next segment needs none in front. -/
theorem isFolder_spell (proper : Proper S) :
    spell S = [] ∨ (spell S).getLast? = some '/' ↔ S = [] ∨ S = [.root] := by
  have unslashed {T : List Segment} {s : Segment} (fits : s = .current ∨ s.IsInner)
      (proper : Proper (T ++ [s])) :
      ¬(spell (T ++ [s]) = [] ∨ (spell (T ++ [s])).getLast? = some '/') := by
    obtain ⟨last, nonempty⟩ := getLast?_spelling_ne fits
    obtain ⟨front, ends⟩ : ∃ front, spell (T ++ [s]) = front ++ Segment.spelling s := by
      rw [spell_append proper.of_append]
      split
      · exact ⟨spell T, rfl⟩
      · exact ⟨spell T ++ ['/'], (List.append_cons ..)⟩
    have kept : (front ++ Segment.spelling s).getLast? = (Segment.spelling s).getLast? := by
      rw [List.getLast?_append, List.getLast?_eq_some_getLast nonempty, Option.some_or]
    rw [ends, kept, List.append_eq_nil_iff]
    exact not_or.2 ⟨fun empty => nonempty empty.2, last⟩
  constructor
  · intro slashed
    rcases List.eq_nil_or_concat' S with rfl | ⟨T, s, rfl⟩
    · exact .inl rfl
    · by_cases behind : T = []
      · subst behind
        rcases proper.1 with rfl | fits
        · exact .inr rfl
        · exact absurd slashed (unslashed fits proper)
      · exact absurd slashed (unslashed (.inr (proper.isInner_of_append behind)) proper)
  · rintro (rfl | rfl)
    · exact .inl rfl
    · exact .inr rfl

/-- A name is put under a folder by one more segment. -/
theorem join_ofSegments (proper : Proper S) {name : String}
    (inner : (Segment.name name.toList).IsInner) :
    (ofSegments S).join ⟨name⟩ = ofSegments (S ++ [.name name.toList]) := by
  have relative : (Path.mk name).isAbsolute = false := by
    rw [isAbsolute, beq_eq_false_iff_ne]
    exact fun first => inner.2.1 (List.mem_of_head? first)
  have folder : ((ofSegments S).text.isEmpty || (ofSegments S).text.toList.getLast? == some '/')
      = true ↔ S = [] ∨ S = [.root] := by
    rw [← isFolder_spell proper]
    simp [ofSegments]
  rw [join, relative, if_neg Bool.false_ne_true]
  by_cases bare : S = [] ∨ S = [.root]
  · rw [if_pos (folder.2 bare)]
    simp [ofSegments, spell_append proper, bare, Segment.spelling]
  · rw [if_neg (mt folder.1 bare)]
    simp [ofSegments, spell_append proper, bare, Segment.spelling, String.append_assoc]

/-! ## Canonical segments -/

section Canonical
variable {settled : List Segment}

/-- No dots, and nothing but `..` before a `..`. -/
def Resolved (S : List Segment) : Prop :=
  .current ∉ S ∧ S.Pairwise fun s t => t = .up → s = .up

instance (S : List Segment) : Decidable (Resolved S) := inferInstanceAs (Decidable (_ ∧ _))

theorem Resolved.concat (resolved : Resolved S) (noDot : s ≠ .current)
    (climbs : s = .up → ∀ t ∈ S, t = .up) : Resolved (S ++ [s]) := by
  refine ⟨fun member => ?_, List.pairwise_append.2 ⟨resolved.2, List.pairwise_singleton _ _, ?_⟩⟩
  · rcases List.mem_append.1 member with old | new
    · exact resolved.1 old
    · exact noDot (List.mem_singleton.1 new).symm
  · intro t member u new isUp
    obtain rfl := List.mem_singleton.1 new
    exact climbs isUp t member

theorem Resolved.of_concat (resolved : Resolved (S ++ [s])) : Resolved S :=
  ⟨fun member => resolved.1 (List.mem_append_left _ member), (List.pairwise_append.1 resolved.2).1⟩

/-! ## Resolving dots -/

/-- What settling one segment more can come to. -/
inductive Settles : List Segment → Segment → List Segment → Prop
  | dot {settled : List Segment} : Settles settled .current settled
  | back {text : List Char} {settled : List Segment} : Settles (.name text :: settled) .up settled
  | atRoot {settled : List Segment} : Settles (.root :: settled) .up (.root :: settled)
  | kept {settled : List Segment} {s : Segment} (noDot : s ≠ .current)
      (climbs : s = .up → ∀ last ∈ settled.head?, last = .up ∨ last = .current) :
      Settles settled s (s :: settled)

theorem settles_settle (settled : List Segment) (s : Segment) :
    Settles settled s (settle settled s) := by
  cases s with
  | current => exact .dot
  | root => exact .kept (by decide) nofun
  | name text => exact .kept nofun nofun
  | up =>
      cases settled with
      | nil => exact .kept (by decide) nofun
      | cons last before =>
          cases last with
          | name text => exact .back
          | root => exact .atRoot
          | up => exact .kept (by decide) fun _ last here => .inl (Option.some.inj here).symm
          | current => exact .kept (by decide) fun _ last here => .inr (Option.some.inj here).symm

theorem Settles.resolved {settled' : List Segment} (settles : Settles settled s settled')
    (resolved : Resolved settled.reverse) : Resolved settled'.reverse := by
  cases settles with
  | dot => exact resolved
  | atRoot => exact resolved
  | back =>
      rw [List.reverse_cons] at resolved
      exact resolved.of_concat
  | kept noDot climbs =>
      rw [List.reverse_cons]
      refine resolved.concat noDot fun isUp t member => ?_
      cases settled with
      | nil => cases member
      | cons last before =>
          rw [List.reverse_cons] at resolved member
          have lastUp : last = .up := by
            rcases climbs isUp last rfl with climbing | dot
            · exact climbing
            · exact absurd (dot ▸ List.mem_append_right _ List.mem_cons_self) resolved.1
          rcases List.mem_append.1 member with old | new
          · exact (List.pairwise_append.1 resolved.2).2.2 t old last List.mem_cons_self lastUp
          · exact (List.mem_singleton.1 new).trans lastUp

theorem resolved_canonicalSegments (S : List Segment) : Resolved (canonicalSegments S) := by
  suffices all : ∀ settled : List Segment, Resolved settled.reverse →
      Resolved (S.foldl settle settled).reverse from all [] ⟨List.not_mem_nil, List.Pairwise.nil⟩
  induction S with
  | nil => exact fun settled resolved => resolved
  | cons s S ih => exact fun settled resolved => ih _ ((settles_settle settled s).resolved resolved)

theorem foldl_settle_of_resolved (resolved : Resolved (settled.reverse ++ S)) :
    S.foldl settle settled = S.reverse ++ settled := by
  induction S generalizing settled with
  | nil => rfl
  | cons s S ih =>
      have kept : settle settled s = s :: settled := by
        cases s with
        | root => rfl
        | name text => rfl
        | current => exact absurd (List.mem_append_right _ List.mem_cons_self) resolved.1
        | up =>
            cases settled with
            | nil => rfl
            | cons last before =>
                have isUp : last = .up := (List.pairwise_append.1 resolved.2).2.2 last (by simp)
                  .up List.mem_cons_self rfl
                rw [isUp]
                rfl
      rw [List.foldl_cons, kept, ih, List.reverse_cons, List.append_assoc, List.singleton_append]
      rw [List.reverse_cons, List.append_assoc]
      exact resolved

theorem canonicalSegments_eq_self_iff : canonicalSegments S = S ↔ Resolved S := by
  constructor
  · intro same
    rw [← same]
    exact resolved_canonicalSegments S
  · intro resolved
    have settled : S.foldl settle [] = S.reverse ++ [] := foldl_settle_of_resolved resolved
    rw [canonicalSegments, settled, List.append_nil, List.reverse_reverse]

theorem canonicalSegments_concat_name (S : List Segment) (text : List Char) :
    canonicalSegments (S ++ [.name text]) = canonicalSegments S ++ [.name text] := by
  rw [canonicalSegments, List.foldl_append]
  exact List.reverse_cons

/-! ## Resolved paths -/

theorem Settles.proper {settled' : List Segment} (settles : Settles settled s settled')
    (proper : Proper settled.reverse) (inner : s.IsInner) : Proper settled'.reverse := by
  cases settles with
  | dot => exact proper
  | atRoot => exact proper
  | back =>
      rw [List.reverse_cons] at proper
      exact proper.of_append
  | kept =>
      rw [List.reverse_cons]
      exact proper.append inner

theorem proper_canonicalSegments (proper : Proper S) : Proper (canonicalSegments S) := by
  have rest {S settled : List Segment} (inner : ∀ s ∈ S, s.IsInner)
      (proper : Proper settled.reverse) : Proper (S.foldl settle settled).reverse := by
    induction S generalizing settled with
    | nil => exact proper
    | cons s S ih =>
        obtain ⟨here, later⟩ := List.forall_mem_cons.1 inner
        exact ih later ((settles_settle settled s).proper proper here)
  cases S with
  | nil => trivial
  | cons s S =>
      -- Only the first segment can be the root or a dot, and nothing is settled before it.
      rw [canonicalSegments, List.foldl_cons]
      refine rest proper.2 ?_
      rcases proper.1 with rfl | rfl | inner
      · exact ⟨.inl rfl, nofun⟩
      · trivial
      · exact (settles_settle [] s).proper trivial inner

theorem segments_canonical (p : Path) : p.canonical.segments = canonicalSegments p.segments :=
  segments_ofSegments (proper_canonicalSegments (proper_segments p))

end Canonical

end Path

/-! ## Files of one folder -/

/-- The name of a file, which means nothing else in a link. -/
structure IsPlain (name : String) : Prop where
  nonempty : name ≠ ""
  noSlash : '/' ∉ name.toList
  noColon : ':' ∉ name.toList
  noBlank : ∀ c ∈ name.toList, Text.isBlank c = false
  noDot : name ≠ "."
  noDots : name ≠ ".."

instance (name : String) : Decidable (IsPlain name) :=
  decidable_of_iff
    (name ≠ "" ∧ '/' ∉ name.toList ∧ ':' ∉ name.toList ∧ name.toList.any Text.isBlank = false ∧
      name ≠ "." ∧ name ≠ "..")
    ⟨fun ⟨nonempty, noSlash, noColon, noBlank, noDot, noDots⟩ =>
        ⟨nonempty, noSlash, noColon, by simpa using noBlank, noDot, noDots⟩,
      fun plain => ⟨plain.nonempty, plain.noSlash, plain.noColon, by simpa using plain.noBlank,
        plain.noDot, plain.noDots⟩⟩

namespace Path

/-- A folder as it was spelled, which is the root when the spelling is empty. -/
def folder (spelling : String) : Path := ⟨spelling ++ "/"⟩

/-- A file under a folder. -/
def within (spelling name : String) : Path := ⟨spelling ++ "/" ++ name⟩

/-- Nothing changes when the dots in the spelling of a folder are resolved. -/
def IsResolved (spelling : String) : Prop := Resolved (folder spelling).segments

instance (spelling : String) : Decidable (IsResolved spelling) :=
  inferInstanceAs (Decidable (Resolved _))

end Path

namespace IsPlain
variable {name other spelling : String}

theorem isInner (plain : IsPlain name) : (Segment.name name.toList).IsInner := by
  have differs {text : String} (different : name ≠ text) : name.toList ≠ text.toList :=
    fun same => different (String.toList_inj.1 same)
  exact ⟨differs plain.nonempty, plain.noSlash, differs plain.noDot, differs plain.noDots⟩

theorem segment?_eq (plain : IsPlain name) :
    Path.segment? name.toList = some (.name name.toList) :=
  Path.segment?_spelling plain.isInner

theorem segments (plain : IsPlain name) : (Path.mk name).segments = [.name name.toList] := by
  obtain ⟨nonempty, noSlash, noDot, -⟩ := plain.isInner
  rw [Path.segments, Path.segmentsOf_of_pieces (Path.pieces_of_noSlash noSlash), if_neg nonempty,
    if_neg noDot, List.filterMap_cons_some plain.segment?_eq]
  rfl

theorem segments_within (plain : IsPlain name) (spelling : String) :
    (Path.within spelling name).segments =
      (Path.folder spelling).segments ++ [.name name.toList] := by
  obtain ⟨first, rest, split⟩ := List.exists_cons_of_ne_nil (Path.pieces_ne_nil spelling.toList)
  have inFolder : Path.pieces (Path.folder spelling).text.toList = first :: (rest ++ [[]]) := by
    rw [Path.folder, String.toList_append]
    exact (Path.pieces_append_slash _ []).trans (split ▸ rfl)
  have inFile : Path.pieces (Path.within spelling name).text.toList =
      first :: (rest ++ [name.toList]) := by
    rw [Path.within, String.toList_append, String.toList_append, List.append_assoc]
    have split' := Path.pieces_append_slash spelling.toList name.toList
    rw [split, Path.pieces_of_noSlash plain.noSlash] at split'
    exact split'
  rw [Path.segments, Path.segments, Path.segmentsOf_of_pieces inFolder,
    Path.segmentsOf_of_pieces inFile]
  have behind (parts : List (List Char)) : (parts ++ [name.toList]).filterMap Path.segment? =
      (parts ++ [[]]).filterMap Path.segment? ++ [.name name.toList] := by
    rw [List.filterMap_append, List.filterMap_append, List.filterMap_cons_some plain.segment?_eq]
    exact (List.append_assoc _ [] _).symm
  rw [behind]
  split
  · rw [if_neg (by simp), if_neg (by simp)]
    rfl
  · split
    · rfl
    · rw [← List.cons_append, behind]
      rfl

/-! ## Links to plain names -/

theorem trimmed_eq (plain : IsPlain name) : Text.trimmed name = name := by
  have kept {cs : List Char} (noBlank : ∀ c ∈ cs, Text.isBlank c = false) :
      cs.dropWhile Text.isBlank = cs := by
    cases cs with
    | nil => rfl
    | cons c cs => exact List.dropWhile_cons_of_neg (by simp [noBlank c List.mem_cons_self])
  have reversed : ∀ c ∈ name.toList.reverse, Text.isBlank c = false := fun c member =>
    plain.noBlank c (List.mem_reverse.1 member)
  rw [Text.trimmed, Text.trim, Text.trimStart, kept plain.noBlank, Text.trimEnd, kept reversed,
    List.reverse_reverse, String.ofList_toList]

theorem hasScheme_eq (plain : IsPlain name) : hasScheme name.toList = false := by
  have uncut : Text.cutAt [':'] name.toList = none := by
    rw [Text.cutAt_eq_none]
    intro place stands
    have member : ':' ∈ name.toList.drop place := stands.subset List.mem_cons_self
    exact plain.noColon (List.mem_of_mem_drop member)
  rw [hasScheme, uncut]

theorem after?_eq_none {lead : String} {c : Char} (leads : c ∈ lead.toList)
    (absent : c ∉ name.toList) : Text.after? lead name = none := by
  rw [Text.after?, Option.map_eq_none_iff, Text.afterLead?_eq_none]
  exact fun starts => absent (starts.subset leads)

/-- A plain name leads to a file of the folder, spelled canonically. -/
theorem resolve_eq (plain : IsPlain name) (plain' : IsPlain other) (packageRoot : Path)
    {origin : Path} (isThere : (origin == Path.within spelling other) = true) : ∃ target,
    resolve packageRoot name origin = some target ∧
      target.segments = Path.canonicalSegments (Path.folder spelling).segments ++
        [.name name.toList] := by
  have package : Text.after? "package:" name = none :=
    after?_eq_none (c := ':') (by decide) plain.noColon
  have remote : Text.startsWith name "//" = false := by
    rw [Text.startsWith, after?_eq_none (c := '/') (by decide) plain.noSlash]
    rfl
  have parent : origin.parent = Path.ofSegments (Path.folder spelling).segments :=
    Path.parent_of_segments ((Path.beq_iff.1 isThere).trans (plain'.segments_within spelling))
  have proper := Path.proper_segments (Path.folder spelling)
  refine ⟨(origin.parent.join ⟨name⟩).canonical, ?_, ?_⟩
  · simp [resolve, plain.trimmed_eq, plain.nonempty, package, remote, plain.hasScheme_eq]
  · rw [Path.segments_canonical, parent, Path.join_ofSegments proper plain.isInner,
      Path.segments_ofSegments (proper.append plain.isInner), Path.canonicalSegments_concat_name]

/-- The target of a plain name is the file of that name in the folder if the folder is spelled
canonically, and otherwise no file that has this spelling of the folder. -/
theorem beq_within_iff (plain : IsPlain other) {target : Path}
    (leads : target.segments = Path.canonicalSegments (Path.folder spelling).segments ++
      [.name name.toList]) :
    (target == Path.within spelling other) = true ↔ Path.IsResolved spelling ∧ name = other := by
  rw [Path.beq_iff, leads, plain.segments_within spelling, Path.IsResolved,
    ← Path.canonicalSegments_eq_self_iff]
  constructor
  · intro same
    obtain ⟨folders, names⟩ := List.append_inj' same rfl
    simp only [List.cons.injEq, Segment.name.injEq, and_true] at names
    exact ⟨folders, String.toList_inj.1 names⟩
  · rintro ⟨folders, rfl⟩
    rw [folders]

/-! ## Scripts -/

/-- A name that ends in `.js` names a script unless nothing stands before that. -/
theorem isScript_iff (plain : IsPlain name) (ends : ".js".toList <:+ name.toList) :
    (Path.mk name).isScript = true ↔ name ≠ ".js" := by
  obtain ⟨stem, split⟩ := ends
  have named : (Path.mk name).fileName? = some (stem ++ ['.', 'j', 's']) := by
    rw [Path.fileName?, plain.segments]
    exact congrArg some split.symm
  have extension : (Path.mk name).extension? = if stem = [] then none else some ['j', 's'] := by
    rw [Path.extension?, named]
    simp
  have bare : name = ".js" ↔ stem = [] := by
    rw [← String.toList_inj, ← split, List.append_left_eq_self]
  rw [Path.isScript, extension, Ne, bare]
  by_cases empty : stem = [] <;> simp [empty]

end IsPlain
end ComponentMarkup
