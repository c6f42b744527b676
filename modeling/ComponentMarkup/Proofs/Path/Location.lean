import ComponentMarkup.Proofs.Path.Segments
import Mathlib.Data.List.Infix

/-!
Where paths lead. A segment moves a reader from one place to another, and a path moves by its segments
in turn. Resolving dots does not change where a path leads, and no two canonical paths lead to the
same place from everywhere. So the canonical spelling of a path depends on nothing else, and that of a
joined path on nothing but where its parts lead.

Links into packages stay below the package root as long as they climb no higher than where they start,
unless they start at the root of all files.
-/

namespace ComponentMarkup

/-- The names on the way from the root to a folder or a file, the last one in front. -/
abbrev Place := List (List Char)

/-- Where a segment leads from a place. There is nothing above the root. -/
def Segment.moves (place : Place) : Segment → Place
  | .root => []
  | .current => place
  | .up => place.tail
  | .name text => text :: place

namespace Path
variable {S T settled settled' : List Segment} {s : Segment} {names : Place} {place : Place}

/-- Where segments lead, one after the other. -/
def walk (S : List Segment) (place : Place) : Place := S.foldl Segment.moves place

/-- Where the path leads a reader who is at `place`. -/
def leads (p : Path) (place : Place) : Place := walk p.segments place

theorem walk_append (S T : List Segment) (place : Place) :
    walk (S ++ T) place = walk T (walk S place) :=
  List.foldl_append

theorem walk_concat (S : List Segment) (s : Segment) (place : Place) :
    walk (S ++ [s]) place = s.moves (walk S place) :=
  walk_append S [s] place

theorem walk_names (names place : Place) :
    walk (names.map .name) place = names.reverse ++ place := by
  induction names generalizing place with
  | nil => rfl
  | cons text names ih =>
      rw [List.reverse_cons, List.append_assoc, List.singleton_append]
      exact ih (text :: place)

theorem walk_climbs (climbs : Nat) (place : Place) :
    walk (List.replicate climbs .up) place = place.drop climbs := by
  induction climbs generalizing place with
  | zero => rfl
  | succ climbs ih =>
      rw [← List.drop_tail]
      exact ih place.tail

/-! ## Resolving dots -/

/-- Settling one segment more leads where the segment does. -/
theorem Settles.walk (settles : Settles settled s settled') (place : Place) :
    walk settled'.reverse place = s.moves (walk settled.reverse place) := by
  cases settles with
  | dot => rfl
  | back =>
      rw [List.reverse_cons, walk_concat]
      rfl
  | atRoot =>
      rw [List.reverse_cons, walk_concat]
      rfl
  | kept => rw [List.reverse_cons, walk_concat]

theorem walk_canonicalSegments (S : List Segment) (place : Place) :
    walk (canonicalSegments S) place = walk S place := by
  suffices all : ∀ settled : List Segment,
      walk (S.foldl settle settled).reverse place = walk S (walk settled.reverse place) from all []
  induction S with
  | nil => exact fun settled => rfl
  | cons s S ih =>
      intro settled
      rw [List.foldl_cons, ih, (settles_settle settled s).walk]
      rfl

theorem leads_canonical (p : Path) (place : Place) : p.canonical.leads place = p.leads place := by
  rw [leads, segments_canonical, walk_canonicalSegments, leads]

/-! ## Canonical paths -/

/-- Names below the root, or behind steps up. -/
inductive Canonical : List Segment → Prop
  | absolute (names : List (List Char)) : Canonical (.root :: names.map .name)
  | relative (climbs : Nat) (names : List (List Char)) :
      Canonical (List.replicate climbs .up ++ names.map .name)

/-- The path has no dots, `..` only in front of a relative path, and the spelling that its segments
have. -/
structure IsCanonical (p : Path) : Prop where
  shape : Canonical p.segments
  spelled : p = ofSegments p.segments

theorem exists_climbs_names (resolved : Resolved S) (inner : ∀ s ∈ S, s.IsInner) :
    ∃ (climbs : Nat) (names : List (List Char)), S = List.replicate climbs .up ++ names.map .name := by
  induction S with
  | nil => exact ⟨0, [], rfl⟩
  | cons s S ih =>
      obtain ⟨here, later⟩ := List.forall_mem_cons.1 inner
      obtain ⟨noDot, ordered⟩ := resolved
      obtain ⟨behind, ordered⟩ := List.pairwise_cons.1 ordered
      obtain ⟨climbs, names, rfl⟩ :=
        ih ⟨fun member => noDot (List.mem_cons_of_mem _ member), ordered⟩ later
      cases s with
      | root => cases here
      | current => cases here
      | up => exact ⟨climbs + 1, names, rfl⟩
      | name text =>
          cases climbs with
          | zero => exact ⟨0, text :: names, rfl⟩
          | succ climbs => cases behind .up List.mem_cons_self rfl

theorem canonical_of_resolved (proper : Proper S) (resolved : Resolved S) : Canonical S := by
  have level {S : List Segment} (proper : Proper S) (resolved : Resolved S)
      (relative : S.head? ≠ some .root) : Canonical S := by
    obtain ⟨climbs, names, rfl⟩ := exists_climbs_names resolved fun s member => by
      cases S with
      | nil => cases member
      | cons t S =>
          rcases List.mem_cons.1 member with rfl | later
          · rcases proper.1 with rfl | rfl | inner
            · exact absurd rfl relative
            · exact absurd List.mem_cons_self resolved.1
            · exact inner
          · exact proper.2 s later
    exact .relative climbs names
  by_cases rooted : S.head? = some .root
  · obtain ⟨S, rfl⟩ := List.head?_eq_some_iff.1 rooted
    obtain ⟨noDot, ordered⟩ := resolved
    obtain ⟨behind, ordered⟩ := List.pairwise_cons.1 ordered
    obtain ⟨climbs, names, rfl⟩ := exists_climbs_names
      ⟨fun member => noDot (List.mem_cons_of_mem _ member), ordered⟩ proper.2
    cases climbs with
    | zero => exact .absolute names
    | succ climbs => cases behind .up List.mem_cons_self rfl
  · exact level proper resolved rooted

theorem isCanonical_canonical (p : Path) : p.canonical.IsCanonical where
  shape := by
    rw [segments_canonical]
    exact canonical_of_resolved (proper_canonicalSegments (proper_segments p))
      (resolved_canonicalSegments _)
  spelled := by rw [segments_canonical, canonical]

theorem walk_absolute (names place : Place) : walk (.root :: names.map .name) place = names.reverse :=
  (walk_names names []).trans (List.append_nil _)

theorem walk_relative (climbs : Nat) (names place : Place) :
    walk (List.replicate climbs .up ++ names.map .name) place =
      names.reverse ++ place.drop climbs := by
  rw [walk_append, walk_climbs, walk_names]

/-- Canonical segments that lead alike are the same. -/
theorem Canonical.eq_of_walk (canonical : Canonical S) (canonical' : Canonical T)
    (alike : ∀ place, walk S place = walk T place) : S = T := by
  -- The names are read off at the root, and the steps up at a place that is far enough below it.
  have atRoot := alike []
  have below (depth : Nat) := congrArg List.length (alike (List.replicate depth []))
  cases canonical with
  | absolute names =>
      cases canonical' with
      | absolute names' =>
          rw [walk_absolute, walk_absolute, List.reverse_inj] at atRoot
          rw [atRoot]
      | relative climbs names' =>
          rw [walk_absolute, walk_relative, List.drop_nil, List.append_nil, List.reverse_inj] at atRoot
          have deep := below (climbs + 1)
          rw [walk_absolute, walk_relative, atRoot] at deep
          simp at deep
  | relative climbs names =>
      cases canonical' with
      | absolute names' =>
          rw [walk_absolute, walk_relative, List.drop_nil, List.append_nil, List.reverse_inj] at atRoot
          have deep := below (climbs + 1)
          rw [walk_absolute, walk_relative, atRoot] at deep
          simp at deep
      | relative climbs' names' =>
          simp only [walk_relative, List.drop_nil, List.append_nil, List.reverse_inj] at atRoot
          have deep := below (climbs + climbs')
          simp only [walk_relative, atRoot, List.length_append, List.length_drop,
            List.length_replicate, Nat.add_left_cancel_iff] at deep
          obtain rfl : climbs = climbs' := by omega
          rw [atRoot]

/-- A canonical path is known by where it leads. -/
theorem IsCanonical.eq_of_leads {p q : Path} (canonical : p.IsCanonical) (canonical' : q.IsCanonical)
    (alike : ∀ place, p.leads place = q.leads place) : p = q := by
  rw [canonical.spelled, canonical'.spelled, canonical.shape.eq_of_walk canonical'.shape alike]

theorem canonical_eq_iff {p q : Path} :
    p.canonical = q.canonical ↔ ∀ place, p.leads place = q.leads place := by
  constructor
  · intro same place
    rw [← leads_canonical, same, leads_canonical]
  · intro alike
    refine (isCanonical_canonical p).eq_of_leads (isCanonical_canonical q) fun place => ?_
    rw [leads_canonical, leads_canonical, alike]

/-! ## Absolute paths -/

theorem segment?_ne_root (piece : List Char) : segment? piece ≠ some .root := by
  unfold segment?
  split
  · exact nofun
  · split <;> exact nofun

theorem root_not_mem_filterMap (parts : List (List Char)) : .root ∉ parts.filterMap segment? := by
  intro member
  obtain ⟨piece, -, read⟩ := List.mem_filterMap.1 member
  exact segment?_ne_root piece read

theorem segmentsOf_slash (text : List Char) :
    segmentsOf ('/' :: text) = .root :: (pieces text).filterMap segment? := by
  have split : pieces ('/' :: text) = [] :: pieces text := rfl
  rw [segmentsOf_of_pieces split, if_pos rfl, if_neg (pieces_ne_nil text)]

/-- A text with no slash in front may have a dot there, and is else made of what its pieces read. -/
theorem segmentsOf_relative {text : List Char} (relative : text.head? ≠ some '/') :
    ∃ dots, (dots = [] ∨ dots = [Segment.current]) ∧
      segmentsOf text = dots ++ (pieces text).filterMap segment? := by
  cases text with
  | nil => exact ⟨[], .inl rfl, rfl⟩
  | cons c text =>
      have noSlash : c ≠ '/' := fun slash => relative (congrArg some slash)
      obtain ⟨first, rest, split⟩ := List.exists_cons_of_ne_nil (pieces_ne_nil (c :: text))
      have nonempty : first ≠ [] := by
        rintro rfl
        rw [pieces, if_neg noSlash] at split
        split at split <;> cases split
      rw [segmentsOf_of_pieces split, if_neg nonempty, split]
      by_cases dot : first = ['.']
      · refine ⟨[.current], .inr rfl, ?_⟩
        rw [if_pos dot, List.filterMap_cons_none (by rw [dot]; rfl)]
        rfl
      · exact ⟨[], .inl rfl, if_neg dot⟩

theorem isAbsolute_eq_true {p : Path} : p.isAbsolute = true ↔ p.text.toList.head? = some '/' :=
  beq_iff_eq

theorem isAbsolute_iff {p : Path} : p.isAbsolute = true ↔ .root ∈ p.segments := by
  rw [isAbsolute_eq_true, segments]
  by_cases slash : p.text.toList.head? = some '/'
  · obtain ⟨text, split⟩ := List.head?_eq_some_iff.1 slash
    rw [split, segmentsOf_slash]
    exact iff_of_true rfl List.mem_cons_self
  · obtain ⟨dots, dot, split⟩ := segmentsOf_relative slash
    refine iff_of_false slash fun member => ?_
    rw [split] at member
    rcases List.mem_append.1 member with first | later
    · rcases dot with rfl | rfl
      · cases first
      · cases List.mem_singleton.1 first
    · exact root_not_mem_filterMap _ later

/-- A root is neither taken back nor put before anything. -/
theorem root_mem_canonicalSegments : .root ∈ canonicalSegments S ↔ .root ∈ S := by
  suffices all : ∀ settled : List Segment,
      .root ∈ S.foldl settle settled ↔ .root ∈ settled ∨ .root ∈ S by
    rw [canonicalSegments, List.mem_reverse, all, or_iff_right List.not_mem_nil]
  induction S with
  | nil => exact fun settled => by simp
  | cons s S ih =>
      intro settled
      have step : .root ∈ settle settled s ↔ .root ∈ settled ∨ .root = s := by
        obtain ⟨settled', same⟩ : ∃ settled', settled' = settle settled s := ⟨_, rfl⟩
        have settles := settles_settle settled s
        rw [← same] at settles ⊢
        cases settles with
        | dot => simp
        | back => simp
        | atRoot => simp
        | kept => rw [List.mem_cons, or_comm]
      rw [List.foldl_cons, ih, step, List.mem_cons, or_assoc]

theorem isAbsolute_canonical (p : Path) : p.canonical.isAbsolute = p.isAbsolute := by
  rw [Bool.eq_iff_iff, isAbsolute_iff, isAbsolute_iff, segments_canonical,
    root_mem_canonicalSegments]

/-! ## Joining -/

/-- A path leads where its pieces do, from the root if it is absolute. -/
theorem leads_eq (p : Path) (place : Place) : p.leads place =
    walk ((pieces p.text.toList).filterMap segment?) (if p.isAbsolute then [] else place) := by
  rw [leads, segments]
  by_cases absolute : p.isAbsolute = true
  · obtain ⟨text, split⟩ := List.head?_eq_some_iff.1 (isAbsolute_eq_true.1 absolute)
    rw [if_pos absolute, split, segmentsOf_slash]
    rfl
  · obtain ⟨dots, dot, split⟩ := segmentsOf_relative (mt isAbsolute_eq_true.2 absolute)
    rw [if_neg absolute, split, walk_append]
    rcases dot with rfl | rfl <;> rfl

/-- What stands behind a slash is read from where the text up to the slash leads. -/
theorem leads_slash (front back : List Char) (place : Place) :
    (Path.mk (String.ofList (front ++ '/' :: back))).leads place =
      walk ((pieces back).filterMap segment?)
        ((Path.mk (String.ofList (front ++ ['/']))).leads place) := by
  have starts : (Path.mk (String.ofList (front ++ '/' :: back))).isAbsolute =
      (Path.mk (String.ofList (front ++ ['/']))).isAbsolute := by
    rw [isAbsolute, isAbsolute, String.toList_ofList, String.toList_ofList, List.head?_append,
      List.head?_append]
    rfl
  rw [leads_eq, leads_eq, starts, String.toList_ofList, String.toList_ofList, pieces_append_slash,
    pieces_append_slash, List.filterMap_append, List.filterMap_append, walk_append, walk_append]
  rfl

/-- A slash at the end of a path that is not empty makes no difference. -/
theorem leads_concat_slash {p : Path} (nonempty : p.text.toList ≠ []) (place : Place) :
    (Path.mk (String.ofList (p.text.toList ++ ['/']))).leads place = p.leads place := by
  have starts : (Path.mk (String.ofList (p.text.toList ++ ['/']))).isAbsolute = p.isAbsolute := by
    rw [isAbsolute, isAbsolute, String.toList_ofList, List.head?_append_of_ne_nil _ nonempty]
  rw [leads_eq, leads_eq p, starts, String.toList_ofList, pieces_append_slash,
    List.filterMap_append, walk_append]
  rfl

theorem leads_join (p q : Path) (place : Place) :
    (p.join q).leads place = q.leads (p.leads place) := by
  unfold join
  split
  · next absolute => rw [leads_eq q place, leads_eq q, if_pos absolute, if_pos absolute]
  · next relative =>
    rw [leads_eq q, if_neg relative]
    by_cases empty : p.text = ""
    · rw [if_pos (by rw [empty]; rfl), empty, String.empty_append, leads_eq, if_neg relative, leads,
        segments, empty]
      rfl
    · by_cases slash : p.text.toList.getLast? = some '/'
      · obtain ⟨front, split⟩ := List.getLast?_eq_some_iff.1 slash
        have whole : p.text ++ q.text = String.ofList (front ++ '/' :: q.text.toList) := by
          rw [← String.toList_inj]
          simp [split]
        have here : p = ⟨String.ofList (front ++ ['/'])⟩ := by rw [← split, String.ofList_toList]
        rw [if_pos (by simp [slash]), whole, leads_slash, ← here]
      · have nonempty : p.text.toList ≠ [] := by simpa using empty
        have whole : p.text ++ "/" ++ q.text =
            String.ofList (p.text.toList ++ '/' :: q.text.toList) := by
          rw [← String.toList_inj]
          simp
        rw [if_neg (by simp [slash, empty]), whole, leads_slash, leads_concat_slash nonempty]

/-- The canonical form of a joined path depends only on where its parts lead. -/
theorem canonical_join_canonical (p q : Path) :
    (p.canonical.join q).canonical = (p.join q).canonical := by
  rw [canonical_eq_iff]
  intro place
  rw [leads_join, leads_join, leads_canonical]

/-- What canonical form a path has. -/
structure IsCanonicalOf (q p : Path) : Prop where
  canonical : q.IsCanonical
  absolute : q.isAbsolute = p.isAbsolute
  settled : q.canonical = q
  leads : ∀ place, q.leads place = p.leads place

theorem isCanonicalOf_canonical (p : Path) : p.canonical.IsCanonicalOf p where
  canonical := isCanonical_canonical p
  absolute := isAbsolute_canonical p
  settled := canonical_eq_iff.2 (leads_canonical p)
  leads := leads_canonical p

/-! ## Links -/

/-- Where a link in the file `origin` means to lead a reader at `place`: from the package root behind
`package:`, and else from the folder of the file. -/
def destination (packageRoot origin : Path) (href : String) (place : Place) : Place :=
  match Text.after? "package:" (Text.trimmed href) with
  | some rest => (Path.mk rest).leads (packageRoot.leads place)
  | none => (Path.mk (Text.trimmed href)).leads (origin.parent.leads place)

theorem of_resolve {packageRoot origin target : Path} {href : String}
    (resolved : resolve packageRoot href origin = some target) : ∃ p : Path, target = p.canonical ∧
      ∀ place, p.leads place = destination packageRoot origin href place := by
  unfold resolve at resolved
  dsimp only at resolved
  split at resolved
  · cases resolved
  · split at resolved
    · next rest package =>
      refine ⟨_, (Option.some.inj resolved).symm, fun place => ?_⟩
      rw [leads_join, destination, package]
    · next plain =>
      split at resolved
      · cases resolved
      · refine ⟨_, (Option.some.inj resolved).symm, fun place => ?_⟩
        rw [leads_join, destination, plain]

/-- Resolving dots gives every path the one canonical path that leads alike, and joining does not tell
a path from its canonical form. So links of a file have canonical targets, which are the same path
exactly when the links mean to lead to the same place. -/
theorem canonical_and_resolve (packageRoot origin : Path) :
    (∀ p : Path, p.canonical.IsCanonicalOf p) ∧
    (∀ a b : Path, (a.join b).canonical = (a.canonical.join b).canonical) ∧
    ∀ href, ∀ target ∈ resolve packageRoot href origin, target.IsCanonical ∧
      (∀ place, target.leads place = destination packageRoot origin href place) ∧
      ∀ href', ∀ target' ∈ resolve packageRoot href' origin, ((target == target') = true ↔
        ∀ place, destination packageRoot origin href place =
          destination packageRoot origin href' place) := by
  refine ⟨isCanonicalOf_canonical, fun a b => (canonical_join_canonical a b).symm, ?_⟩
  intro href target resolved
  obtain ⟨p, rfl, means⟩ := of_resolve resolved
  refine ⟨isCanonical_canonical p, fun place => (leads_canonical p place).trans (means place), ?_⟩
  intro href' target' resolved'
  obtain ⟨p', rfl, means'⟩ := of_resolve resolved'
  have same : (p.canonical == p'.canonical) = true ↔ p.canonical = p'.canonical := by
    rw [beq_iff]
    constructor
    · intro segments
      rw [(isCanonical_canonical p).spelled, segments, ← (isCanonical_canonical p').spelled]
    · exact congrArg Path.segments
  rw [same, canonical_eq_iff]
  simp only [means, means']

theorem canonical_and_resolve_shared :
    let origin : Path := ⟨"web/app/index.html"⟩
    ∃ target ∈ resolve ⟨"packages"⟩ "../shared/./y.html" origin,
      ∃ target' ∈ resolve ⟨"packages"⟩ " x/../../shared//y.html" origin,
        target.text = "web/shared/y.html" ∧ target.IsCanonical ∧ (target == target') = true ∧
          destination ⟨"packages"⟩ origin "../shared/./y.html" [] =
            destination ⟨"packages"⟩ origin " x/../../shared//y.html" [] := by
  intro origin
  have first : (resolve ⟨"packages"⟩ "../shared/./y.html" origin).map Path.text =
      some "web/shared/y.html" := by decide +kernel
  have second : (resolve ⟨"packages"⟩ " x/../../shared//y.html" origin).map Path.text =
      some "web/shared/y.html" := by decide +kernel
  obtain ⟨target, resolved, spelled⟩ := Option.map_eq_some_iff.1 first
  obtain ⟨target', resolved', spelled'⟩ := Option.map_eq_some_iff.1 second
  obtain ⟨-, -, links⟩ := canonical_and_resolve ⟨"packages"⟩ origin
  obtain ⟨canonical, -, alike⟩ := links _ target resolved
  have same : (target == target') = true := by
    rw [beq_iff, segments, segments, spelled, spelled']
  exact ⟨target, resolved, target', resolved', spelled, canonical, same,
    (alike _ target' resolved').1 same []⟩

/-! ## Packages -/

def isName : Segment → Bool
  | .name _ => true
  | _ => false

/-- At no point more steps up than names lie behind. -/
def StaysBelow (S : List Segment) : Prop := ∀ T ∈ S.inits, T.count .up ≤ T.countP isName

instance (S : List Segment) : Decidable (StaysBelow S) := inferInstanceAs (Decidable (∀ _ ∈ _, _))

/-- The path is the other one with names behind it. -/
def IsBelow (target root : Path) : Prop :=
  ∃ names : List (List Char), target.segments = root.canonical.segments ++ names.map .name

theorem staysBelow_iff :
    StaysBelow S ↔ ∀ T, T <+: S → T.count .up ≤ T.countP isName := by
  simp only [StaysBelow, List.mem_inits]

/-- Where segments stay below the names that are settled, names are left. -/
theorem foldl_settle_below (base : List Segment) (names : Place) (inner : ∀ s ∈ S, s.IsInner)
    (below : ∀ T, T <+: S → T.count .up ≤ T.countP isName + names.length) :
    ∃ names' : Place, S.foldl settle (names.map .name ++ base) = names'.map .name ++ base := by
  induction S generalizing names with
  | nil => exact ⟨names, rfl⟩
  | cons s S ih =>
      obtain ⟨here, later⟩ := List.forall_mem_cons.1 inner
      have next {T : List Segment} (first : T <+: S) :=
        below (s :: T) (List.cons_prefix_cons.2 ⟨rfl, first⟩)
      cases s with
      | root => cases here
      | current => cases here
      | name text =>
          refine ih (text :: names) later fun T first => ?_
          have bound := next first
          rw [List.count_cons_of_ne Segment.noConfusion, List.countP_cons_of_pos rfl] at bound
          rw [List.length_cons]
          omega
      | up =>
          cases names with
          | nil => exact absurd (next List.nil_prefix) (by decide)
          | cons text names =>
              refine ih names later fun T first => ?_
              have bound := next first
              rw [List.count_cons_self, List.countP_cons_of_neg (by decide), List.length_cons] at bound
              omega

/-- Segments that stay below where they start come to names, from the root if that is where they
start. -/
theorem exists_names_of_staysBelow (proper : Proper S) (below : StaysBelow S) :
    ∃ names : List (List Char),
      canonicalSegments S = (if .root ∈ S then [.root] else []) ++ names.map .name := by
  rw [staysBelow_iff] at below
  have counted (base : List Segment) {S : List Segment} (inner : ∀ s ∈ S, s.IsInner)
      (below : ∀ T, T <+: S → T.count .up ≤ T.countP isName) :
      ∃ names : List (List Char), (S.foldl settle base).reverse = base.reverse ++ names.map .name := by
    obtain ⟨names, settled⟩ := foldl_settle_below base [] inner below
    refine ⟨names.reverse, ?_⟩
    rw [List.map_nil, List.nil_append] at settled
    rw [settled, List.reverse_append, List.map_reverse]
  have rootless {S : List Segment} (inner : ∀ s ∈ S, s.IsInner) : .root ∉ S :=
    fun member => inner _ member
  cases S with
  | nil => exact ⟨[], rfl⟩
  | cons s S =>
      have next {T : List Segment} (first : T <+: S) :=
        below (s :: T) (List.cons_prefix_cons.2 ⟨rfl, first⟩)
      rcases proper.1 with rfl | rfl | inner
      · rw [if_pos List.mem_cons_self]
        refine counted [.root] proper.2 fun T first => ?_
        simpa [isName] using next first
      · rw [if_neg (by simpa using rootless proper.2)]
        refine counted (S := S) [] proper.2 fun T first => ?_
        simpa [isName] using next first
      · have all : ∀ t ∈ s :: S, t.IsInner := List.forall_mem_cons.2 ⟨inner, proper.2⟩
        rw [if_neg (rootless all)]
        exact counted [] all below

theorem segments_canonical_of_staysBelow {p : Path} (below : StaysBelow p.segments) :
    ∃ names : List (List Char),
      p.canonical.segments = (if p.isAbsolute then [.root] else []) ++ names.map .name := by
  obtain ⟨names, left⟩ := exists_names_of_staysBelow (proper_segments p) below
  refine ⟨names, ?_⟩
  rw [segments_canonical, left]
  by_cases absolute : p.isAbsolute = true
  · rw [if_pos absolute, if_pos (isAbsolute_iff.1 absolute)]
  · rw [if_neg absolute, if_neg (mt isAbsolute_iff.2 absolute)]

theorem Canonical.append_names (canonical : Canonical S) (names : List (List Char)) :
    Canonical (S ++ names.map .name) := by
  cases canonical with
  | absolute front =>
      rw [List.cons_append, ← List.map_append]
      exact .absolute (front ++ names)
  | relative climbs front =>
      rw [List.append_assoc, ← List.map_append]
      exact .relative climbs (front ++ names)

/-- Names behind a path are put behind its canonical form. -/
theorem segments_canonical_join {p q : Path} {names : List (List Char)}
    (left : q.canonical.segments = names.map .name) :
    (p.join q).canonical.segments = p.canonical.segments ++ names.map .name := by
  refine (isCanonical_canonical _).shape.eq_of_walk
    ((isCanonical_canonical p).shape.append_names names) fun place => ?_
  calc walk (p.join q).canonical.segments place
      = q.leads (p.canonical.leads place) := by
        rw [leads_canonical p, ← leads_join]
        exact leads_canonical _ place
    _ = walk q.canonical.segments (p.canonical.leads place) := (leads_canonical q _).symm
    _ = walk (p.canonical.segments ++ names.map .name) place := by
        rw [left, walk_append, leads]

theorem trimmed_package {rest : String} (ends : Text.trimEnd rest.toList = rest.toList) :
    Text.trimmed ("package:" ++ rest) = "package:" ++ rest := by
  have starts : Text.trimStart ("package:" ++ rest).toList = ("package:" ++ rest).toList := by
    rw [Text.trimStart_eq_self_iff, String.toList_append]
    rintro c ⟨⟩
    decide
  have ended : Text.trimEnd ("package:" ++ rest).toList = ("package:" ++ rest).toList := by
    rw [String.toList_append]
    by_cases bare : rest.toList = []
    · rw [bare]
      decide
    · have last : Text.trimStart rest.toList.reverse = rest.toList.reverse :=
        List.reverse_injective (by rw [List.reverse_reverse]; exact ends)
      have whole := Text.trimStart_append last (mt List.reverse_eq_nil_iff.1 bare)
        "package:".toList.reverse
      rw [← List.reverse_append] at whole
      rw [Text.trimEnd, ← Text.trimStart, whole, List.reverse_reverse]
  rw [Text.trimmed, Text.trim, starts, ended, String.ofList_toList]

theorem resolve_package {rest : String} (ends : Text.trimEnd rest.toList = rest.toList)
    (packageRoot origin : Path) : resolve packageRoot ("package:" ++ rest) origin =
      some (packageRoot.join ⟨rest⟩).canonical := by
  have package : Text.after? "package:" ("package:" ++ rest) = some rest := by
    rw [Text.after?, Text.afterLead?_eq_some.2 (String.toList_append ..).symm, Option.map_some,
      String.ofList_toList]
  have filled : ("package:" ++ rest).isEmpty = false := by
    rw [String.isEmpty_eq_false_iff, Ne, String.append_eq_empty_iff]
    exact fun empty => absurd empty.1 (by decide)
  unfold resolve
  dsimp only
  rw [trimmed_package ends, filled, if_neg Bool.false_ne_true, package]

theorem not_mem_map_name {s : Segment} (noName : isName s = false) (names : List (List Char)) :
    s ∉ names.map .name := by
  intro member
  obtain ⟨text, -, rfl⟩ := List.mem_map.1 member
  cases noName

/-- What is below the root is below its folders, and below no relative path. -/
theorem isBelow_iff_of_absolute {target root : Path} {names : List (List Char)}
    (absolute : target.segments = .root :: names.map .name) : target.IsBelow root ↔
      ∃ front, root.canonical.segments = .root :: front.map .name ∧ front <+: names := by
  have injective : Function.Injective (List.map Segment.name) :=
    List.map_injective_iff.2 fun _ _ => Segment.name.inj
  constructor
  · rintro ⟨more, under⟩
    rw [absolute] at under
    generalize root.canonical.segments = S, (isCanonical_canonical root).shape = shape at under ⊢
    cases shape with
    | absolute front =>
        rw [List.cons_append, ← List.map_append] at under
        exact ⟨front, rfl, more, (injective (List.cons.inj under).2).symm⟩
    | relative climbs front =>
        have rooted : Segment.root ∈ List.replicate climbs Segment.up ++ front.map .name ++
            more.map .name :=
          under ▸ List.mem_cons_self
        rw [List.append_assoc, ← List.map_append] at rooted
        rcases List.mem_append.1 rooted with climbing | named
        · cases List.eq_of_mem_replicate climbing
        · exact absurd named (not_mem_map_name rfl _)
  · rintro ⟨front, split, more, rfl⟩
    exact ⟨more, by rw [absolute, split, List.map_append, List.cons_append]⟩

/-- A link into a package that climbs no higher than where it starts leads to the same file from
everywhere. That is below the package root, under the names that the rest of the link comes to, unless
this rest starts at the root of all files. -/
theorem anchored_iff_relative {rest : String} (packageRoot : Path)
    (ends : Text.trimEnd rest.toList = rest.toList) (below : StaysBelow (Path.mk rest).segments) :
    ∃ (names : List (List Char)) (target : Path),
      (Path.mk rest).canonical.segments =
        (if (Path.mk rest).isAbsolute then [.root] else []) ++ names.map .name ∧
      (∀ origin, resolve packageRoot ("package:" ++ rest) origin = some target) ∧
      target.IsCanonical ∧
      target.segments = (if (Path.mk rest).isAbsolute then [.root] else packageRoot.canonical.segments) ++
        names.map .name ∧
      (target.segments = packageRoot.canonical.segments ++ names.map .name ↔
        (Path.mk rest).isAbsolute = false ∨ packageRoot.canonical.segments = [.root]) ∧
      (target.IsBelow packageRoot ↔ (Path.mk rest).isAbsolute = false ∨
        ∃ front, packageRoot.canonical.segments = .root :: front.map .name ∧ front <+: names) := by
  obtain ⟨names, left⟩ := segments_canonical_of_staysBelow below
  refine ⟨names, _, left, resolve_package ends packageRoot, isCanonical_canonical _, ?_⟩
  cases absolute : (Path.mk rest).isAbsolute with
  | false =>
      rw [absolute, if_neg Bool.false_ne_true, List.nil_append] at left
      have leads : (packageRoot.join ⟨rest⟩).canonical.segments =
          packageRoot.canonical.segments ++ names.map .name := segments_canonical_join left
      rw [if_neg Bool.false_ne_true]
      exact ⟨leads, iff_of_true leads (.inl rfl), iff_of_true ⟨names, leads⟩ (.inl rfl)⟩
  | true =>
      rw [absolute, if_pos rfl, List.singleton_append] at left
      have replaced : packageRoot.join ⟨rest⟩ = ⟨rest⟩ := if_pos absolute
      have leads : (packageRoot.join ⟨rest⟩).canonical.segments = .root :: names.map .name := by
        rw [replaced, left]
      rw [if_pos rfl]
      refine ⟨leads, ?_, ?_⟩
      · rw [leads, ← List.singleton_append, List.append_left_inj, or_iff_right Bool.noConfusion,
          eq_comm]
      · rw [isBelow_iff_of_absolute leads, or_iff_right Bool.noConfusion]

theorem anchored_iff_relative_climbing :
    let rest : Path := ⟨"a/../b//x.html"⟩
    Text.trimEnd rest.text.toList = rest.text.toList ∧ StaysBelow rest.segments ∧
      ∃ target, (∀ origin, resolve ⟨"../deps/."⟩ ("package:" ++ rest.text) origin = some target) ∧
        target.IsBelow ⟨"../deps/."⟩ := by
  intro rest
  have ends : Text.trimEnd rest.text.toList = rest.text.toList := by decide +kernel
  have below : StaysBelow rest.segments := by decide +kernel
  have relative : rest.isAbsolute = false := by decide +kernel
  obtain ⟨names, target, -, resolved, -, -, -, isBelow⟩ :=
    anchored_iff_relative ⟨"../deps/."⟩ ends below
  exact ⟨ends, below, target, resolved, isBelow.2 (.inl relative)⟩

/-- `package:/x.html` leads out of the packages in `/deps`. -/
theorem not_isBelow_rooted :
    let rest : Path := ⟨"/x.html"⟩
    Text.trimEnd rest.text.toList = rest.text.toList ∧ StaysBelow rest.segments ∧
      ∃ target, resolve ⟨"/deps"⟩ "package:/x.html" ⟨"web/index.html"⟩ = some target ∧
        target.text = "/x.html" ∧ ¬ target.IsBelow ⟨"/deps"⟩ := by
  intro rest
  have ends : Text.trimEnd rest.text.toList = rest.text.toList := by decide +kernel
  have below : StaysBelow rest.segments := by decide +kernel
  have leads : (resolve ⟨"/deps"⟩ "package:/x.html" ⟨"web/index.html"⟩).map Path.text =
      some "/x.html" := by decide +kernel
  have packages : (Path.mk "/deps").canonical.segments = [.root, .name "deps".toList] := by
    decide +kernel
  obtain ⟨target, resolved, spelled⟩ := Option.map_eq_some_iff.1 leads
  refine ⟨ends, below, target, resolved, spelled, ?_⟩
  rintro ⟨names, under⟩
  have segments : target.segments = [.root, .name "x.html".toList] := by
    rw [Path.segments, spelled]
    decide +kernel
  rw [segments, packages] at under
  obtain ⟨-, under⟩ := List.cons.inj under
  exact absurd (Segment.name.inj (List.cons.inj under).1) (by decide)

end Path
end ComponentMarkup
