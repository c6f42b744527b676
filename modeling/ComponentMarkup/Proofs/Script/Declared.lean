import ComponentMarkup.Script.Unit

/-!
The names that a module declares, told by the place at which each stands: a list of numbers that
says which statement, which of its patterns, and which part of each pattern on the way to the name.
Places in the order of such lists are in source order.
-/

namespace ComponentMarkup.Script

/-! ## Where a name is bound -/

/-- The pattern that stands at a number among the parts; a hole takes up a number. -/
def Parts.at? : Parts → Nat → Option Pattern
  | .done, _ => none
  | .hole _, 0 => none
  | .hole rest, i + 1 => rest.at? i
  | .item pattern _, 0 => some pattern
  | .item _ rest, i + 1 => rest.at? i
  | .spread pattern, 0 => some pattern
  | .spread _, _ + 1 => none

/-- The pattern binds the name at the place in it, and `passed` says whether the place is under a
part that falls back on a default value. -/
inductive Pattern.Binds : Pattern → List Nat → String → Bool → Prop where
  | name (text : String) : Binds (.name text) [] text false
  | object {parts : Parts} {i : Nat} {part : Pattern} {place : List Nat} {name : String}
      {passed : Bool} (found : parts.at? i = some part) (bound : part.Binds place name passed) :
      Binds (.object parts) (i :: place) name passed
  | array {parts : Parts} {i : Nat} {part : Pattern} {place : List Nat} {name : String}
      {passed : Bool} (found : parts.at? i = some part) (bound : part.Binds place name passed) :
      Binds (.array parts) (i :: place) name passed
  | withDefault {target : Pattern} {place : List Nat} {name : String} {passed : Bool}
      (bound : target.Binds place name passed) : Binds (.withDefault target) place name true

inductive Declaration.Binds : Declaration → List Nat → String → Bool → Prop where
  | bindings {patterns : List Pattern} {i : Nat} {pattern : Pattern} {place : List Nat}
      {name : String} {passed : Bool} (found : patterns[i]? = some pattern)
      (bound : pattern.Binds place name passed) :
      Binds (.bindings patterns) (i :: place) name passed
  | function (name : String) : Binds (.function (some name)) [] name false
  | classType (name : String) : Binds (.classType (some name)) [] name false

/-- The statement binds the name at the top level, and `passed` says whether the place is under a
default value or in a default export. -/
inductive Statement.Binds : Statement → List Nat → String → Bool → Prop where
  | declaration {d : Declaration} {place : List Nat} {name : String} {passed : Bool}
      (bound : d.Binds place name passed) : Binds (.declaration d) place name passed
  | exportNamed {d : Declaration} {place : List Nat} {name : String} {passed : Bool}
      (bound : d.Binds place name passed) : Binds (.exportNamed d) place name passed
  | exportDefault {d : Declaration} {place : List Nat} {name : String} {passed : Bool}
      (bound : d.Binds place name passed) : Binds (.exportDefault d) place name true

/-- What `binds` tells of one of a row of things, told of the row: the first number of a place says
which of them. -/
def Within {α : Type} (at? : Nat → Option α) (binds : α → List Nat → String → Bool → Prop)
    (place : List Nat) (name : String) (passed : Bool) : Prop :=
  ∃ i inner x, place = i :: inner ∧ at? i = some x ∧ binds x inner name passed

def Module.Binds (m : Module) : List Nat → String → Bool → Prop :=
  Within (fun i => m.body[i]?) Statement.Binds

/-- The names are those that are bound at some place, each once for a place, in source order. -/
def Lists (names : List String) (binds : List Nat → String → Prop) : Prop :=
  ∃ found : List (List Nat × String), found.map Prod.snd = names ∧
    found.Pairwise (fun a b => a.1 < b.1) ∧
    ∀ place name, (place, name) ∈ found ↔ binds place name

/-! ## All places in order -/

/-- A place with the name that is bound there. -/
structure Finding where
  place : List Nat
  name : String
  passed : Bool

namespace Finding

def under (i : Nat) (f : Finding) : Finding := { f with place := i :: f.place }

/-- The place in a row that has one thing more in front. -/
def later (f : Finding) : Finding :=
  match f.place with
  | [] => f
  | i :: inner => { f with place := (i + 1) :: inner }

def pass (f : Finding) : Finding := { f with passed := true }

def named (f : Finding) : List Nat × String := (f.place, f.name)

theorem mem_map_named {found : List Finding} {place : List Nat} {name : String} :
    (place, name) ∈ found.map named ↔ ∃ passed, ⟨place, name, passed⟩ ∈ found := by
  simp only [List.mem_map, named, Prod.mk.injEq]
  constructor
  · rintro ⟨f, member, rfl, rfl⟩
    exact ⟨f.passed, member⟩
  · rintro ⟨passed, member⟩
    exact ⟨_, member, rfl, rfl⟩

end Finding

theorem nodup_of_places {found : List (List Nat × String)}
    (ordered : found.Pairwise fun a b => a.1 < b.1) : found.Nodup := by
  refine ordered.imp ?_
  rintro a b before rfl
  exact List.lt_irrefl _ before

/-- The names that are found without passing a default. -/
def plainNames (found : List Finding) : List String :=
  (found.filter (!·.passed)).map Finding.name

/-- `found` holds what `binds` tells, in source order. -/
structure Charts (found : List Finding) (binds : List Nat → String → Bool → Prop) : Prop where
  ordered : found.Pairwise (fun a b => a.place < b.place)
  mem_iff : ∀ f : Finding, f ∈ found ↔ binds f.place f.name f.passed

@[simp]
theorem plainNames_nil : plainNames [] = [] := rfl

@[simp]
theorem plainNames_append (found more : List Finding) :
    plainNames (found ++ more) = plainNames found ++ plainNames more := by
  simp [plainNames]

@[simp]
theorem plainNames_under (i : Nat) (found : List Finding) :
    plainNames (found.map (.under i)) = plainNames found := by
  simp only [plainNames, List.filter_map, List.map_map]
  rfl

@[simp]
theorem plainNames_later (found : List Finding) :
    plainNames (found.map .later) = plainNames found := by
  have same : ∀ f : Finding, f.later.passed = f.passed ∧ f.later.name = f.name := fun f => by
    unfold Finding.later; split <;> exact ⟨rfl, rfl⟩
  induction found with
  | nil => rfl
  | cons f found ih => simp_all [plainNames, List.filter_cons]; split <;> simp_all

@[simp]
theorem plainNames_pass (found : List Finding) : plainNames (found.map .pass) = [] := by
  simp [plainNames, Finding.pass]

theorem Finding.later_lt {a b : Finding} (before : a.place < b.place) :
    a.later.place < b.later.place := by
  unfold later
  rcases a with ⟨_ | ⟨i, a⟩, _, _⟩ <;> rcases b with ⟨_ | ⟨j, b⟩, _, _⟩ <;>
    simp_all [List.cons_lt_cons_iff]

namespace Charts

theorem nil {binds : List Nat → String → Bool → Prop}
    (empty : ∀ place name passed, ¬ binds place name passed) : Charts [] binds where
  ordered := .nil
  mem_iff f := by simpa using empty f.place f.name f.passed

theorem single (text : String) {binds : List Nat → String → Bool → Prop}
    (only : ∀ place name passed, binds place name passed ↔ place = [] ∧ name = text ∧ passed = false) :
    Charts [⟨[], text, false⟩] binds where
  ordered := List.pairwise_singleton _ _
  mem_iff f := by rw [only, List.mem_singleton, Finding.mk.injEq]

theorem congr {found : List Finding} {binds binds' : List Nat → String → Bool → Prop}
    (charts : Charts found binds)
    (same : ∀ place name passed, binds' place name passed ↔ binds place name passed) :
    Charts found binds' where
  ordered := charts.ordered
  mem_iff f := by rw [charts.mem_iff, same]

theorem pass {found : List Finding} {binds : List Nat → String → Bool → Prop}
    (charts : Charts found binds) :
    Charts (found.map .pass) fun place name passed => passed = true ∧ ∃ before, binds place name before where
  ordered := List.pairwise_map.2 charts.ordered
  mem_iff f := by
    rw [List.mem_map]
    constructor
    · rintro ⟨g, member, rfl⟩
      exact ⟨rfl, g.passed, (charts.mem_iff g).1 member⟩
    · obtain ⟨place, name, passed⟩ := f
      rintro ⟨rfl, before, bound⟩
      exact ⟨⟨place, name, before⟩, (charts.mem_iff _).2 bound, rfl⟩

section

variable {α : Type} {binds : α → List Nat → String → Bool → Prop} {at? tail? : Nat → Option α}
variable {first more : List Finding} {x : α}

/-- A row with a hole in front. -/
theorem skip (charts : Charts more (Within tail? binds)) (zero : at? 0 = none)
    (succ : ∀ i, at? (i + 1) = tail? i) : Charts (more.map .later) (Within at? binds) where
  ordered := List.pairwise_map.2 (charts.ordered.imp Finding.later_lt)
  mem_iff f := by
    rw [List.mem_map]
    constructor
    · rintro ⟨g, member, rfl⟩
      obtain ⟨i, inner, x, placed, found, bound⟩ := (charts.mem_iff g).1 member
      obtain ⟨place, name, passed⟩ := g
      subst placed
      exact ⟨i + 1, inner, x, rfl, by rw [succ, found], bound⟩
    · obtain ⟨place, name, passed⟩ := f
      rintro ⟨i, inner, x, rfl, found, bound⟩
      cases i with
      | zero => simp [zero] at found
      | succ i =>
        rw [succ] at found
        exact ⟨⟨i :: inner, name, passed⟩, (charts.mem_iff _).2 ⟨i, inner, x, rfl, found, bound⟩, rfl⟩

theorem behind (charts : Charts more (Within tail? binds)) :
    Charts (more.map .later) (Within (fun | 0 => none | i + 1 => tail? i) binds) :=
  charts.skip rfl fun _ => rfl

/-- A row with `x` in front. -/
theorem cons (head : Charts first (binds x)) (tail : Charts more (Within tail? binds))
    (zero : at? 0 = some x) (succ : ∀ i, at? (i + 1) = tail? i) :
    Charts (first.map (.under 0) ++ more.map .later) (Within at? binds) where
  ordered := by
    have rest := tail.behind
    refine List.pairwise_append.2 ⟨List.pairwise_map.2 (head.ordered.imp ?_), rest.ordered, ?_⟩
    · intro a b before
      simpa [Finding.under, List.cons_lt_cons_iff] using before
    · intro a below b behind
      obtain ⟨a, -, rfl⟩ := List.mem_map.1 below
      obtain ⟨_ | i, inner, y, placed, found, -⟩ := (rest.mem_iff b).1 behind
      · simp at found
      · simp [placed, Finding.under, List.cons_lt_cons_iff]
  mem_iff f := by
    have rest := tail.behind
    rw [List.mem_append, rest.mem_iff, List.mem_map]
    obtain ⟨place, name, passed⟩ := f
    constructor
    · rintro (⟨g, member, same⟩ | ⟨_ | i, inner, y, placed, found, bound⟩)
      · obtain ⟨rfl, rfl, rfl⟩ := same
        exact ⟨0, g.place, x, rfl, zero, (head.mem_iff g).1 member⟩
      · simp at found
      · exact ⟨i + 1, inner, y, placed, by rw [succ]; exact found, bound⟩
    · rintro ⟨_ | i, inner, y, placed, found, bound⟩
      · obtain rfl : x = y := Option.some.inj (zero.symm.trans found)
        exact .inl ⟨⟨inner, name, passed⟩, (head.mem_iff _).2 bound, by simp_all [Finding.under]⟩
      · exact .inr ⟨i + 1, inner, y, placed, (succ i).symm.trans found, bound⟩

end

end Charts

/-- Some list holds what `binds` tells in source order, and `names` are those that it reaches without
passing a default. -/
def Charted (names : List String) (binds : List Nat → String → Bool → Prop) : Prop :=
  ∃ found, Charts found binds ∧ plainNames found = names

namespace Charted

variable {α : Type} {binds : α → List Nat → String → Bool → Prop} {at? tail? : Nat → Option α}
variable {names more : List String} {x : α}

theorem skip (tail : Charted more (Within tail? binds)) (zero : at? 0 = none)
    (succ : ∀ i, at? (i + 1) = tail? i) : Charted more (Within at? binds) := by
  obtain ⟨found, charts, rfl⟩ := tail
  exact ⟨_, charts.skip zero succ, plainNames_later found⟩

theorem cons (head : Charted names (binds x)) (tail : Charted more (Within tail? binds))
    (zero : at? 0 = some x) (succ : ∀ i, at? (i + 1) = tail? i) :
    Charted (names ++ more) (Within at? binds) := by
  obtain ⟨first, charts, rfl⟩ := head
  obtain ⟨found, chartsMore, rfl⟩ := tail
  exact ⟨_, charts.cons chartsMore zero succ, by simp⟩

theorem congr {binds binds' : List Nat → String → Bool → Prop} (charted : Charted names binds)
    (same : ∀ place name passed, binds' place name passed ↔ binds place name passed) :
    Charted names binds' := by
  obtain ⟨found, charts, read⟩ := charted
  exact ⟨found, charts.congr same, read⟩

/-- What is under a default is read by none of the names. -/
theorem pass {binds : List Nat → String → Bool → Prop} (charted : Charted names binds) :
    Charted [] fun place name passed => passed = true ∧ ∃ before, binds place name before := by
  obtain ⟨found, charts, -⟩ := charted
  exact ⟨_, charts.pass, plainNames_pass found⟩

theorem nil {binds : List Nat → String → Bool → Prop}
    (empty : ∀ place name passed, ¬ binds place name passed) : Charted [] binds :=
  ⟨[], .nil empty, rfl⟩

theorem flatMap {read : α → List String} (each : ∀ x, Charted (read x) (binds x)) (xs : List α) :
    Charted (xs.flatMap read) (Within (fun i => xs[i]?) binds) := by
  induction xs with
  | nil => exact .nil fun _ _ _ ⟨_, _, _, _, found, _⟩ => by simp at found
  | cons x xs ih => exact (each x).cons ih rfl fun _ => rfl

/-- The names that are read are those bound without passing a default, and they are all that are
bound exactly when there is no other. -/
theorem lists {binds : List Nat → String → Bool → Prop} (charted : Charted names binds) :
    Lists names (fun place name => binds place name false) ∧
      (Lists names (fun place name => ∃ passed, binds place name passed) ↔
        ¬ ∃ place name, binds place name true) := by
  obtain ⟨found, charts, rfl⟩ := charted
  have plain : Lists (plainNames found) fun place name => binds place name false := by
    refine ⟨(found.filter (!·.passed)).map Finding.named, by simp [plainNames, Finding.named],
      List.pairwise_map.2 (charts.ordered.filter _), fun place name => ?_⟩
    rw [Finding.mem_map_named]
    simpa using charts.mem_iff ⟨place, name, false⟩
  refine ⟨plain, ?_, fun none => ?_⟩
  · rintro ⟨all, read, ordered, mem_iff⟩ ⟨place, name, bound⟩
    -- The two lists of places have the same members and no member twice, so that the names read,
    -- as many as there are members, leave none out.
    have same : all.Perm (found.map Finding.named) := by
      refine (List.perm_ext_iff_of_nodup (nodup_of_places ordered)
        (nodup_of_places (List.pairwise_map.2 charts.ordered))).2 fun ⟨place, name⟩ => ?_
      simp only [mem_iff, Finding.mem_map_named, charts.mem_iff]
    have counted : (found.filter (!·.passed)).length = found.length := by
      have lengths := congrArg List.length read
      rw [List.length_map, same.length_eq, List.length_map, plainNames, List.length_map] at lengths
      exact lengths.symm
    have kept := List.length_filter_eq_length_iff.1 counted _
      ((charts.mem_iff ⟨place, name, true⟩).2 bound)
    simp at kept
  · have same : (fun place name => ∃ passed, binds place name passed) =
        fun place name => binds place name false := by
      funext place name
      refine propext ⟨fun ⟨passed, bound⟩ => ?_, fun bound => ⟨false, bound⟩⟩
      cases passed with
      | false => exact bound
      | true => exact absurd ⟨place, name, bound⟩ none
    rwa [same]

end Charted

/-! ## Patterns, statements and modules -/

section

variable {place : List Nat} {name : String} {passed : Bool}

theorem Pattern.binds_name_iff {text : String} :
    (Pattern.name text).Binds place name passed ↔ place = [] ∧ name = text ∧ passed = false := by
  constructor
  · rintro ⟨⟩
    exact ⟨rfl, rfl, rfl⟩
  · rintro ⟨rfl, rfl, rfl⟩
    exact .name _

theorem Pattern.binds_object_iff {parts : Parts} :
    (Pattern.object parts).Binds place name passed ↔
      Within parts.at? Pattern.Binds place name passed := by
  constructor
  · rintro (_ | ⟨found, bound⟩)
    exact ⟨_, _, _, rfl, found, bound⟩
  · rintro ⟨i, inner, part, rfl, found, bound⟩
    exact .object found bound

theorem Pattern.binds_array_iff {parts : Parts} :
    (Pattern.array parts).Binds place name passed ↔
      Within parts.at? Pattern.Binds place name passed := by
  constructor
  · rintro (_ | _ | ⟨found, bound⟩)
    exact ⟨_, _, _, rfl, found, bound⟩
  · rintro ⟨i, inner, part, rfl, found, bound⟩
    exact .array found bound

theorem Pattern.binds_withDefault_iff {target : Pattern} :
    (Pattern.withDefault target).Binds place name passed ↔
      passed = true ∧ ∃ before, target.Binds place name before := by
  constructor
  · rintro (_ | _ | _ | bound)
    exact ⟨rfl, _, bound⟩
  · rintro ⟨rfl, before, bound⟩
    exact .withDefault bound

theorem Declaration.binds_bindings_iff {patterns : List Pattern} :
    (Declaration.bindings patterns).Binds place name passed ↔
      Within (fun i => patterns[i]?) Pattern.Binds place name passed := by
  constructor
  · rintro ⟨found, bound⟩
    exact ⟨_, _, _, rfl, found, bound⟩
  · rintro ⟨i, inner, pattern, rfl, found, bound⟩
    exact .bindings found bound

end

theorem Parts.charted_done : Charted [] (Within Parts.done.at? Pattern.Binds) :=
  .nil fun _ _ _ ⟨_, _, _, _, found, _⟩ => by simp [Parts.at?] at found

mutual

theorem Pattern.charted : ∀ p : Pattern, Charted p.names p.Binds
  | .name _ => ⟨_, .single _ fun _ _ _ => Pattern.binds_name_iff, rfl⟩
  | .object parts => parts.charted.congr fun _ _ _ => Pattern.binds_object_iff
  | .array parts => parts.charted.congr fun _ _ _ => Pattern.binds_array_iff
  | .withDefault target => target.charted.pass.congr fun _ _ _ => Pattern.binds_withDefault_iff

theorem Parts.charted : ∀ parts : Parts, Charted parts.names (Within parts.at? Pattern.Binds)
  | .done => Parts.charted_done
  | .hole rest => rest.charted.skip rfl fun _ => rfl
  | .item pattern rest => pattern.charted.cons rest.charted rfl fun _ => rfl
  | .spread pattern => by
      have alone : Charted (pattern.names ++ []) (Within (Parts.spread pattern).at? Pattern.Binds) :=
        pattern.charted.cons Parts.charted_done rfl fun _ => rfl
      rwa [List.append_nil] at alone

end

theorem Declaration.charted (d : Declaration) : Charted d.names d.Binds := by
  cases d with
  | bindings patterns =>
    exact (Charted.flatMap Pattern.charted patterns).congr fun _ _ _ => binds_bindings_iff
  | function name =>
    cases name with
    | none => exact .nil fun _ _ _ bound => nomatch bound
    | some text =>
      refine ⟨_, .single text fun _ _ _ => ⟨?_, ?_⟩, rfl⟩
      · rintro ⟨⟩
        exact ⟨rfl, rfl, rfl⟩
      · rintro ⟨rfl, rfl, rfl⟩
        exact .function _
  | classType name =>
    cases name with
    | none => exact .nil fun _ _ _ bound => nomatch bound
    | some text =>
      refine ⟨_, .single text fun _ _ _ => ⟨?_, ?_⟩, rfl⟩
      · rintro ⟨⟩
        exact ⟨rfl, rfl, rfl⟩
      · rintro ⟨rfl, rfl, rfl⟩
        exact .classType _
  | silent => exact .nil fun _ _ _ bound => nomatch bound

theorem Statement.charted (s : Statement) : Charted s.names s.Binds := by
  cases s with
  | declaration d =>
    refine d.charted.congr fun _ _ _ => ⟨?_, .declaration⟩
    rintro ⟨bound⟩
    exact bound
  | exportNamed d =>
    refine d.charted.congr fun _ _ _ => ⟨?_, .exportNamed⟩
    rintro (_ | bound)
    exact bound
  | exportDefault d =>
    refine d.charted.pass.congr fun _ _ _ => ⟨?_, ?_⟩
    · rintro (_ | _ | bound)
      exact ⟨rfl, _, bound⟩
    · rintro ⟨rfl, before, bound⟩
      exact .exportDefault bound
  | directive text => exact .nil fun _ _ _ bound => nomatch bound
  | other => exact .nil fun _ _ _ bound => nomatch bound

theorem Module.charted (m : Module) : Charted m.names m.Binds :=
  .flatMap Statement.charted m.body

end ComponentMarkup.Script

namespace ComponentMarkup
open Script

end ComponentMarkup
