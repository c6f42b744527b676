import ComponentMarkup.Proofs.Annotated.File
import ComponentMarkup.Proofs.Workspace.Numbers
import ComponentMarkup.Proofs.Workspace.Scopes

/-!
Sessions: the steps of a workspace in any order, each any number of times, between which a host
draws numbers and identifiers of its own. No two of the identifiers are ever the same.
-/

namespace ComponentMarkup

/-! ## Files in a workspace -/

namespace OrderedMap
variable {κ υ α : Type} [BEq κ] {key : κ} {value value' : υ} {entries : List (κ × υ)}

/-- What brings nothing only removes what the value that it replaces has brought. -/
theorem flatMap_write_sublist (f : υ → List α) (nothing : f value = [])
    (entries : List (κ × υ)) : ((write key value entries).flatMap fun entry => f entry.2).Sublist
      (entries.flatMap fun entry => f entry.2) := by
  induction entries with
  | nil =>
      rw [write, List.flatMap_cons, nothing]
      exact .refl _
  | cons entry rest ih =>
      rw [write]
      split
      · rw [List.flatMap_cons, List.flatMap_cons, nothing]
        exact List.sublist_append_right _ _
      · exact ih.append_left _

theorem flatMap_write_perm (f : υ → List α) {more : List α}
    (found : (mk entries).find? key = some value) (added : (f value').Perm (f value ++ more)) :
    ((write key value' entries).flatMap fun entry => f entry.2).Perm
      ((entries.flatMap fun entry => f entry.2) ++ more) := by
  induction entries with
  | nil => cases found
  | cons entry rest ih =>
      rw [find?, List.find?_cons] at found
      rw [write]
      cases here : entry.1 == key with
      | true =>
          rw [here] at found
          obtain rfl := Option.some.inj found
          rw [if_pos rfl, List.flatMap_cons, List.flatMap_cons, List.append_assoc]
          refine (added.append_right _).trans ?_
          rw [List.append_assoc]
          exact List.perm_append_comm.append_left _
      | false =>
          rw [here] at found
          rw [if_neg Bool.false_ne_true, List.flatMap_cons, List.flatMap_cons, List.append_assoc]
          exact (ih found).append_left _

end OrderedMap

theorem toNat_drawnFrom {c : UInt64} {count : Nat} (few : c.toNat + count < 2 ^ 64) :
    (drawnFrom c count).map UInt64.toNat = List.range' c.toNat count := by
  rw [drawnFrom, List.map_map, List.range'_eq_map_range]
  refine List.map_congr_left fun i member => ?_
  have below := List.mem_range.1 member
  have small : i < 2 ^ 64 := by omega
  rw [Function.comp_apply, UInt64.toNat_add, UInt64.toNat_ofNat_of_lt' small,
    Nat.mod_eq_of_lt (by omega)]

theorem nodup_of_filterMap {α β : Type} (f : α → Option β) {l : List α}
    (all : ∀ a ∈ l, (f a).isSome = true) (distinct : (l.filterMap f).Nodup) : l.Nodup := by
  induction l with
  | nil => exact List.nodup_nil
  | cons a l ih =>
      obtain ⟨here, later⟩ := List.forall_mem_cons.1 all
      obtain ⟨b, image⟩ := Option.isSome_iff_exists.1 here
      rw [List.filterMap_cons_some image, List.nodup_cons] at distinct
      refine List.nodup_cons.2 ⟨fun again => ?_, ih later distinct.2⟩
      exact distinct.1 (List.mem_filterMap.2 ⟨a, again, image⟩)

namespace Workspace

/-- The generated identifiers in the current files. -/
def held (w : Workspace) : List String := w.files.entries.flatMap fun entry => entry.2.annotations.held

theorem numbers_held (w : Workspace) : w.held.filterMap identifierNumber? =
    w.files.entries.flatMap fun entry => entry.2.annotations.held.filterMap identifierNumber? :=
  List.filterMap_flatMap

/-- Every annotation of every file has an identifier of its kind, or none. -/
def Labelled (w : Workspace) : Prop := ∀ entry ∈ w.files.entries, entry.2.annotations.Labelled

theorem Labelled.generated {w : Workspace} (labelled : w.Labelled) {identifier : String}
    (member : identifier ∈ w.held) : ∃ n, identifierNumber? identifier = some n ∧
      (identifier = elementIdentifier n ∨ identifier = textIdentifier n) := by
  obtain ⟨entry, listed, here⟩ := List.mem_flatMap.1 member
  exact (labelled entry listed).generated here

theorem Labelled.length_numbers {w : Workspace} (labelled : w.Labelled) :
    (w.held.filterMap identifierNumber?).length = w.held.length := by
  refine List.filterMap_length_eq_length.2 fun identifier member => ?_
  obtain ⟨n, number, -⟩ := labelled.generated member
  rw [number]
  rfl

/-- What the file at a path has annotated is annotated in `w'` and has its identifier there. -/
def Keeps (w w' : Workspace) (path : Path) : Prop :=
  ∀ file, w.files.find? path = some file →
    ∃ file', w'.files.find? path = some file' ∧ file.annotations.Keeps file'.annotations

/-- A step from `w` to `w'` that draws `count` numbers, all for identifiers of annotations. -/
structure Draws (count : Nat) (w w' : Workspace) : Prop where
  counter : w'.counter = w.counter + UInt64.ofNat count
  numbers : (w'.held.filterMap identifierNumber?).Perm
    (w.held.filterMap identifierNumber? ++ drawnFrom w.counter count)
  labelled : w.Labelled → w'.Labelled
  keeps : ∀ path, w.Keeps w' path

theorem Keeps.trans {w w' w'' : Workspace} {path : Path} (first : w.Keeps w' path)
    (second : w'.Keeps w'' path) : w.Keeps w'' path := by
  intro file found
  obtain ⟨file', found', keeps⟩ := first file found
  obtain ⟨file'', found'', keeps'⟩ := second file' found'
  exact ⟨file'', found'', keeps.trans keeps'⟩

namespace Draws

/-- A step that leaves the files and the counter draws nothing. -/
theorem of_same {w w' : Workspace} (files : w'.files = w.files) (counter : w'.counter = w.counter) :
    Draws 0 w w' where
  counter := counter.trans (UInt64.add_zero _).symm
  numbers := by
    rw [held, files, held]
    exact List.Perm.of_eq (List.append_nil _).symm
  labelled := by
    rw [Labelled, Labelled, files]
    exact id
  keeps path file found := ⟨file, by rw [files]; exact found, .refl _⟩

theorem trans {j k : Nat} {w w' w'' : Workspace} (first : Draws j w w') (second : Draws k w' w'') :
    Draws (j + k) w w'' where
  counter := by
    rw [second.counter, first.counter, UInt64.ofNat_add, UInt64.add_assoc]
  numbers := by
    rw [drawnFrom_add, ← first.counter, ← List.append_assoc]
    exact second.numbers.trans (first.numbers.append_right _)
  labelled labelled := second.labelled (first.labelled labelled)
  keeps path := (first.keeps path).trans (second.keeps path)

/-- A step that replaces the file at a path by one that has annotated more. -/
theorem of_insert {w w' : Workspace} {path : Path} {file file' : SourceFile} {count : Nat}
    (found : w.files.find? path = some file) (files : w'.files = w.files.insert path file')
    (counter : w'.counter = w.counter + UInt64.ofNat count)
    (numbers : (file'.annotations.held.filterMap identifierNumber?).Perm
      (file.annotations.held.filterMap identifierNumber? ++ drawnFrom w.counter count))
    (labelled : file.annotations.Labelled → file'.annotations.Labelled)
    (keeps : file.annotations.Keeps file'.annotations) : Draws count w w' where
  counter := counter
  numbers := by
    rw [numbers_held, numbers_held, files]
    exact OrderedMap.flatMap_write_perm
      (fun file => file.annotations.held.filterMap identifierNumber?) found numbers
  labelled all entry member := by
    rw [files] at member
    rcases OrderedMap.value_of_mem_write member with written | old
    · rw [written]
      obtain ⟨here, listed, -, rfl⟩ := exists_entry_of_find? found
      exact labelled (all here listed)
    · exact all entry old
  keeps other old present := by
    rw [files, OrderedMap.find?_insert]
    cases same : path == other with
    | true =>
        rw [← OrderedMap.find?_eq_of_beq w.files same, found] at present
        obtain rfl := Option.some.inj present
        exact ⟨file', rfl, keeps⟩
    | false => exact ⟨old, present, .refl _⟩

end Draws

theorem draws_link (w : Workspace) (path : Path) : Draws 0 w (w.link path).1 := by
  unfold link
  split
  · exact .of_same rfl rfl
  · next file found =>
    obtain ⟨code, l, linked, -⟩ := linkFile_eq w.files w.scripts w.components file
    rw [linked]
    refine .of_insert found rfl (UInt64.add_zero _).symm ?_ id (.refl _)
    exact List.Perm.of_eq (List.append_nil _).symm

theorem draws_annotate (w : Workspace) (path : Path) : ∃ count, Draws count w (w.annotate path).1 := by
  unfold annotate
  split
  · exact ⟨0, .of_same rfl rfl⟩
  · next file found =>
    let s : Pass := { file, components := w.components, counter := w.counter }
    obtain ⟨count, counted, numbers⟩ := held_annotateFile w.settings.keepBlanks s
    exact ⟨count, .of_insert found rfl counted numbers
      (AnnotatedTree.Labelled.annotateFile w.settings.keepBlanks (s := s))
      (keeps_annotateFile w.settings.keepBlanks s)⟩

/-- What holds of each of several steps and of steps one after the other holds of all of them. -/
theorem each_of_steps {α : Type} {step : Workspace → α → Workspace × Diagnostics}
    {R : Workspace → Workspace → Prop} (refl : ∀ w, R w w)
    (trans : ∀ w w' w'', R w w' → R w' w'' → R w w'') (items : List α)
    (holds : ∀ w, ∀ item ∈ items, R w (step w item).1) (w : Workspace) :
    R w (w.each step items).1 := by
  induction items generalizing w with
  | nil => exact refl w
  | cons item items ih =>
      rw [fst_each_cons]
      exact trans _ _ _ (holds w item List.mem_cons_self)
        (ih (fun w item member => holds w item (List.mem_cons_of_mem _ member)) _)

theorem draws_linkAll (w : Workspace) : Draws 0 w w.linkAll.1 :=
  each_of_steps (R := Draws 0) (fun _ => .of_same rfl rfl)
    (fun _ _ _ first second => first.trans second) _ (fun w path _ => w.draws_link path) w

theorem draws_annotateAll (w : Workspace) : ∃ count, Draws count w w.annotateAll.1 :=
  each_of_steps (R := fun w w' => ∃ count, Draws count w w') (fun _ => ⟨0, .of_same rfl rfl⟩)
    (fun _ _ _ ⟨_, first⟩ ⟨_, second⟩ => ⟨_, first.trans second⟩) _
    (fun w path _ => w.draws_annotate path) w

/-- A step that draws nothing and may take files away, with their identifiers. -/
structure Sheds (w w' : Workspace) : Prop where
  counter : w'.counter = w.counter
  held : w'.held.Sublist w.held
  labelled : w.Labelled → w'.Labelled

theorem sheds_declare (w : Workspace) (source : Source) : Sheds w (w.declare source).1 where
  counter := by rw [declare_fst]
  held := by
    have nothing : (source.file w.settings.packageRoot w.components.size).annotations.held = [] :=
      rfl
    rw [declare_fst]
    exact OrderedMap.flatMap_write_sublist (fun file => file.annotations.held) nothing
      w.files.entries
  labelled all entry member := by
    rw [declare_fst] at member
    rcases OrderedMap.value_of_mem_write member with written | old
    · rw [written]
      intro id a impossible
      cases impossible
    · exact all entry old

theorem sheds_declareAll (w : Workspace) (sources : List Source) :
    Sheds w (w.declareAll sources).1 :=
  each_of_steps (R := Sheds) (fun _ => ⟨rfl, .refl _, id⟩)
    (fun _ _ _ first second => ⟨second.counter.trans first.counter, second.held.trans first.held,
      fun labelled => second.labelled (first.labelled labelled)⟩) _
    (fun w source _ => w.sheds_declare source) w

theorem keeps_declareAll {w : Workspace} {sources : List Source} {path : Path}
    (others : ∀ source ∈ sources, (source.path == path) = false) :
    w.Keeps (w.declareAll sources).1 path := by
  intro file found
  exact ⟨file, (find?_declareAll others).trans found, .refl _⟩

end Workspace

/-! ## Sessions -/

/-- What a host can do with a workspace. -/
inductive Action where
  | addScript (path : Path) (source : String)
  | declare (sources : List Source)
  | link (path : Path)
  | linkAll
  | annotate (path : Path)
  | annotateAll
  | keepBlanks (keep : Bool)
  | drawNumber
  | drawElement
  | drawText

/-- Whether an action puts another file at a path. -/
def Action.Declares (path : Path) : Action → Prop
  | .declare sources => ∃ source ∈ sources, (source.path == path) = true
  | _ => False

structure Session where
  workspace : Workspace
  /-- The numbers that the host has drawn, with the identifiers that were made of them. -/
  handed : List (UInt64 × Option String) := []
  /-- How many numbers have been drawn. -/
  drawn : Nat := 0

namespace Session

/-- The session after files are annotated. What is drawn for annotations goes into their
identifiers. -/
def annotated (s : Session) (w : Workspace) : Session :=
  { s with workspace := w, drawn := s.drawn + (w.held.length - s.workspace.held.length) }

/-- Draws a number and hands it out, or the identifier made of it. -/
def hand (s : Session) (spell : UInt64 → Option String) : Session :=
  let (n, w) := s.workspace.drawNumber
  { workspace := w, handed := (n, spell n) :: s.handed, drawn := s.drawn + 1 }

def step (s : Session) : Action → Session
  | .addScript path source => { s with workspace := (s.workspace.addScript path source).1 }
  | .declare sources => { s with workspace := (s.workspace.declareAll sources).1 }
  | .link path => { s with workspace := (s.workspace.link path).1 }
  | .linkAll => { s with workspace := s.workspace.linkAll.1 }
  | .annotate path => s.annotated (s.workspace.annotate path).1
  | .annotateAll => s.annotated s.workspace.annotateAll.1
  | .keepBlanks keep => { s with workspace := s.workspace.keepBlanks keep }
  | .drawNumber => s.hand fun _ => none
  | .drawElement => s.hand fun n => some (elementIdentifier n)
  | .drawText => s.hand fun n => some (textIdentifier n)

def steps (s : Session) (actions : List Action) : Session := actions.foldl step s

/-- The session of a workspace that has no files yet. -/
def run (settings : Settings) (actions : List Action) : Session :=
  ({ workspace := { settings } } : Session).steps actions

/-- The identifiers in the files and those that the host has. -/
def identifiers (s : Session) : List String := s.workspace.held ++ s.handed.filterMap Prod.snd

/-- The numbers in the identifiers, and those that the host has. -/
def numbers (s : Session) : List UInt64 :=
  s.workspace.held.filterMap identifierNumber? ++ s.handed.map Prod.fst

/-- An identifier made of the number `n`, which can be read off it. -/
def Spells (n : UInt64) (identifier : String) : Prop :=
  identifierNumber? identifier = some n ∧
    (identifier = elementIdentifier n ∨ identifier = textIdentifier n)

/-- No two identifiers are equal, no two numbers are, and each identifier has its number. -/
structure Unambiguous (s : Session) : Prop where
  identifiers : s.identifiers.Nodup
  numbers : s.numbers.Nodup
  below : ∀ n ∈ s.numbers, n < s.workspace.counter
  held : ∀ identifier ∈ s.workspace.held, ∃ n ∈ s.numbers, Spells n identifier
  handed : ∀ n identifier, (n, some identifier) ∈ s.handed → n ∈ s.numbers ∧ Spells n identifier

/-- The numbers are different ones below the count of draws, and the counter is that count. -/
structure Counts (s : Session) : Prop where
  counter : s.workspace.counter.toNat = s.drawn
  different : (s.numbers.map UInt64.toNat).Nodup
  below : ∀ n ∈ s.numbers, n.toNat < s.drawn
  labelled : s.workspace.Labelled
  handed : ∀ n identifier, (n, some identifier) ∈ s.handed → Spells n identifier

variable {s s' : Session}

namespace Counts

/-- Drawing more numbers leaves all of them different. -/
theorem draw {count : Nat} (counts : s.Counts) (few : s'.drawn < 2 ^ 64)
    (drawn : s'.drawn = s.drawn + count)
    (counter : s'.workspace.counter = s.workspace.counter + UInt64.ofNat count)
    (numbers : s'.numbers.Perm (s.numbers ++ drawnFrom s.workspace.counter count))
    (labelled : s'.workspace.Labelled)
    (handed : ∀ n identifier, (n, some identifier) ∈ s'.handed → Spells n identifier) :
    s'.Counts := by
  have room : s.workspace.counter.toNat + count < 2 ^ 64 := by
    rw [counts.counter, ← drawn]
    exact few
  have fresh : (drawnFrom s.workspace.counter count).map UInt64.toNat =
      List.range' s.drawn count := by
    rw [toNat_drawnFrom room, counts.counter]
  have all := numbers.map UInt64.toNat
  rw [List.map_append, fresh] at all
  have below : ∀ n ∈ s.numbers.map UInt64.toNat, n < s.drawn := by
    intro n member
    obtain ⟨m, listed, rfl⟩ := List.mem_map.1 member
    exact counts.below m listed
  refine ⟨?_, ?_, fun n member => ?_, labelled, handed⟩
  · have small : count < 2 ^ 64 := by omega
    rw [counter, UInt64.toNat_add, UInt64.toNat_ofNat_of_lt' small, Nat.mod_eq_of_lt room,
      counts.counter, drawn]
  · refine all.nodup_iff.2 (List.nodup_append.2 ⟨counts.different, List.nodup_range', ?_⟩)
    intro n old m new
    exact Nat.ne_of_lt (Nat.lt_of_lt_of_le (below n old) (List.mem_range'_1.1 new).1)
  · rw [drawn]
    rcases List.mem_append.1 (all.mem_iff.1 (List.mem_map_of_mem member)) with old | new
    · exact Nat.lt_add_right _ (below _ old)
    · exact (List.mem_range'_1.1 new).2

theorem hand {spell : UInt64 → Option String} (counts : s.Counts) (few : (s.hand spell).drawn < 2 ^ 64)
    (spells : ∀ n identifier, spell n = some identifier → Spells n identifier) :
    (s.hand spell).Counts := by
  refine counts.draw few rfl rfl ?_ counts.labelled fun n identifier member => ?_
  · have single : drawnFrom s.workspace.counter 1 = [s.workspace.counter] := by
      simp [drawnFrom]
    rw [single, numbers, numbers, List.append_assoc]
    exact (List.perm_append_singleton _ _).symm.append_left _
  · rcases List.mem_cons.1 member with here | later
    · obtain ⟨rfl, same⟩ := Prod.mk.inj here
      exact spells _ _ same.symm
    · exact counts.handed n identifier later

theorem annotated {w : Workspace} {count : Nat} (counts : s.Counts)
    (draws : Workspace.Draws count s.workspace w) (few : (s.annotated w).drawn < 2 ^ 64) :
    (s.annotated w).Counts := by
  have labelled := draws.labelled counts.labelled
  have gained : w.held.length = s.workspace.held.length + count := by
    rw [← labelled.length_numbers, draws.numbers.length_eq, List.length_append,
      counts.labelled.length_numbers, drawnFrom, List.length_map, List.length_range]
  refine counts.draw few ?_ draws.counter ?_ labelled counts.handed
  · rw [Session.annotated, gained, Nat.add_sub_cancel_left]
  · refine (draws.numbers.append_right _).trans ?_
    rw [numbers, List.append_assoc, List.append_assoc]
    exact List.perm_append_comm.append_left _

/-- What a session holds after a step that draws nothing is some of what it held before. -/
theorem shed {w : Workspace} (counts : s.Counts) (sheds : Workspace.Sheds s.workspace w) :
    ({ s with workspace := w } : Session).Counts := by
  have fewer : (({ s with workspace := w } : Session).numbers).Sublist s.numbers :=
    (sheds.held.filterMap _).append_right _
  exact ⟨(congrArg UInt64.toNat sheds.counter).trans counts.counter,
    counts.different.sublist (fewer.map _), fun n member => counts.below n (fewer.mem member),
    sheds.labelled counts.labelled, counts.handed⟩

theorem keep {w : Workspace} (counts : s.Counts) (draws : Workspace.Draws 0 s.workspace w) :
    ({ s with workspace := w } : Session).Counts := by
  have same : (({ s with workspace := w } : Session).numbers).Perm s.numbers :=
    (draws.numbers.trans (List.Perm.of_eq (List.append_nil _))).append_right _
  refine ⟨?_, (same.map _).nodup_iff.2 counts.different,
    fun n member => counts.below n (same.mem_iff.1 member), draws.labelled counts.labelled,
    counts.handed⟩
  exact (congrArg UInt64.toNat (draws.counter.trans (UInt64.add_zero _))).trans counts.counter

theorem step {action : Action} (counts : s.Counts) (few : (s.step action).drawn < 2 ^ 64) :
    (s.step action).Counts := by
  cases action with
  | addScript path source => exact counts.keep (.of_same rfl rfl)
  | declare sources => exact counts.shed (s.workspace.sheds_declareAll sources)
  | link path => exact counts.keep (s.workspace.draws_link path)
  | linkAll => exact counts.keep s.workspace.draws_linkAll
  | annotate path =>
      obtain ⟨count, draws⟩ := s.workspace.draws_annotate path
      exact counts.annotated draws few
  | annotateAll =>
      obtain ⟨count, draws⟩ := s.workspace.draws_annotateAll
      exact counts.annotated draws few
  | keepBlanks keep => exact counts.keep (.of_same rfl rfl)
  | drawNumber => exact counts.hand few fun n identifier impossible => nomatch impossible
  | drawElement =>
      refine counts.hand few fun n identifier same => ?_
      obtain rfl := Option.some.inj same
      exact ⟨identifierNumber?_elementIdentifier n, .inl rfl⟩
  | drawText =>
      refine counts.hand few fun n identifier same => ?_
      obtain rfl := Option.some.inj same
      exact ⟨identifierNumber?_textIdentifier n, .inr rfl⟩

end Counts

theorem drawn_le_step (s : Session) (action : Action) : s.drawn ≤ (s.step action).drawn := by
  cases action with
  | addScript | declare | link | linkAll | keepBlanks => exact Nat.le_refl _
  | annotate | annotateAll | drawNumber | drawElement | drawText => exact Nat.le_add_right _ _

theorem drawn_le_steps (s : Session) (actions : List Action) : s.drawn ≤ (s.steps actions).drawn := by
  induction actions generalizing s with
  | nil => exact Nat.le_refl _
  | cons action actions ih => exact (s.drawn_le_step action).trans (ih _)

theorem Counts.steps {actions : List Action} (counts : s.Counts)
    (few : (s.steps actions).drawn < 2 ^ 64) : (s.steps actions).Counts := by
  induction actions generalizing s with
  | nil => exact counts
  | cons action actions ih =>
      have first := Nat.lt_of_le_of_lt ((s.step action).drawn_le_steps actions) few
      exact ih (counts.step first) few

theorem keeps_step {action : Action} {path : Path} (other : ¬ action.Declares path) :
    s.workspace.Keeps (s.step action).workspace path := by
  cases action with
  | addScript script source => exact (Workspace.Draws.of_same rfl rfl).keeps path
  | declare sources =>
      exact Workspace.keeps_declareAll fun source member =>
        Bool.eq_false_iff.2 fun same => other ⟨source, member, same⟩
  | link linked => exact (s.workspace.draws_link linked).keeps path
  | linkAll => exact s.workspace.draws_linkAll.keeps path
  | annotate annotated =>
      obtain ⟨count, draws⟩ := s.workspace.draws_annotate annotated
      exact draws.keeps path
  | annotateAll =>
      obtain ⟨count, draws⟩ := s.workspace.draws_annotateAll
      exact draws.keeps path
  | keepBlanks keep => exact (Workspace.Draws.of_same rfl rfl).keeps path
  | drawNumber | drawElement | drawText => exact (Workspace.Draws.of_same rfl rfl).keeps path

theorem keeps_steps {actions : List Action} {path : Path}
    (others : ∀ action ∈ actions, ¬ action.Declares path) :
    s.workspace.Keeps (s.steps actions).workspace path := by
  induction actions generalizing s with
  | nil => exact (Workspace.Draws.of_same rfl rfl).keeps path
  | cons action actions ih =>
      obtain ⟨here, later⟩ := List.forall_mem_cons.1 others
      exact (keeps_step here).trans (ih later)

/-- The numbers in the identifiers that are handed out are among those that are. -/
theorem numbers_handed {handed : List (UInt64 × Option String)}
    (spelled : ∀ n identifier, (n, some identifier) ∈ handed → Spells n identifier) :
    ((handed.filterMap Prod.snd).filterMap identifierNumber?).Sublist (handed.map Prod.fst) := by
  induction handed with
  | nil => exact .refl _
  | cons entry handed ih =>
      have rest := ih fun n identifier member => spelled n identifier (List.mem_cons_of_mem _ member)
      obtain ⟨n, _ | identifier⟩ := entry
      · exact rest.cons _
      · have number := (spelled n identifier List.mem_cons_self).1
        have shown : ((n, some identifier) :: handed).filterMap Prod.snd =
            identifier :: handed.filterMap Prod.snd := rfl
        rw [shown, List.filterMap_cons_some number, List.map_cons]
        exact rest.cons_cons _

theorem Counts.unambiguous (counts : s.Counts) : s.Unambiguous := by
  have different : s.numbers.Nodup := counts.different.of_map _
  have handed := numbers_handed counts.handed
  have held {identifier : String} (member : identifier ∈ s.workspace.held) :
      ∃ n ∈ s.numbers, Spells n identifier := by
    obtain ⟨n, number, spelled⟩ := counts.labelled.generated member
    exact ⟨n, List.mem_append_left _ (List.mem_filterMap.2 ⟨identifier, member, number⟩), number,
      spelled⟩
  refine ⟨?_, different, fun n member => ?_, fun identifier => held, fun n identifier member => ?_⟩
  · refine nodup_of_filterMap identifierNumber? (fun identifier member => ?_) ?_
    · rcases List.mem_append.1 member with inFile | isHanded
      · obtain ⟨n, -, number, -⟩ := held inFile
        rw [number]
        rfl
      · obtain ⟨⟨n, _⟩, listed, rfl⟩ := List.mem_filterMap.1 isHanded
        rw [(counts.handed n identifier listed).1]
        rfl
    · rw [identifiers, List.filterMap_append]
      exact different.sublist (handed.append_left _)
  · rw [UInt64.lt_iff_toNat_lt, counts.counter]
    exact counts.below n member
  · exact ⟨List.mem_append_right _ (List.mem_map_of_mem member), counts.handed n identifier member⟩

/-- However the steps of a workspace and the draws of its host follow each other, as long as fewer
than `2 ^ 64` numbers are drawn the identifiers in the files and those of the host are different,
and so are their numbers. What is annotated has its identifier for as long as its file is there. -/
theorem unambiguous_run (settings : Settings) (actions : List Action)
    (few : (run settings actions).drawn < 2 ^ 64) :
    (run settings actions).Unambiguous ∧
      (run settings actions).workspace.counter.toNat = (run settings actions).drawn ∧
      ∀ (later : List Action) (path : Path), (∀ action ∈ later, ¬ action.Declares path) →
        (run settings actions).workspace.Keeps (run settings (actions ++ later)).workspace path := by
  have start : ({ workspace := { settings } } : Session).Counts := by
    refine ⟨rfl, List.nodup_nil, ?_, ?_, ?_⟩
    · intro n impossible
      cases impossible
    · intro entry impossible
      cases impossible
    · intro n identifier impossible
      cases impossible
  have counts : (run settings actions).Counts := start.steps few
  refine ⟨counts.unambiguous, counts.counter, fun later path others => ?_⟩
  have whole : run settings (actions ++ later) = (run settings actions).steps later :=
    List.foldl_append
  rw [whole]
  exact keeps_steps others

/-- A paragraph is annotated, and once more after the host has drawn an identifier. -/
def annotatedTwice : List Action :=
  [.declare [{ path := ⟨"a.html"⟩, document := Workspace.boundParagraph }], .linkAll, .annotateAll,
    .drawElement, .annotate ⟨"a.html"⟩, .drawText, .drawNumber]

theorem unambiguous_run_annotatedTwice :
    (run {} annotatedTwice).drawn < 2 ^ 64 ∧ (run {} annotatedTwice).Unambiguous ∧
      (run {} annotatedTwice).workspace.counter = 7 ∧
      (run {} annotatedTwice).identifiers =
        ["__e-1", "__binding0", "__e-4", "__binding3", "__binding5", "__e-2"] :=
  have few : (run {} annotatedTwice).drawn < 2 ^ 64 := by decide +kernel
  ⟨few, (unambiguous_run {} annotatedTwice few).1, by decide +kernel, by decide +kernel⟩

end Session
end ComponentMarkup
