import ComponentMarkup.Proofs.Annotated.RenumberedFile
import ComponentMarkup.Proofs.Workspace.Session
import ComponentMarkup.Proofs.Workspace.Settled
import Mathlib.Data.List.Perm.Basic

/-!
What every session keeps: each path has one file, and each component is declared by one file.

Files annotated in any order. What becomes of a file is what becomes of it when it comes first, up
to the number that its identifiers start from.
-/

namespace ComponentMarkup

theorem ComponentTable.Agrees.size_le {t u : ComponentTable} (agrees : t.Agrees u) :
    t.size ≤ u.size := by
  by_contra fewer
  obtain ⟨c, found⟩ : ∃ c, t.get? u.size = some c :=
    ⟨_, Array.getElem?_eq_getElem (Nat.lt_of_not_le fewer)⟩
  obtain ⟨c', found', -⟩ := agrees.exists_get? found
  rw [get?_eq_none (Nat.le_refl _)] at found'
  cases found'

theorem agrees_linkFile (files : OrderedMap Path SourceFile) (scripts : OrderedMap Path CodeUnit)
    (t : ComponentTable) (file : SourceFile) : t.Agrees (linkFile files scripts t file).2.1 := by
  rw [linkFile_eq_linking]
  exact ((Linking.agrees_foldl (Linking.agrees_declareOwn scripts file.path) file.declared _).trans
    (Linking.agrees_foldl (Linking.agrees_register file.path) _ _)).trans
      (Linking.agrees_foldl Linking.agrees_findBase file.declared _)

namespace Workspace
variable {w w' : Workspace} {path : Path} {file file' : SourceFile}

/-- No two files have equal paths or declare the same component. -/
structure Orderly (w : Workspace) : Prop where
  distinct : OrderedMap.Distinct w.files.entries
  apart : w.files.entries.Pairwise fun entry other => entry.2.Apart other.2
  known : ∀ entry ∈ w.files.entries, ∀ id ∈ entry.2.declared, id < w.components.size
  path : ∀ entry ∈ w.files.entries, (entry.2.path == entry.1) = true

namespace Orderly

/-- A file that takes the place of one with the same declarations. -/
theorem insert (orderly : w.Orderly) (found : w.files.find? path = some file)
    (files : w'.files = w.files.insert path file') (declared : file'.declared = file.declared)
    (named : file'.path = file.path) (size : w.components.size ≤ w'.components.size) :
    w'.Orderly := by
  have replaced : w'.files.entries = w.files.entries.map fun entry =>
      if entry.1 == path then (entry.1, file') else entry := by
    rw [files, OrderedMap.insert, OrderedMap.write_eq_map orderly.distinct found]
  have alike : ∀ entry ∈ w.files.entries,
      let entry' := if entry.1 == path then (entry.1, file') else entry
      entry'.1 = entry.1 ∧ entry'.2.declared = entry.2.declared ∧ entry'.2.path = entry.2.path := by
    intro entry member
    dsimp only
    split
    · next here =>
      have same := OrderedMap.find?_of_mem orderly.distinct member
      rw [OrderedMap.find?_eq_of_beq ⟨w.files.entries⟩ here] at same
      obtain rfl := Option.some.inj (found.symm.trans same)
      exact ⟨rfl, declared, named⟩
    · exact ⟨rfl, rfl, rfl⟩
  refine ⟨?_, ?_, fun entry' member' => ?_, fun entry' member' => ?_⟩
  · refine OrderedMap.distinct_of_keys ?_ orderly.distinct
    rw [replaced, List.map_map]
    exact List.map_congr_left fun entry member => (alike entry member).1
  · rw [replaced, List.pairwise_map]
    refine orderly.apart.imp_of_mem fun member other apart id listed => ?_
    rw [(alike _ member).2.1] at listed
    rw [(alike _ other).2.1]
    exact apart id listed
  · rw [replaced] at member'
    obtain ⟨entry, member, rfl⟩ := List.mem_map.1 member'
    rw [(alike entry member).2.1]
    exact fun id listed => Nat.lt_of_lt_of_le (orderly.known entry member id listed) size
  · rw [replaced] at member'
    obtain ⟨entry, member, rfl⟩ := List.mem_map.1 member'
    obtain ⟨key, -, path⟩ := alike entry member
    rw [key, path]
    exact orderly.path entry member

theorem declare (orderly : w.Orderly) (source : Source) : (w.declare source).1.Orderly := by
  rw [declare_fst]
  refine ⟨OrderedMap.distinct_write orderly.distinct, ?_, fun entry member => ?_,
    fun entry member => ?_⟩
  · refine OrderedMap.pairwise_write (fun a b apart id inB inA => apart id inA inB) orderly.apart
      fun entry member id listed new => ?_
    have old := orderly.known entry member id listed
    exact Nat.not_lt_of_ge (List.mem_range'_1.1 new).1 old
  · intro id listed
    rw [ComponentTable.size_extend]
    rcases OrderedMap.value_of_mem_write member with written | old
    · rw [written] at listed
      exact (List.mem_range'_1.1 listed).2
    · exact Nat.lt_add_right _ (orderly.known entry old id listed)
  · rcases OrderedMap.mem_write_of_distinct orderly.distinct member with ⟨here, written⟩ | ⟨-, old⟩
    · rw [written]
      exact here
    · exact orderly.path entry old

theorem link (orderly : w.Orderly) (path : Path) : (w.link path).1.Orderly := by
  cases found : w.files.find? path with
  | none =>
      rw [link_of_absent found]
      exact orderly
  | some file =>
      rw [link_of_found found]
      obtain ⟨code, l, linked, -⟩ := linkFile_eq w.files w.scripts w.components file
      refine orderly.insert found rfl ?_ ?_ (agrees_linkFile w.files w.scripts w.components file).size_le
      · rw [linked]
      · rw [linked]

theorem annotate (orderly : w.Orderly) (path : Path) : (w.annotate path).1.Orderly := by
  cases found : w.files.find? path with
  | none =>
      rw [annotate_of_absent found]
      exact orderly
  | some file =>
      rw [annotate_of_found found]
      let s : Pass := { file, components := w.components, counter := w.counter }
      have basis := basis_annotateFile w.settings.keepBlanks s
      have agrees : w.components.Agrees (annotateFile w.settings.keepBlanks s).components :=
        fun id => congrFun (congrArg Basis.declaration basis) id
      exact orderly.insert found rfl (congrArg (fun basis => basis.file.declared) basis)
        (congrArg (fun basis => basis.file.path) basis) agrees.size_le

end Orderly
end Workspace

namespace Session
variable {s : Session}

theorem orderly_step (orderly : s.workspace.Orderly) (action : Action) :
    (s.step action).workspace.Orderly := by
  have each {α : Type} {step : Workspace → α → Workspace × Diagnostics} (items : List α)
      (keeps : ∀ w item, w.Orderly → (step w item).1.Orderly) :
      (s.workspace.each step items).1.Orderly :=
    Workspace.each_of_steps (R := fun w w' => w.Orderly → w'.Orderly) (fun _ => id)
      (fun _ _ _ first second orderly => second (first orderly)) items
      (fun w item _ => keeps w item) s.workspace orderly
  cases action with
  | addScript path source => exact ⟨orderly.distinct, orderly.apart, orderly.known, orderly.path⟩
  | declare sources => exact each sources fun w source orderly => orderly.declare source
  | link path => exact orderly.link path
  | linkAll => exact each _ fun w path orderly => orderly.link path
  | annotate path => exact orderly.annotate path
  | annotateAll => exact each _ fun w path orderly => orderly.annotate path
  | keepBlanks keep => exact ⟨orderly.distinct, orderly.apart, orderly.known, orderly.path⟩
  | drawNumber | drawElement | drawText =>
      exact ⟨orderly.distinct, orderly.apart, orderly.known, orderly.path⟩

theorem orderly_steps (orderly : s.workspace.Orderly) (actions : List Action) :
    (s.steps actions).workspace.Orderly := by
  induction actions generalizing s with
  | nil => exact orderly
  | cons action actions ih => exact ih (orderly_step orderly action)

theorem orderly_run (settings : Settings) (actions : List Action) :
    (run settings actions).workspace.Orderly := by
  have start : ({ settings } : Workspace).Orderly := by
    refine ⟨List.Pairwise.nil, List.Pairwise.nil, fun entry impossible => ?_,
      fun entry impossible => ?_⟩
    · cases impossible
    · cases impossible
  exact orderly_steps (s := { workspace := { settings } }) start actions

end Session

/-! ## Files in any order -/

/-- Besides what its declaration fixes, its flag, its base and its code, a component has what it
uses. -/
theorem Component.with_used_eq {a c : Component} (declaration : a.declaration = c.declaration)
    (hasConflict : a.hasConflict = c.hasConflict) (used : List ComponentId) :
    { a with base := c.base, code := c.code, used } = { c with used } := by
  have same := congrArg (fun d : Component =>
    { d with base := c.base, hasConflict := c.hasConflict, code := c.code, used }) declaration
  rw [← hasConflict] at same
  simpa only [Component.declaration, hasConflict] using same

/-- The numbers that `ρ` gives to the generated identifiers come in the order of theirs. -/
def AnnotatedTree.Ascends (ρ : UInt64 → UInt64) (t : AnnotatedTree) : Prop :=
  ∀ m ∈ t.held.filterMap identifierNumber?, ∀ n ∈ t.held.filterMap identifierNumber?,
    m < n → ρ m < ρ n

namespace Workspace

/-- The pass over a file of `w` that comes first, with the numbers from 0 on. -/
def alone (w : Workspace) (file : SourceFile) : Pass :=
  annotateFile w.settings.keepBlanks { file, components := w.components, counter := 0 }

/-- The file once it is annotated with the numbers from `start` on, if it is. -/
def annotatedFile (w : Workspace) (start : Option UInt64) (file : SourceFile) : SourceFile :=
  match start with
  | some c => (w.alone file).file.renumber (· + c)
  | none => file

/-- What a component uses once the files that have a start are annotated. -/
def usedAfter (w : Workspace) (starts : Path → Option UInt64) (id : ComponentId) (c : Component) :
    List ComponentId :=
  match w.owner? id with
  | some (path, file) =>
      if (starts path).isSome then (((w.alone file).components.get? id).map Component.used).getD []
      else c.used
  | none => c.used

/-- The workspace with some of its files annotated, each with the numbers from its start on. -/
def annotated (w : Workspace) (starts : Path → Option UInt64) (counter : UInt64) : Workspace :=
  { w with
    files := ⟨w.files.entries.map fun entry =>
      (entry.1, w.annotatedFile (starts entry.1) entry.2)⟩
    components := ⟨w.components.components.mapIdx fun id c =>
      { c with used := w.usedAfter starts id c }⟩
    counter }

/-- Every file is there once and waits for its first annotation. -/
structure Waits (w : Workspace) : Prop extends Orderly w where
  fresh : ∀ entry ∈ w.files.entries, entry.2.annotations = {}
  wellFormed : ∀ entry ∈ w.files.entries, entry.2.document.WellFormed

/-! ## The closed form -/

section ClosedForm
variable {w : Workspace} {starts : Path → Option UInt64} {c : UInt64} {id : ComponentId}

theorem get?_annotated : (w.annotated starts c).components.get? id =
    (w.components.get? id).map fun c => { c with used := w.usedAfter starts id c } :=
  Array.getElem?_mapIdx

theorem annotated_none (w : Workspace) : w.annotated (fun _ => none) w.counter = w := by
  have files : w.files.entries.map (fun entry => (entry.1, w.annotatedFile none entry.2)) =
      w.files.entries := List.map_id _
  have components : (w.annotated (fun _ => none) w.counter).components = w.components := by
    refine ComponentTable.ext_get? fun id => ?_
    rw [get?_annotated]
    refine (Option.map_congr fun c _ => ?_).trans Option.map_id'
    have unused : w.usedAfter (fun _ => none) id c = c.used := by
      unfold usedAfter
      split <;> rfl
    rw [unused]
  unfold annotated at components ⊢
  dsimp only at components
  rw [files, components]

end ClosedForm

/-! ## One more file -/

section Step
variable {w : Workspace} (waits : w.Waits) {starts : Path → Option UInt64}
  {entry : Path × SourceFile} (member : entry ∈ w.files.entries)
include waits member

theorem Waits.find?_annotated (c : UInt64) : (w.annotated starts c).files.find? entry.1 =
    some (w.annotatedFile (starts entry.1) entry.2) := by
  have distinct : OrderedMap.Distinct (w.annotated starts c).files.entries :=
    OrderedMap.distinct_of_keys (List.map_map ..) waits.distinct
  exact OrderedMap.find?_of_mem distinct
    (List.mem_map_of_mem (f := fun entry => (entry.1, w.annotatedFile (starts entry.1) entry.2))
      member)

/-- A pass in the middle sees of the table what the pass sees that comes first. -/
theorem Waits.lend_annotated (waiting : starts entry.1 = none) (c : UInt64) :
    w.components.lend entry.2.declared (w.annotated starts c).components =
      (w.annotated starts c).components := by
  refine ComponentTable.ext_get? fun id => ?_
  rw [ComponentTable.get?_lend, get?_annotated]
  refine Option.map_congr fun c found => ?_
  rw [found, Option.map_some, Option.getD_some, Component.lend]
  split
  · next own =>
    have owned := owner?_eq_of_apart waits.apart member (List.contains_iff_mem.1 own)
    have unused : w.usedAfter starts id c = c.used := by
      rw [usedAfter, owned]
      dsimp only
      rw [waiting]
      rfl
    rw [unused]
  · rfl

theorem Waits.file_of_mem_reports {report : Diagnostic}
    (reported : report ∈ (w.alone entry.2).reports) : report.file = entry.2.path := by
  let s : Pass := { file := entry.2, components := w.components, counter := 0 }
  exact Pass.file_of_mem_reports (s := s) w.settings.keepBlanks (waits.fresh entry member)
    (waits.wellFormed entry member) rfl reported

theorem Waits.annotateFile_annotated (waiting : starts entry.1 = none) (c : UInt64) :
    annotateFile w.settings.keepBlanks
        { file := entry.2, components := (w.annotated starts c).components, counter := c } =
      (w.alone entry.2).renumber (· + c) (w.alone entry.2).annotations.writes
        (w.annotated starts c).components := by
  let s : Pass := { file := entry.2, components := w.components, counter := 0 }
  have fresh : s.annotations = {} := waits.fresh entry member
  have started : s.renumber (· + c) (fun _ => false) (w.annotated starts c).components =
      { file := entry.2, components := (w.annotated starts c).components, counter := c } := by
    rw [Pass.renumber_of_fresh fresh rfl, waits.lend_annotated member waiting]
    exact congrArg (Pass.mk entry.2 _ · []) (UInt64.zero_add c)
  have steps (n : UInt64) : n + 1 + c = n + c + 1 := by
    rw [UInt64.add_assoc, UInt64.add_comm 1 c, ← UInt64.add_assoc]
  rw [← started]
  exact Pass.annotateFile_renumber (s := s) steps _ _ fresh (waits.wellFormed entry member)

section More
variable {starts' : Path → Option UInt64} (annotated : (starts' entry.1).isSome = true)
  (others : ∀ other ∈ w.files.entries, (entry.1 == other.1) = false →
    starts' other.1 = starts other.1)
include annotated others

theorem Waits.usedAfter_eq {id : ComponentId} {a : Component}
    (found : (w.alone entry.2).components.get? id = some a) (c : Component) :
    (if entry.2.declared.contains id then a.used else w.usedAfter starts id c) =
      w.usedAfter starts' id c := by
  by_cases own : id ∈ entry.2.declared
  · rw [if_pos (List.contains_iff_mem.2 own), usedAfter,
      owner?_eq_of_apart waits.apart member own]
    dsimp only
    rw [if_pos annotated, found]
    rfl
  · rw [if_neg fun listed => own (List.contains_iff_mem.1 listed), usedAfter, usedAfter]
    cases owned : w.owner? id with
    | none => rfl
    | some other =>
        obtain ⟨listed, declared⟩ := declared_of_owner? owned
        have apart : (entry.1 == other.1) = false := by
          by_contra same
          rw [OrderedMap.eq_of_distinct waits.distinct member listed
            (Bool.eq_true_of_not_eq_false same)] at declared
          exact own declared
        dsimp only
        rw [others other listed apart]

/-- What is used once the file is annotated in the middle is what it uses when it comes first. -/
theorem Waits.lend_alone (c c' : UInt64) :
    (w.alone entry.2).components.lend entry.2.declared (w.annotated starts c).components =
      (w.annotated starts' c').components := by
  have basis : (w.alone entry.2).basis = Pass.basis _ := basis_annotateFile _ _
  have declaration (id : ComponentId) : ((w.alone entry.2).components.get? id).map
      Component.declaration = (w.components.get? id).map Component.declaration :=
    congrFun (congrArg Basis.declaration basis) id
  have flagged (id : ComponentId) : (w.alone entry.2).components.hasConflict id =
      w.components.hasConflict id := congrFun (congrArg Basis.flagged basis) id
  refine ComponentTable.ext_get? fun id => ?_
  have declaration := declaration id
  have flagged := flagged id
  rw [ComponentTable.hasConflict_eq_map, ComponentTable.hasConflict_eq_map] at flagged
  rw [ComponentTable.get?_lend, get?_annotated, get?_annotated]
  cases present : w.components.get? id with
  | none =>
      rw [present, Option.map_none, Option.map_eq_none_iff] at declaration
      rw [declaration]
      rfl
  | some v =>
      rw [present, Option.map_some, Option.map_eq_some_iff] at declaration
      obtain ⟨a, found, declared⟩ := declaration
      rw [present, found] at flagged
      rw [found, Option.map_some, Option.map_some, Option.map_some, Option.getD_some,
        Component.lend, Component.with_used_eq declared flagged]
      exact Option.some_inj.2 (congrArg (fun used => { v with used })
        (waits.usedAfter_eq member annotated others found v))

end More

theorem Waits.insert_annotated (c : UInt64) :
    (w.annotated starts c).files.insert entry.1 (w.annotatedFile (some c) entry.2) =
      ⟨w.files.entries.map fun other => (other.1,
        w.annotatedFile (if entry.1 == other.1 then some c else starts other.1) other.2)⟩ := by
  have distinct : OrderedMap.Distinct (w.annotated starts c).files.entries :=
    OrderedMap.distinct_of_keys (List.map_map ..) waits.distinct
  refine congrArg OrderedMap.mk ?_
  rw [OrderedMap.write_eq_map distinct (waits.find?_annotated member c)]
  refine (List.map_map ..).trans (List.map_congr_left fun other listed => ?_)
  rw [Function.comp_apply, BEq.comm]
  split
  · next here =>
    rw [OrderedMap.eq_of_distinct waits.distinct member listed here]
  · rfl

/-- One more file is annotated, with the numbers from the counter on. -/
theorem Waits.annotate_annotated (waiting : starts entry.1 = none) (c : UInt64) :
    (w.annotated starts c).annotate entry.1 =
      (w.annotated (fun path => if entry.1 == path then some c else starts path)
        ((w.alone entry.2).counter + c), (w.alone entry.2).reports) := by
  have found : (w.annotated starts c).files.find? entry.1 =
      some (w.annotatedFile (starts entry.1) entry.2) := waits.find?_annotated member c
  rw [waiting, show w.annotatedFile none entry.2 = entry.2 from rfl] at found
  have basis : (w.alone entry.2).basis = Pass.basis _ := basis_annotateFile _ _
  have declared : (w.alone entry.2).file.declared = entry.2.declared :=
    congrArg (fun basis => basis.file.declared) basis
  have path : (w.alone entry.2).file.path = entry.2.path :=
    congrArg (fun basis => basis.file.path) basis
  have files : (w.annotated starts c).files.insert entry.1 (w.annotatedFile (some c) entry.2) = _ :=
    waits.insert_annotated member c
  have components : (w.alone entry.2).components.lend entry.2.declared
      (w.annotated starts c).components =
        (w.annotated (fun path => if entry.1 == path then some c else starts path)
          ((w.alone entry.2).counter + c)).components :=
    waits.lend_alone member (by rw [if_pos BEq.rfl]; rfl) (fun other _ apart => by rw [apart]; rfl)
      c ((w.alone entry.2).counter + c)
  rw [annotate_of_found found]
  dsimp only
  rw [show (w.annotated starts c).settings = w.settings from rfl,
    show (w.annotated starts c).counter = c from rfl, waits.annotateFile_annotated member waiting c]
  refine Prod.ext ?_ ?_
  · rw [← declared] at components
    change ({ w.annotated starts c with
        files := (w.annotated starts c).files.insert entry.1 (w.annotatedFile (some c) entry.2)
        components := (w.alone entry.2).components.lend (w.alone entry.2).file.declared
          (w.annotated starts c).components
        counter := (w.alone entry.2).counter + c } : Workspace) = _
    rw [files, components]
    rfl
  · refine (List.map_congr_left fun report listed => ?_).trans (List.map_id _)
    rw [path, ← waits.file_of_mem_reports member listed]
    rfl

end Step

/-! ## Files in turn -/

/-- The numbers that the file has drawn when it is annotated with those from 0 on. -/
def drawn (w : Workspace) (entry : Path × SourceFile) : List UInt64 :=
  (w.alone entry.2).annotations.held.filterMap identifierNumber?

section Turns
variable {w : Workspace} (waits : w.Waits)
include waits

theorem Waits.drawn_perm {entry : Path × SourceFile} (member : entry ∈ w.files.entries) :
    (w.drawn entry).Perm (drawnFrom 0 (w.drawn entry).length) ∧
      (w.alone entry.2).counter = UInt64.ofNat (w.drawn entry).length := by
  let s : Pass := { file := entry.2, components := w.components, counter := 0 }
  have fresh : s.annotations = {} := waits.fresh entry member
  obtain ⟨count, counter, numbers⟩ := held_annotateFile w.settings.keepBlanks s
  rw [fresh] at numbers
  have length : (w.drawn entry).length = count := by
    refine numbers.length_eq.trans ?_
    simp [AnnotatedTree.held, drawnFrom]
  rw [length]
  exact ⟨numbers, counter.trans (UInt64.zero_add _)⟩

/-- Each file of a row is annotated from where those before it have stopped. -/
theorem Waits.each_annotated (row : List (Path × SourceFile)) (starts : Path → Option UInt64)
    (c : UInt64) (listed : ∀ entry ∈ row, entry ∈ w.files.entries)
    (distinct : OrderedMap.Distinct row) (waiting : ∀ entry ∈ row, starts entry.1 = none) :
    let total := (row.map fun entry => (w.drawn entry).length).sum
    ∃ starts', (w.annotated starts c).each annotate (row.map Prod.fst) =
        (w.annotated starts' (c + UInt64.ofNat total),
          row.flatMap fun entry => (w.alone entry.2).reports) ∧
      (∀ path, (∀ entry ∈ row, (entry.1 == path) = false) → starts' path = starts path) ∧
      ∀ entry ∈ row, ∃ k, starts' entry.1 = some k ∧
        (c.toNat + total < 2 ^ 64 → k.toNat + (w.drawn entry).length < 2 ^ 64) := by
  -- What is annotated before the row is in `starts`, to which each file of it is added in turn.
  induction row generalizing starts c with
  | nil =>
      exact ⟨starts, by simp [each], fun _ _ => rfl, fun entry impossible => nomatch impossible⟩
  | cons entry row ih =>
      obtain ⟨here, later⟩ := List.forall_mem_cons.1 listed
      obtain ⟨apart, distinct⟩ := List.pairwise_cons.1 distinct
      obtain ⟨waitsHere, waitsLater⟩ := List.forall_mem_cons.1 waiting
      have counter := (waits.drawn_perm here).2
      let total := (row.map fun entry => (w.drawn entry).length).sum
      obtain ⟨starts', turns, kept, bounds⟩ := ih
        (fun path => if entry.1 == path then some c else starts path)
        ((w.alone entry.2).counter + c) later distinct fun other member => by
          rw [apart other member]
          exact waitsLater other member
      have own : starts' entry.1 = some c := by
        rw [kept entry.1 fun other member => BEq.comm.trans (apart other member), if_pos BEq.rfl]
      refine ⟨starts', ?_, fun path others => ?_, List.forall_mem_cons.2 ⟨⟨c, own, fun few => ?_⟩,
        fun other member => ?_⟩⟩
      · have sum : (w.alone entry.2).counter + c + UInt64.ofNat total =
            c + UInt64.ofNat ((w.drawn entry).length + total) := by
          rw [counter, UInt64.ofNat_add, UInt64.add_comm _ c, UInt64.add_assoc]
        rw [List.map_cons, each, waits.annotate_annotated here waitsHere]
        dsimp only
        rw [turns, List.map_cons, List.sum_cons, List.flatMap_cons, sum]
      · obtain ⟨first, rest⟩ := List.forall_mem_cons.1 others
        rw [kept path rest, first]
        rfl
      · rw [List.map_cons, List.sum_cons] at few
        omega
      · obtain ⟨k, start, bound⟩ := bounds other member
        refine ⟨k, start, fun few => bound ?_⟩
        rw [List.map_cons, List.sum_cons] at few
        have small : (w.drawn entry).length < 2 ^ 64 := by omega
        rw [counter, UInt64.toNat_add, UInt64.toNat_ofNat_of_lt' small,
          Nat.mod_eq_of_lt (by omega)]
        omega

end Turns

/-! ## Two orders -/

/-- Outcomes that differ at most in the numbers of generated identifiers: in the annotations of a
file, in its document and in its static markup. As long as there are `few` identifiers, those of a
file come in the same order in both outcomes. -/
structure Renumbered (few : Prop) (r r' : Workspace × Diagnostics) : Prop where
  files : OrderedMap.Related (fun file file' => ∃ k : UInt64, file' = file.renumber (· + k) ∧
    file.MarkupRenumbers (· + k) file' ∧
    (few → AnnotatedTree.Ascends (· + k) file.annotations)) r.1.files.entries r'.1.files.entries
  components : r'.1.components = r.1.components
  counter : r'.1.counter = r.1.counter
  reports : ∀ path, r'.2.filter (·.file == path) = r.2.filter (·.file == path)

section Orders
variable {w : Workspace} (waits : w.Waits) {starts starts' : Path → Option UInt64}
include waits

/-- What the file is with the numbers from `c'` on, it is with those from `c` on but for them. -/
theorem Waits.renumber_alone {entry : Path × SourceFile} (member : entry ∈ w.files.entries)
    (c c' : UInt64) : w.annotatedFile (some c') entry.2 =
        (w.annotatedFile (some c) entry.2).renumber (· + (c' - c)) ∧
      (c.toNat + (w.drawn entry).length < 2 ^ 64 → c'.toNat + (w.drawn entry).length < 2 ^ 64 →
        AnnotatedTree.Ascends (· + (c' - c)) (w.annotatedFile (some c) entry.2).annotations) := by
  have shift (n : UInt64) : n + c + (c' - c) = n + c' := by
    rw [UInt64.add_assoc, UInt64.add_comm c, UInt64.sub_add_cancel]
  constructor
  · refine Eq.trans ?_ (SourceFile.renumber_renumber _ _ _).symm
    exact congrArg (SourceFile.renumber · (w.alone entry.2).file) (funext fun n => (shift n).symm)
  · intro few few'
    have tree : (w.annotatedFile (some c) entry.2).annotations =
        (w.alone entry.2).annotations.renumber (· + c) := rfl
    have numbers (n : UInt64) (listed : n ∈
        (w.annotatedFile (some c) entry.2).annotations.held.filterMap identifierNumber?) :
          ∃ i < (w.drawn entry).length,
            n.toNat = c.toNat + i ∧ (n + (c' - c)).toNat = c'.toNat + i := by
      rw [tree, AnnotatedTree.numbers_renumber] at listed
      obtain ⟨a, drawn, rfl⟩ := List.mem_map.1 listed
      obtain ⟨i, below, rfl⟩ := List.mem_map.1 ((waits.drawn_perm member).1.mem_iff.1 drawn)
      rw [List.mem_range] at below
      have small : i < 2 ^ 64 := by omega
      refine ⟨i, below, ?_, ?_⟩
      · rw [UInt64.zero_add, UInt64.toNat_add, UInt64.toNat_ofNat_of_lt' small,
          Nat.mod_eq_of_lt (by omega), Nat.add_comm]
      · rw [shift, UInt64.zero_add, UInt64.toNat_add, UInt64.toNat_ofNat_of_lt' small,
          Nat.mod_eq_of_lt (by omega), Nat.add_comm]
    intro m m_listed n n_listed less
    obtain ⟨i, -, m_eq, m_eq'⟩ := numbers m m_listed
    obtain ⟨j, -, n_eq, n_eq'⟩ := numbers n n_listed
    dsimp only
    rw [UInt64.lt_iff_toNat_lt] at less ⊢
    omega

/-- What is reported of one file does not depend on what is annotated before it. -/
theorem Waits.reports_of_path {row : List (Path × SourceFile)} (perm : row.Perm w.files.entries)
    (path : Path) : (row.flatMap fun entry => (w.alone entry.2).reports).filter (·.file == path) =
      (w.files.entries.flatMap fun entry => (w.alone entry.2).reports).filter (·.file == path) := by
  -- A file has its reports under its path, so those under `path` are of the only file at `path`.
  have own {row : List (Path × SourceFile)} (listed : ∀ entry ∈ row, entry ∈ w.files.entries) :
      (row.flatMap fun entry => (w.alone entry.2).reports).filter (·.file == path) =
        (row.filter (·.1 == path)).flatMap fun entry => (w.alone entry.2).reports := by
    induction row with
    | nil => rfl
    | cons entry row ih =>
        obtain ⟨here, later⟩ := List.forall_mem_cons.1 listed
        have stamped : ∀ report ∈ (w.alone entry.2).reports,
            (report.file == path) = (entry.1 == path) := fun report member => by
          rw [waits.file_of_mem_reports here member]
          exact BEq.congr_left (waits.path entry here)
        rw [List.flatMap_cons, List.filter_append, ih later, List.filter_congr stamped,
          List.filter_cons]
        cases entry.1 == path with
        | true => rw [List.filter_true, if_pos rfl, List.flatMap_cons]
        | false => rw [List.filter_false, if_neg Bool.false_ne_true, List.nil_append]
  have single : row.filter (·.1 == path) = w.files.entries.filter (·.1 == path) := by
    have distinct : OrderedMap.Distinct row :=
      (perm.pairwise_iff fun apart => BEq.comm.trans apart).2 waits.distinct
    refine List.Perm.eq_of_pairwise (fun entry other here there apart _ => ?_)
      (distinct.filter _) (List.Pairwise.filter _ waits.distinct) (perm.filter _)
    have here := (List.mem_filter.1 here).2
    have there := (List.mem_filter.1 there).2
    rw [BEq.congr_left here, BEq.comm, there] at apart
    cases apart
  rw [own fun entry => perm.mem_iff.1, own fun _ => id, single]

/-- All generated identifiers have numbers, which are drawn file by file. -/
theorem Waits.length_held {order : List Path} {c : UInt64}
    (run : (w.each annotate order).1 = w.annotated starts c)
    (all : ∀ entry ∈ w.files.entries, (starts entry.1).isSome) :
    (w.each annotate order).1.held.length =
      (w.files.entries.map fun entry => (w.drawn entry).length).sum := by
  have none : w.Labelled := by
    intro entry member id a found
    rw [waits.fresh entry member] at found
    cases found
  have labelled : (w.each annotate order).1.Labelled :=
    each_of_steps (R := fun w w' => w.Labelled → w'.Labelled) (fun _ => id)
      (fun _ _ _ first second labelled => second (first labelled)) order
      (fun w path _ => (w.draws_annotate path).choose_spec.labelled) w none
  rw [← labelled.length_numbers, numbers_held, List.length_flatMap, run]
  refine (congrArg List.sum (List.map_map ..)).trans ?_
  refine congrArg List.sum (List.map_congr_left fun entry member => ?_)
  obtain ⟨k, start⟩ := Option.isSome_iff_exists.1 (all entry member)
  rw [Function.comp_apply]
  dsimp only
  rw [start]
  rw [show (w.annotatedFile (some k) entry.2).annotations =
    (w.alone entry.2).annotations.renumber (· + k) from rfl, AnnotatedTree.numbers_renumber,
    List.length_map]
  rfl

/-- Whatever the order, each file ends as it does alone, with numbers from some start on. -/
theorem Waits.each_order {order : List Path} (each : order.Perm w.files.keys) :
    let total := (w.files.entries.map fun entry => (w.drawn entry).length).sum
    ∃ (starts : Path → Option UInt64) (row : List (Path × SourceFile)),
      w.each annotate order = (w.annotated starts (w.counter + UInt64.ofNat total),
        row.flatMap fun entry => (w.alone entry.2).reports) ∧ row.Perm w.files.entries ∧
      ∀ entry ∈ w.files.entries, ∃ k, starts entry.1 = some k ∧
        (w.counter.toNat + total < 2 ^ 64 → k.toNat + (w.drawn entry).length < 2 ^ 64) := by
  obtain ⟨row, rfl, perm⟩ : ∃ row : List (Path × SourceFile), order = row.map Prod.fst ∧
      row.Perm w.files.entries := by
    have composed : Relation.Comp (fun (order : List Path) (row : List (Path × SourceFile)) =>
        order = row.map Prod.fst) List.Perm order w.files.entries := by
      rw [List.eq_map_comp_perm]
      exact each
    exact composed
  have total := (perm.map fun entry => (w.drawn entry).length).sum_nat
  obtain ⟨starts, turns, -, bounds⟩ := waits.each_annotated row (fun _ => none) w.counter
    (fun entry => perm.mem_iff.1)
    ((perm.pairwise_iff fun apart => BEq.comm.trans apart).2 waits.distinct) fun _ _ => rfl
  rw [annotated_none, total] at turns
  rw [total] at bounds
  exact ⟨starts, row, turns, perm, fun entry member => bounds entry (perm.mem_iff.2 member)⟩

omit waits in
theorem usedAfter_congr (same : ∀ entry ∈ w.files.entries,
    (starts' entry.1).isSome = (starts entry.1).isSome) (id : ComponentId) (c : Component) :
    w.usedAfter starts' id c = w.usedAfter starts id c := by
  unfold usedAfter
  split
  · next owned => rw [same _ (declared_of_owner? owned).1]
  · rfl

/-- The files of a workspace annotated once each, in any order, come out the same but for the
numbers in their identifiers. -/
theorem Waits.renumbered {order order' : List Path} (each : order.Perm w.files.keys)
    (each' : order'.Perm w.files.keys) :
    Renumbered (w.counter.toNat + (w.each annotate order).1.held.length < 2 ^ 64)
      (w.each annotate order) (w.each annotate order') := by
  obtain ⟨starts, row, run, perm, bounds⟩ := waits.each_order each
  obtain ⟨starts', row', run', perm', bounds'⟩ := waits.each_order each'
  have started (entry) (member : entry ∈ w.files.entries) : (starts entry.1).isSome = true :=
    Option.isSome_iff_exists.2 ((bounds entry member).imp fun _ => And.left)
  have started' (entry) (member : entry ∈ w.files.entries) : (starts' entry.1).isSome = true :=
    Option.isSome_iff_exists.2 ((bounds' entry member).imp fun _ => And.left)
  rw [waits.length_held (congrArg Prod.fst run) started, run, run']
  refine ⟨?_, ?_, rfl, fun path => ?_⟩
  · refine List.forall₂_map_left_iff.2 (List.forall₂_map_right_iff.2
      (List.forall₂_same.2 fun entry member => ⟨rfl, ?_⟩))
    obtain ⟨k, start, bound⟩ := bounds entry member
    obtain ⟨k', start', bound'⟩ := bounds' entry member
    obtain ⟨renumbered, ascends⟩ := waits.renumber_alone member k k'
    dsimp only
    rw [start, start', renumbered]
    refine ⟨k' - k, rfl, SourceFile.markupRenumbers _ _, fun few => ?_⟩
    exact ascends (bound few) (bound' few)
  · refine ComponentTable.ext_get? fun id => ?_
    rw [get?_annotated, get?_annotated]
    refine Option.map_congr fun c _ => ?_
    have used : w.usedAfter starts' id c = w.usedAfter starts id c :=
      usedAfter_congr (fun entry member =>
        (started' entry member).trans (started entry member).symm) id c
    rw [used]
  · rw [waits.reports_of_path perm, waits.reports_of_path perm']

end Orders

end Workspace

namespace Session

/-- In what order the files of a session are annotated for the first time is to be seen in the
numbers of their identifiers only. -/
theorem renumbered_run (settings : Settings) (actions : List Action)
    (fresh : ∀ entry ∈ (run settings actions).workspace.files.entries,
      entry.2.annotations = {} ∧ entry.2.document.WellFormed)
    {order order' : List Path} (each : order.Perm (run settings actions).workspace.files.keys)
    (each' : order'.Perm (run settings actions).workspace.files.keys) :
    let w := (run settings actions).workspace
    Workspace.Renumbered
      (w.counter.toNat + (w.each Workspace.annotate order).1.held.length < 2 ^ 64)
      (w.each Workspace.annotate order) (w.each Workspace.annotate order') :=
  Workspace.Waits.renumbered
    { toOrderly := orderly_run settings actions
      fresh := fun entry member => (fresh entry member).1
      wellFormed := fun entry member => (fresh entry member).2 } each each'

/-- Two files of a paragraph each. -/
def twoParagraphs : List Action :=
  [.declare [{ path := ⟨"a.html"⟩, document := Workspace.boundParagraph },
    { path := ⟨"b.html"⟩, document := Workspace.boundParagraph }], .linkAll]

theorem renumbered_run_twoParagraphs :
    let w := (run {} twoParagraphs).workspace
    let forth := w.each Workspace.annotate [⟨"a.html"⟩, ⟨"b.html"⟩]
    let back := w.each Workspace.annotate [⟨"b.html"⟩, ⟨"a.html"⟩]
    (∀ entry ∈ w.files.entries, entry.2.annotations = {} ∧ entry.2.document.WellFormed) ∧
      w.counter.toNat + forth.1.held.length < 2 ^ 64 ∧
      Workspace.Renumbered (w.counter.toNat + forth.1.held.length < 2 ^ 64) forth back ∧
      forth.1.held = ["__e-1", "__binding0", "__e-3", "__binding2"] ∧
      back.1.held = ["__e-3", "__binding2", "__e-1", "__binding0"] := by
  have checked : Workspace.boundParagraph.Checked fun n => n := by decide
  have fresh : ∀ entry ∈ (run {} twoParagraphs).workspace.files.entries,
      entry.2.annotations = {} ∧ entry.2.document.WellFormed := by
    have held : (run {} twoParagraphs).workspace.files.entries.map
        (fun entry => (entry.2.annotations, entry.2.document)) =
          List.replicate 2 ({}, Workspace.boundParagraph) := by rfl
    intro entry member
    have listed := List.mem_map_of_mem (f := fun entry : Path × SourceFile =>
      (entry.2.annotations, entry.2.document)) member
    rw [held] at listed
    obtain ⟨annotations, document⟩ := Prod.mk.inj (List.eq_of_mem_replicate listed)
    rw [document]
    exact ⟨annotations, Document.WellFormed.of_checked checked⟩
  have keys : (run {} twoParagraphs).workspace.files.keys = [⟨"a.html"⟩, ⟨"b.html"⟩] := by rfl
  have swapped : List.Perm [(⟨"b.html"⟩ : Path), ⟨"a.html"⟩] [⟨"a.html"⟩, ⟨"b.html"⟩] := .swap ..
  exact ⟨fresh, by decide +kernel, renumbered_run {} twoParagraphs fresh
    (.of_eq keys.symm) (swapped.trans (.of_eq keys.symm)), by decide +kernel, by decide +kernel⟩

end Session
end ComponentMarkup
