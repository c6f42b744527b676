import ComponentMarkup.Proofs.Annotated.Roots
import ComponentMarkup.Proofs.Workspace.Linked
import Mathlib.Algebra.GroupWithZero.Nat

/-!
The scope of every file and the base of every component once all files of a first run are linked. The
workspace is then ready for its first annotation.

Files linked in any order and any number of times. The workspace is the same once every file has
been linked, and so is the number of errors, because every error leaves a mark on the workspace
that keeps it from being reported again.
-/

namespace ComponentMarkup

/-- How a file was read. -/
def SourceFile.reading (file : SourceFile) (packageRoot : Path) : Declaration.Reading :=
  { path := file.path, isEntry := file.isEntry, document := file.document, packageRoot }

namespace Workspace

/-! ## Files as they are declared -/

/-- The components of a file are what the elements of its document declare. -/
def Declares (w : Workspace) : Prop :=
  ∀ entry ∈ w.files.entries, ∀ id ∈ entry.2.declared, ∃ c, w.components.get? id = some c ∧
    Declaration.Declares (entry.2.reading w.settings.packageRoot) c

theorem declares_declare {w : Workspace} (distinct : OrderedMap.Distinct w.files.entries)
    (declares : w.Declares) (source : Source) : (w.declare source).1.Declares := by
  rw [declare_fst]
  intro entry member id declared
  dsimp only at member ⊢
  rw [ComponentTable.get?_extend]
  rcases OrderedMap.mem_write_of_distinct distinct member with ⟨-, written⟩ | ⟨-, old⟩
  · rw [written] at declared ⊢
    obtain ⟨low, high⟩ := List.mem_range'_1.1 declared
    have inside : id - w.components.size <
        (source.findings w.settings.packageRoot).components.length :=
      Nat.sub_lt_left_of_lt_add low high
    refine ⟨_, (if_neg (Nat.not_lt.2 low)).trans (List.getElem?_eq_getElem inside), ?_⟩
    exact Declaration.declared_read _ _ (List.getElem_mem inside)
  · obtain ⟨c, present, declares⟩ := declares entry old id declared
    have inside : id < w.components.size := by
      by_contra outside
      rw [ComponentTable.get?_eq_none (Nat.not_lt.1 outside)] at present
      cases present
    exact ⟨c, (if_pos inside).trans present, declares⟩

theorem Unlinked.declare {w : Workspace} (unlinked : w.Unlinked) (numbered : w.Numbered)
    (source : Source) : (w.declare source).1.Unlinked := by
  rw [declare_fst]
  refine ⟨OrderedMap.distinct_write unlinked.distinct, ?_, ?_⟩
  · intro entry member
    rcases OrderedMap.value_of_mem_write member with written | old
    · rw [written]
      rfl
    · exact unlinked.fresh entry old
  · apply OrderedMap.pairwise_write _ unlinked.apart
    · intro entry member id declared declared'
      have before := numbered entry.1 entry.2 (OrderedMap.find?_of_mem unlinked.distinct member)
        id declared
      have after := (List.mem_range'_1.1 declared').1
      exact Nat.not_lt.2 after before
    · intro file other apart id declared declared'
      exact apart id declared' declared

theorem unlinked_declareAll (settings : Settings) (scripts : OrderedMap Path CodeUnit)
    (sources : List Source) :
    (({ settings, scripts } : Workspace).declareAll sources).1.Unlinked ∧
      (({ settings, scripts } : Workspace).declareAll sources).1.Declares := by
  have all {w : Workspace} (unlinked : w.Unlinked) (numbered : w.Numbered)
      (declares : w.Declares) :
      (w.declareAll sources).1.Unlinked ∧ (w.declareAll sources).1.Declares := by
    induction sources generalizing w with
    | nil => exact ⟨unlinked, declares⟩
    | cons source sources ih =>
        rw [declareAll_cons]
        apply ih
        · exact unlinked.declare numbered source
        · exact numbered.declareAll [source]
        · exact declares_declare unlinked.distinct declares source
  apply all
  · constructor
    · exact List.Pairwise.nil
    · intro entry member
      cases member
    · exact List.Pairwise.nil
  · intro path file found
    cases found
  · intro entry member
    cases member

/-! ## All files linked -/

/-- The warning about a component that extends a custom element and has no base. -/
def unresolved (t : ComponentTable) (id : ComponentId) : Diagnostics :=
  match t.get? id with
  | none => []
  | some c => Linking.notFound c.base c

section All
variable {w : Workspace} (unlinked : w.Unlinked) (declares : w.Declares)
include unlinked

theorem Unlinked.fst_linkAll : w.linkAll.1 = w.linked fun _ => true := by
  rw [linkAll, unlinked.each_link_eq]
  apply linked_congr
  intro entry member
  rw [List.any_eq_true]
  exact ⟨entry.1, List.mem_map_of_mem member, BEq.rfl⟩

theorem Unlinked.find?_linkAll {path : Path} {file : SourceFile}
    (found : w.files.find? path = some file) :
    w.linkAll.1.files.find? path = some (w.linkedFile file) := by
  obtain ⟨entry, first, rfl⟩ := Option.map_eq_some_iff.1 found
  rw [unlinked.fst_linkAll, find?_linked, first]
  rfl

include declares

theorem Unlinked.base_linkAll {entry : Path × SourceFile} (member : entry ∈ w.files.entries)
    {id : ComponentId} (declared : id ∈ entry.2.declared) : ∃ c c',
      w.components.get? id = some c ∧ w.linkAll.1.components.get? id = some c' ∧
      c'.declaration = c.declaration ∧
      c'.base = Linking.baseIn (w.scopeOf entry.2) id c := by
  obtain ⟨c, present, read⟩ := declares entry member id declared
  have settled : w.settled (fun _ => true) id c =
      Linking.rebase (w.scopeOf entry.2) id (Linking.supply w.scripts c) := by
    rw [settled, unlinked.owner?_eq member declared]
    rfl
  have after := w.get?_linked (fun _ => true) id
  rw [present, Option.map_some, settled, ← unlinked.fst_linkAll] at after
  refine ⟨c, _, present, after, rfl, ?_⟩
  change (Linking.baseIn (w.scopeOf entry.2) id c).or c.base = _
  rw [read.base, Option.or_none]

theorem Unlinked.unresolved_linkAll {entry : Path × SourceFile} (member : entry ∈ w.files.entries)
    {id : ComponentId} (declared : id ∈ entry.2.declared) :
    unresolved w.linkAll.1.components id =
      Linking.missingBase w.components (w.scopeOf entry.2) id := by
  obtain ⟨c, c', present, present', same, base⟩ := unlinked.base_linkAll declares member declared
  rw [unresolved, present', Linking.missingBase, present]
  dsimp only
  rw [base, Linking.notFound_congr same]

theorem Unlinked.warnings_linkAll : w.linkAll.2.ofSeverity .warning =
    w.linkAll.1.files.entries.flatMap fun entry =>
      entry.2.declared.flatMap (unresolved w.linkAll.1.components) := by
  have entries : w.linkAll.1.files.entries =
      w.files.entries.map fun entry => (entry.1, w.linkedFile entry.2) := by
    rw [unlinked.fst_linkAll]
    rfl
  have warnings := unlinked.warnings_each w.files.keys
  change w.linkAll.2.ofSeverity .warning = w.files.keys.flatMap w.missingBases at warnings
  rw [warnings, entries, OrderedMap.keys, List.flatMap_map, List.flatMap_map]
  apply List.flatMap_congr
  intro entry member
  rw [missingBases, OrderedMap.find?_of_mem unlinked.distinct member]
  apply List.flatMap_congr
  intro id declared
  exact (unlinked.unresolved_linkAll declares member declared).symm

end All

/-- Once all files are linked, the scope of a file has the tags of what the file declares and then
imports, in the order in which they first occur, each for the first component that has it; a
component extends what the scope of its file has for its tag, unless that is the component itself;
and the warnings are about the custom elements that are extended and not found. -/
theorem scopes_linkAll (settings : Settings) (scripts : OrderedMap Path CodeUnit)
    (sources : List Source) :
    let w := (({ settings, scripts } : Workspace).declareAll sources).1
    let linked := w.linkAll
    linked.1.files.keys = w.files.keys ∧
    (∀ path file, w.files.find? path = some file → ∃ file',
      linked.1.files.find? path = some file' ∧ file'.declared = file.declared ∧
      file'.scope.keys = (Linking.tagsOf w.components (candidates w.files file)).eraseDups ∧
      (∀ tag, file'.scope.find? tag =
        Linking.chosen w.components (candidates w.files file) tag) ∧
      ∀ id ∈ file.declared, ∃ c c', w.components.get? id = some c ∧
        linked.1.components.get? id = some c' ∧ c'.declaration = c.declaration ∧
        c'.base = (file'.scope.find? c.extendsTag).filter (· != id)) ∧
    linked.2.ofSeverity .warning = linked.1.files.entries.flatMap fun entry =>
      entry.2.declared.flatMap (unresolved linked.1.components) := by
  intro w linked
  obtain ⟨unlinked, declares⟩ := unlinked_declareAll settings scripts sources
  change w.Unlinked at unlinked
  change w.Declares at declares
  refine ⟨?_, fun path file found => ?_, unlinked.warnings_linkAll declares⟩
  · change w.linkAll.1.files.keys = w.files.keys
    rw [unlinked.fst_linkAll]
    simp [Workspace.linked, OrderedMap.keys]
  · refine ⟨_, unlinked.find?_linkAll found, rfl, ?_, ?_, ?_⟩
    · exact Linking.keys_scopeOf w.components (candidates w.files file)
    · exact Linking.find?_scopeOf w.components (candidates w.files file)
    · intro id declared
      obtain ⟨entry, first, rfl⟩ := Option.map_eq_some_iff.1 found
      exact unlinked.base_linkAll declares (List.mem_of_find?_eq_some first) declared

end Workspace

/-! ## Waiting for annotation -/

/-- A file that is linked over the components of `t` and not annotated yet. -/
structure SourceFile.Ready (t : ComponentTable) (file : SourceFile) : Prop where
  fresh : file.annotations = {}
  wellFormed : file.document.WellFormed
  declared : ∀ id ∈ file.declared, ∃ c, (t.get? id).map Component.declaration = some c ∧
    c.file = file.path ∧ file.document.tag? c.element = some "element" ∧
    c.template = (file.document.childElements c.element "template").head?

/-- Equal keys have the same value. -/
theorem OrderedMap.find?_eq_of_beq {κ υ : Type} [BEq κ] [EquivBEq κ] (m : OrderedMap κ υ)
    {key other : κ} (same : (key == other) = true) : m.find? key = m.find? other := by
  rw [find?, find?]
  refine congrArg (Option.map Prod.snd) (List.find?_congr fun entry _ => ?_)
  exact BEq.congr_right same

namespace Workspace

/-- Every file is linked, and none is annotated. -/
structure Ready (w : Workspace) : Prop where
  distinct : OrderedMap.Distinct w.files.entries
  apart : w.files.entries.Pairwise fun entry other => entry.2.Apart other.2
  files : ∀ entry ∈ w.files.entries, (entry.2.path == entry.1) = true ∧ entry.2.Ready w.components

theorem exists_entry_of_find? {w : Workspace} {path : Path} {file : SourceFile}
    (found : w.files.find? path = some file) :
    ∃ entry ∈ w.files.entries, (entry.1 == path) = true ∧ entry.2 = file := by
  obtain ⟨entry, first, rfl⟩ := Option.map_eq_some_iff.1 found
  exact ⟨entry, List.mem_of_find?_eq_some first, by simpa using List.find?_some first, rfl⟩

namespace Ready
variable {w : Workspace} (ready : w.Ready) {path : Path} {file : SourceFile}
  (found : w.files.find? path = some file)
include ready found

theorem of_find? : file.Ready w.components := by
  obtain ⟨entry, member, -, rfl⟩ := exists_entry_of_find? found
  exact (ready.files entry member).2

theorem path_eq : (file.path == path) = true := by
  obtain ⟨entry, member, here, rfl⟩ := exists_entry_of_find? found
  exact BEq.trans (ready.files entry member).1 here

end Ready

theorem annotate_of_found {w : Workspace} {p : Path} {file : SourceFile}
    (found : w.files.find? p = some file) : w.annotate p =
      let pass := annotateFile w.settings.keepBlanks
        { file, components := w.components, counter := w.counter }
      ({ w with
          files := w.files.insert p pass.file
          components := pass.components
          counter := pass.counter }, pass.reports) := by
  unfold annotate
  rw [found]

theorem annotate_of_absent {w : Workspace} {p : Path} (absent : w.files.find? p = none) :
    w.annotate p = (w, []) := by
  unfold annotate
  rw [absent]

theorem ready_linkAll (settings : Settings) (scripts : OrderedMap Path CodeUnit)
    {sources : List Source} (wellFormed : ∀ source ∈ sources, source.document.WellFormed) :
    (({ settings, scripts } : Workspace).declareAll sources).1.linkAll.1.Ready := by
  obtain ⟨unlinked, declares⟩ := unlinked_declareAll settings scripts sources
  obtain ⟨files, components, declared, -, origin⟩ :=
    declareAll_fst (w := { settings, scripts }) sources List.Pairwise.nil
  rw [declared] at unlinked declares ⊢
  rw [unlinked.fst_linkAll]
  refine ⟨?_, ?_, ?_⟩
  · refine OrderedMap.distinct_of_keys ?_ unlinked.distinct
    exact List.map_map
  · exact List.pairwise_map.2 unlinked.apart
  · intro linked member
    obtain ⟨entry, listed, rfl⟩ := List.mem_map.1 member
    obtain ⟨source, found, first, record⟩ : ∃ source, source? sources entry.1 = some source ∧
        ∃ first, entry.2 = source.file settings.packageRoot first := by
      rcases origin entry listed with ⟨-, impossible⟩ | record
      · cases impossible
      · exact record
    have here : (source.path == entry.1) = true := by simpa using List.find?_some found
    dsimp only
    rw [if_pos rfl]
    have path : entry.2.path = source.path := by rw [record]; rfl
    have document : entry.2.document = source.document := by rw [record]; rfl
    refine ⟨?_, ?_, ?_, fun id member => ?_⟩
    · exact (congrArg (· == entry.1) path).trans here
    · change entry.2.annotations = {}
      rw [record]
      rfl
    · change entry.2.document.WellFormed
      rw [document]
      exact wellFormed source (mem_of_source? found)
    · obtain ⟨c, present, reads⟩ := declares entry listed id member
      refine ⟨c.declaration, ?_, reads.file, reads.tag, reads.template⟩
      rw [agrees_linked _ _ id, present, Option.map_some]

end Workspace

/-! ## Files that are linked again -/

namespace OrderedMap
variable {κ υ : Type} [BEq κ]

theorem sum_insert (g : υ → Nat) (m : OrderedMap κ υ) {key : κ} {value : υ}
    (found : m.find? key = some value) (value' : υ) :
    ((m.insert key value').entries.map fun entry => g entry.2).sum + g value =
      (m.entries.map fun entry => g entry.2).sum + g value' := by
  obtain ⟨entries⟩ := m
  simp only [insert]
  induction entries with
  | nil => cases found
  | cons entry rest ih =>
      rw [write]
      split
      · next here =>
        have same : entry.2 = value := by simpa [find?, here] using found
        simp only [List.map_cons, List.sum_cons, same]
        omega
      · next other =>
        have later : (mk rest).find? key = some value := by simpa [find?, other] using found
        have sums := ih later
        simp only [List.map_cons, List.sum_cons]
        omega

end OrderedMap

namespace Workspace

/-! ## Errors and their marks -/

/-- How many errors of linking the state of a workspace stands for. -/
def weight (w : Workspace) : Nat :=
  w.components.weight + (w.files.entries.map fun entry => CodeUnit.weight entry.2.code).sum

theorem weight_link (w : Workspace) (path : Path) :
    (w.link path).1.weight = w.weight + ((w.link path).2.ofSeverity .error).length := by
  cases found : w.files.find? path with
  | none => simp [link_of_absent found, Diagnostics.ofSeverity]
  | some file =>
      obtain ⟨errors, reported, severe, heavier⟩ :=
        reports_linkFile w.files w.scripts w.components file
      have sums := w.files.sum_insert (fun file => CodeUnit.weight file.code) found
        (linkFile w.files w.scripts w.components file).1
      have counted : ((linkFile w.files w.scripts w.components file).2.2.ofSeverity
          .error).length = errors.length := by
        rw [reported, Diagnostics.ofSeverity_append, Diagnostics.ofSeverity_eq_self severe,
          Diagnostics.ofSeverity_eq_nil, List.append_nil]
        intro d member
        obtain ⟨id, -, listed⟩ := List.mem_flatMap.1 member
        simp [Linking.severity_missingBase _ _ id d listed]
      rw [link_of_found found]
      simp only [weight, counted]
      omega

/-- Over any calls the errors reported are what the workspace gets heavier. -/
theorem weight_each (w : Workspace) (paths : List Path) : (w.each link paths).1.weight =
    w.weight + ((w.each link paths).2.ofSeverity .error).length := by
  induction paths generalizing w with
  | nil => simp [each, Diagnostics.ofSeverity]
  | cons path paths ih =>
      rw [each]
      dsimp only
      rw [ih, weight_link, Diagnostics.ofSeverity_append, List.length_append, Nat.add_assoc]

/-! ## Any order -/

/-- When every file is linked at least once, in any order and any number of times, the workspace is
what linking all files once makes of it, with as many errors; only the warnings about missing bases
come each time. -/
theorem each_link_covering (settings : Settings) (scripts : OrderedMap Path CodeUnit)
    (sources : List Source) (paths : List Path)
    (covered : ∀ key ∈ (({ settings, scripts } : Workspace).declareAll sources).1.files.keys,
      ∃ path ∈ paths, (key == path) = true) :
    let w := (({ settings, scripts } : Workspace).declareAll sources).1
    let linked := w.each link paths
    linked.1 = w.linkAll.1 ∧
    (linked.2.ofSeverity .error).length = (w.linkAll.2.ofSeverity .error).length ∧
    linked.2.ofSeverity .warning = paths.flatMap w.missingBases ∧
    w.linkAll.2.ofSeverity .warning = w.files.keys.flatMap w.missingBases := by
  intro w linked
  obtain ⟨unlinked, -⟩ := unlinked_declareAll settings scripts sources
  change w.Unlinked at unlinked
  have same : linked.1 = w.linkAll.1 := by
    change (w.each link paths).1 = w.linkAll.1
    rw [unlinked.fst_linkAll, unlinked.each_link_eq]
    apply linked_congr
    intro entry member
    rw [List.any_eq_true]
    exact covered entry.1 (List.mem_map_of_mem member)
  have errors := w.weight_each paths
  have errors' := w.weight_each w.files.keys
  change linked.1.weight = w.weight + (linked.2.ofSeverity .error).length at errors
  change w.linkAll.1.weight = w.weight + (w.linkAll.2.ofSeverity .error).length at errors'
  -- Errors show in the weight of the workspace they leave, and both runs leave the same one.
  refine ⟨same, ?_, unlinked.warnings_each paths, unlinked.warnings_each w.files.keys⟩
  rw [same] at errors
  omega

/-- `<element name="x-a" extends="x-b"></element>` in a body. -/
def extending : Source where
  path := ⟨"a.html"⟩
  document := { nodes := #[
    { data := .document, children := [1] },
    { data := .element "body" {}, parent := some 0, children := [2] },
    { data := .element "element" ⟨[("name", "x-a"), ("extends", "x-b")]⟩, parent := some 1 }] }

/-- A head that links the declaration of `x-a`, and a body that declares it twice. -/
def declaringTwice : Source where
  path := ⟨"b.html"⟩
  document := { nodes := #[
    { data := .document, children := [1, 2] },
    { data := .element "head" {}, parent := some 0, children := [3] },
    { data := .element "body" {}, parent := some 0, children := [4, 5] },
    { data := .element "link" ⟨[("rel", "components"), ("href", "a.html")]⟩, parent := some 1 },
    { data := .element "element" ⟨[("name", "x-a")]⟩, parent := some 2 },
    { data := .element "element" ⟨[("name", "x-a")]⟩, parent := some 2 }] }

theorem each_link_covering_declaringTwice :
    let w := (({} : Workspace).declareAll [extending, declaringTwice]).1
    let linked := w.each link [⟨"b.html"⟩, ⟨"a.html"⟩, ⟨"b.html"⟩, ⟨"a.html"⟩]
    (∀ key ∈ w.files.keys,
      ∃ path ∈ [⟨"b.html"⟩, ⟨"a.html"⟩, ⟨"b.html"⟩, ⟨"a.html"⟩], (key == path) = true) ∧
    linked.1 = w.linkAll.1 ∧
    (linked.2.ofSeverity .error).length = 2 ∧ (linked.2.ofSeverity .warning).length = 2 ∧
    (w.linkAll.2.ofSeverity .warning).length = 1 := by
  intro w linked
  have covered : ∀ key ∈ w.files.keys,
      ∃ path ∈ [⟨"b.html"⟩, ⟨"a.html"⟩, ⟨"b.html"⟩, ⟨"a.html"⟩], (key == path) = true := by
    decide +kernel
  obtain ⟨same, errors, warnings, once⟩ :=
    each_link_covering {} {} [extending, declaringTwice] _ covered
  refine ⟨covered, same, ?_, ?_, ?_⟩
  · refine errors.trans ?_
    decide +kernel
  · refine (congrArg List.length warnings).trans ?_
    decide +kernel
  · refine (congrArg List.length once).trans ?_
    decide +kernel

end Workspace
end ComponentMarkup
