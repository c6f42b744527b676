import ComponentMarkup.Proofs.Annotated.File
import ComponentMarkup.Proofs.Annotated.Located
import ComponentMarkup.Proofs.Annotated.RenumberedWalk
import ComponentMarkup.Proofs.Annotated.Spelled

/-!
Files that are annotated with other numbers. The numbers that a pass starts from, and what has been
used by components of other files, leave no trace but the numbers in the identifiers, and the start
tags of the static markup have those numbers in what was written to them.
-/

namespace ComponentMarkup

/-- Whether the identifier of an annotation is in the `id` attribute of the node. -/
def AnnotatedTree.writes (t : AnnotatedTree) (n : NodeId) : Bool :=
  (List.range t.nodes.size).any fun id =>
    t.element? id == some n && (t.isNumbered id && !t.isBuilt id)

theorem AnnotatedTree.writes_iff {t : AnnotatedTree} {n : NodeId} : t.writes n = true ↔
    ∃ id, t.element? id = some n ∧ t.isNumbered id = true ∧ t.isBuilt id = false := by
  simp only [writes, List.any_eq_true, List.mem_range, Bool.and_eq_true, beq_iff_eq,
    Bool.not_eq_true']
  refine exists_congr fun id => and_iff_right_of_imp fun holds => ?_
  exact lt_size_of_element? holds.1

/-- The file with other numbers in its identifiers, in its annotations and in its document. -/
def SourceFile.renumber (ρ : UInt64 → UInt64) (file : SourceFile) : SourceFile :=
  { file with
    document := file.document.renumber ρ file.annotations.writes
    annotations := file.annotations.renumber ρ }

variable {ρ : UInt64 → UInt64}

/-! ## Attributes that keep their values -/

theorem OrderedMap.insert_of_find? {κ υ : Type} [BEq κ] {m : OrderedMap κ υ} {key : κ}
    {value : υ} (found : m.find? key = some value) : m.insert key value = m := by
  obtain ⟨entries⟩ := m
  refine congrArg OrderedMap.mk ?_
  induction entries with
  | nil => cases found
  | cons entry rest ih =>
      rw [find?, List.find?_cons] at found
      rw [write]
      split
      · next same =>
        rw [same] at found
        obtain rfl := Option.some.inj found
        rfl
      · next other =>
        rw [Bool.eq_false_of_not_eq_true other] at found
        rw [ih found]

/-- An identifier that the renumbering fixes may be renumbered or left. -/
theorem Node.renumberId_eq_self {node : Node} (fixed : ∀ tag attributes v,
      node.data = .element tag attributes → attributes.find? "id" = some v →
        renumberIdentifier ρ v = v) : node.renumberId ρ = node := by
  obtain ⟨above, below, data, position⟩ := node
  cases data with
  | element tag attributes =>
      have kept : OrderedMap.renumberId ρ attributes = attributes := by
        rw [OrderedMap.renumberId]
        split
        · next v found => rw [fixed tag attributes v rfl found, OrderedMap.insert_of_find? found]
        · rfl
      rw [renumberId]
      dsimp only
      rw [kept]
  | _ => rfl

namespace Document
variable {W W' : NodeId → Bool} {d : Document} {n : NodeId}

theorem renumber_none (ρ : UInt64 → UInt64) (d : Document) : d.renumber ρ (fun _ => false) = d :=
  eq_of_node? fun _ => node?_renumber_of_off rfl

theorem attribute?_renumber_of_on (on : W n = true) :
    (d.renumber ρ W).attribute? n "id" = (d.attribute? n "id").map (renumberIdentifier ρ) := by
  rw [attribute?, attribute?, attributes?, attributes?, Document.data?, Document.data?,
    node?_renumber, on]
  cases d.node? n with
  | none => rfl
  | some node =>
      obtain ⟨above, below, data, position⟩ := node
      cases data with
      | element tag attributes =>
          change (OrderedMap.renumberId ρ attributes).find? "id" = (attributes.find? "id").map _
          rw [OrderedMap.renumberId]
          split
          · next v found => rw [found, OrderedMap.find?_insert_self, Option.map_some]
          · next absent => rw [absent, Option.map_none]
      | _ => rfl

theorem renumber_congr (fixed : ∀ n, W n ≠ W' n → ∀ v, d.attribute? n "id" = some v →
    renumberIdentifier ρ v = v) : d.renumber ρ W = d.renumber ρ W' := by
  refine eq_of_node? fun n => ?_
  rw [node?_renumber, node?_renumber]
  refine Option.map_congr fun node found => ?_
  by_cases same : W n = W' n
  · rw [same]
  · have kept : node.renumberId ρ = node := by
      refine Node.renumberId_eq_self fun tag attributes v data held => fixed n same v ?_
      rw [attribute?, attributes?, data?_eq found, data]
      exact held
    rw [kept, ite_self, ite_self]

end Document

namespace Pass
variable {W : NodeId → Bool} {u : ComponentTable} {s s' t : Pass} {f : Forest}

theorem renumber_congr {W' : NodeId → Bool}
    (same : t.document.renumber ρ W = t.document.renumber ρ W') :
    t.renumber ρ W u = t.renumber ρ W' u := by
  rw [renumber, renumber, same]

section Written
variable (fresh : s.annotations = {}) (fresh' : s'.annotations = {}) (written : Writes f s t)
  (written' : Writes f s' (t.renumber ρ W u)) {id : AnnotatedId} {a : AnnotatedNode}
  (found : t.annotations.get? id = some a) (element : a.isText = false)
include fresh fresh' written written' found element

omit fresh fresh' written written' element in
theorem get?_annotations_renumber :
    (t.renumber ρ W u).annotations.get? id = some (a.renumber ρ) := by
  rw [annotations_renumber, AnnotatedTree.get?_renumber, found, Option.map_some]

/-- What a built node has as its `id` was there before the pass. -/
theorem fixed_of_built (document : s'.document = s.document)
    (built : t.annotations.isBuilt id = true) (on : W a.source = true) {v : String}
    (held : t.document.attribute? a.source "id" = some v) : renumberIdentifier ρ v = v := by
  have found' := get?_annotations_renumber (ρ := ρ) (W := W) (u := u) found
  have isNew : s.annotations.nodes.size ≤ id := by rw [fresh]; exact Nat.zero_le id
  have isNew' : s'.annotations.nodes.size ≤ id := by rw [fresh']; exact Nat.zero_le id
  have built' : (t.renumber ρ W u).annotations.isBuilt id = true := by
    rw [annotations_renumber, AnnotatedTree.isBuilt_renumber, built]
  have held' : (t.renumber ρ W u).document.attribute? a.source "id" =
      some (renumberIdentifier ρ v) := by
    rw [document_renumber, Document.attribute?_renumber_of_on on, held, Option.map_some]
  have outside {n : NodeId} {x : String} (isNew : s.document.size ≤ n) :
      s.document.attribute? n "id" ≠ some x := by
    rw [Document.attribute?_eq_none isNew]
    exact Option.some_ne_none x |>.symm
  have start := (written id a isNew found element).built built v held
  have start' := (written' id _ isNew' found' element).built built' _ held'
  rw [document] at start'
  rcases start with own | ⟨host, -, isNew, under, above⟩
  · rcases start' with own' | ⟨host, -, isNew, -, -⟩
    · exact Option.some.inj (own'.symm.trans own)
    · exact absurd own (outside isNew)
  · rcases start' with own' | ⟨host', -, -, under', above'⟩
    · exact absurd own' (outside isNew)
    · have parent : (t.renumber ρ W u).document.parent? a.source = t.document.parent? a.source :=
        Document.parent?_of_skeleton a.source (skeleton_renumber (s := t))
      obtain rfl : host' = host := Option.some.inj (under'.symm.trans (parent.trans under))
      exact Option.some.inj (above'.symm.trans above)

/-- What a numbered node of the static markup has as its `id` is its identifier. -/
theorem fixed_of_unbuilt (numbered : a.isNumbered = true)
    (unbuilt : t.annotations.isBuilt id = false) (off : W a.source = false) {v : String}
    (held : t.document.attribute? a.source "id" = some v) : renumberIdentifier ρ v = v := by
  have found' := get?_annotations_renumber (ρ := ρ) (W := W) (u := u) found
  have isNew : s.annotations.nodes.size ≤ id := by rw [fresh]; exact Nat.zero_le id
  have isNew' : s'.annotations.nodes.size ≤ id := by rw [fresh']; exact Nat.zero_le id
  have numbered' : (a.renumber ρ).isNumbered = true := by
    rw [← numbered, AnnotatedNode.isNumbered, AnnotatedNode.isNumbered]
    exact congrArg (· && !a.isRoot && !a.isText) (Option.isSome_map ..)
  have unbuilt' : (t.renumber ρ W u).annotations.isBuilt id = false := by
    rw [annotations_renumber, AnnotatedTree.isBuilt_renumber, unbuilt]
  have own := ((written id a isNew found element).unbuilt unbuilt).2 numbered
  have own' := ((written' id _ isNew' found' element).unbuilt unbuilt').2 numbered'
  have kept : (t.renumber ρ W u).document.attribute? a.source "id" =
      t.document.attribute? a.source "id" :=
    Document.attribute?_congr (Document.data?_renumber_of_off off) "id"
  have same : (a.renumber ρ).identifier = some v := own'.symm.trans (kept.trans held)
  rw [AnnotatedNode.renumber, ← own, held] at same
  exact Option.some.inj same

end Written

/-- A pass with other numbers over a file that is not annotated yet ends in the same file with other
numbers, and in the same reports. -/
theorem annotateFile_renumber (steps : ∀ c, ρ (c + 1) = ρ c + 1) (keepBlanks : Bool)
    (u : ComponentTable) (fresh : s.annotations = {}) (wellFormed : s.document.WellFormed) :
    annotateFile keepBlanks (s.renumber ρ (fun _ => false) u) =
      (annotateFile keepBlanks s).renumber ρ (annotateFile keepBlanks s).annotations.writes u := by
  have document : (s.renumber ρ (fun _ => false) u).document = s.document :=
    Document.renumber_none ρ s.document
  have fresh' : (s.renumber ρ (fun _ => false) u).annotations = {} := by
    rw [annotations_renumber, fresh, AnnotatedTree.renumber_empty]
  have spares : Spares (fun _ => false) s.document.bodyHolder s.document.bodyForest s :=
    ⟨fun _ impossible => (nomatch impossible), fun _ _ => rfl, fun _ _ => rfl⟩
  let around : Surroundings := { keepBlanks }
  have owned : ∀ o ∈ around.owner, o ∈ s.file.declared := fun o impossible => nomatch impossible
  obtain ⟨W, same, traces⟩ :=
    visitForest_renumber (u := u) steps (awaits_bodyForest fresh wellFormed) spares owned
  have whole : annotateFile keepBlanks (s.renumber ρ (fun _ => false) u) =
      (annotateFile keepBlanks s).renumber ρ W u := by
    rw [annotateFile_eq, annotateFile_eq, document, same]
  have written := (visits_annotateFile keepBlanks s).writes (walkable_bodyForest fresh wellFormed)
    (ready_of_none s)
  have written' := (visits_annotateFile keepBlanks (s.renumber ρ (fun _ => false) u)).writes
    (walkable_bodyForest fresh' (by rwa [document])) (ready_of_none _)
  rw [document, whole] at written'
  rw [← annotateFile_eq] at traces
  rw [whole]
  -- The walk only tells that `W` has numbered nodes. Where `W` and `writes` differ, both passes
  -- leave the same `id`, which the renumbering therefore fixes.
  generalize annotateFile keepBlanks s = t at *
  refine renumber_congr (Document.renumber_congr fun n different v held => ?_)
  cases on : W n with
  | true =>
      obtain impossible | ⟨id, -, source, numbered⟩ := traces n on
      · cases impossible
      obtain ⟨a, found, element, rfl⟩ := AnnotatedTree.exists_of_element? source
      refine fixed_of_built fresh fresh' written written' found element document ?_ on held
      by_contra unbuilt
      refine different (on.trans (AnnotatedTree.writes_iff.2 ⟨id, source, numbered, ?_⟩).symm)
      exact Bool.eq_false_of_not_eq_true unbuilt
  | false =>
      rw [on] at different
      obtain ⟨id, source, numbered, unbuilt⟩ :=
        AnnotatedTree.writes_iff.1 (Bool.eq_true_of_not_eq_false different.symm)
      obtain ⟨a, found, element, rfl⟩ := AnnotatedTree.exists_of_element? source
      rw [AnnotatedTree.isNumbered_eq found] at numbered
      exact fixed_of_unbuilt fresh fresh' written written' found element numbered unbuilt on held

/-- Before anything is annotated there is nothing to renumber. -/
theorem renumber_of_fresh (fresh : s.annotations = {}) (reports : s.reports = [])
    (u : ComponentTable) : s.renumber ρ (fun _ => false) u =
      { s with components := s.components.lend s.file.declared u, counter := ρ s.counter } := by
  obtain ⟨file, components, counter, _⟩ := s
  obtain rfl : _ = [] := reports
  have tree : AnnotatedTree.renumber ρ file.annotations = file.annotations := by
    rw [show file.annotations = {} from fresh, AnnotatedTree.renumber_empty]
  unfold renumber
  rw [annotations, document, tree, Document.renumber_none]
  rfl

/-- All reports of a pass are about its file. -/
theorem file_of_mem_reports (keepBlanks : Bool) (fresh : s.annotations = {})
    (wellFormed : s.document.WellFormed) (reports : s.reports = []) {report : Diagnostic}
    (member : report ∈ (annotateFile keepBlanks s).reports) : report.file = s.file.path := by
  have same : s.renumber id (fun _ => false) s.components = s := by
    rw [renumber_of_fresh fresh reports, ComponentTable.lend_self, id]
  have again := annotateFile_renumber (ρ := id) (fun _ => rfl) keepBlanks s.components fresh wellFormed
  have path : (annotateFile keepBlanks s).file.path = s.file.path :=
    congrArg (fun basis => basis.file.path) (visits_annotateFile keepBlanks s).basis
  rw [same] at again
  rw [again] at member
  obtain ⟨report, -, rfl⟩ := List.mem_map.1 member
  exact path

end Pass

/-! ## Renumbering twice -/

theorem renumberIdentifier_comp (σ ρ : UInt64 → UInt64) (identifier : String) :
    renumberIdentifier σ (renumberIdentifier ρ identifier) =
      renumberIdentifier (σ ∘ ρ) identifier := by
  cases number : identifierNumber? identifier with
  | none =>
      have fixed (ρ : UInt64 → UInt64) : renumberIdentifier ρ identifier = identifier := by
        rw [renumberIdentifier, number]
      rw [fixed, fixed, fixed]
  | some n =>
      have spelled (ρ : UInt64 → UInt64) : renumberIdentifier ρ identifier =
          if (Text.after? "__e-" identifier).isSome then elementIdentifier (ρ n)
          else textIdentifier (ρ n) := by
        rw [renumberIdentifier, number]
      rw [spelled ρ, spelled (σ ∘ ρ)]
      split
      · rw [renumberIdentifier_element, Function.comp_apply]
      · rw [renumberIdentifier_text, Function.comp_apply]

theorem identifierNumber?_renumberIdentifier (ρ : UInt64 → UInt64) (identifier : String) :
    identifierNumber? (renumberIdentifier ρ identifier) = (identifierNumber? identifier).map ρ := by
  cases number : identifierNumber? identifier with
  | none => rw [renumberIdentifier, number, number, Option.map_none]
  | some n =>
      rw [renumberIdentifier, number]
      dsimp only
      split
      · rw [identifierNumber?_elementIdentifier, Option.map_some]
      · rw [identifierNumber?_textIdentifier, Option.map_some]

theorem Node.renumberId_comp (σ ρ : UInt64 → UInt64) (node : Node) :
    (node.renumberId ρ).renumberId σ = node.renumberId (σ ∘ ρ) := by
  obtain ⟨above, below, data, position⟩ := node
  cases data with
  | element tag attributes =>
      have twice : (OrderedMap.renumberId ρ attributes).renumberId σ =
          attributes.renumberId (σ ∘ ρ) := by
        cases found : attributes.find? "id" with
        | none => simp only [OrderedMap.renumberId, found]
        | some v =>
            simp only [OrderedMap.renumberId, found, OrderedMap.find?_insert_self,
              OrderedMap.insert_insert, renumberIdentifier_comp]
      simp only [renumberId, twice]
  | _ => rfl

namespace AnnotatedTree
variable (ρ : UInt64 → UInt64) (t : AnnotatedTree)

theorem writes_renumber : (t.renumber ρ).writes = t.writes := by
  funext n
  have element (id : AnnotatedId) : (t.renumber ρ).element? id = t.element? id :=
    bind_renumber (fun a => if a.isText then none else some a.source) (fun _ => rfl) id
  have numbered (id : AnnotatedId) : (t.renumber ρ).isNumbered id = t.isNumbered id := by
    rw [isNumbered, isNumbered, get?_renumber, Option.any_map]
    refine congrArg (Option.any · (t.get? id)) (funext fun a => ?_)
    exact congrArg (· && !a.isRoot && !a.isText) (Option.isSome_map ..)
  simp only [writes, size_renumber, element, numbered, isBuilt_renumber]

theorem numbers_renumber : (t.renumber ρ).held.filterMap identifierNumber? =
    (t.held.filterMap identifierNumber?).map ρ := by
  rw [numbers_held, numbers_held, size_renumber, List.map_filterMap]
  refine List.filterMap_congr fun id _ => ?_
  rw [number?, number?, get?_renumber, Option.bind_map]
  cases t.get? id with
  | none => rfl
  | some a =>
      rw [Option.bind_some, Option.bind_some, Function.comp_apply, AnnotatedNode.renumber]
      cases a.identifier with
      | none => rfl
      | some identifier => exact identifierNumber?_renumberIdentifier ρ identifier

end AnnotatedTree

theorem SourceFile.renumber_renumber (σ ρ : UInt64 → UInt64) (file : SourceFile) :
    (file.renumber ρ).renumber σ = file.renumber (σ ∘ ρ) := by
  have twice : renumberIdentifier σ ∘ renumberIdentifier ρ = renumberIdentifier (σ ∘ ρ) :=
    funext (renumberIdentifier_comp σ ρ)
  have tree : (file.annotations.renumber ρ).renumber σ = file.annotations.renumber (σ ∘ ρ) := by
    refine AnnotatedTree.eq_of_get? rfl fun id => ?_
    simp only [AnnotatedTree.get?_renumber, Option.map_map]
    refine Option.map_congr fun a _ => ?_
    simp only [Function.comp_apply, AnnotatedNode.renumber, Option.map_map, twice]
  have document (W : NodeId → Bool) : (file.document.renumber ρ W).renumber σ W =
      file.document.renumber (σ ∘ ρ) W := by
    refine Document.eq_of_node? fun n => ?_
    rw [Document.node?_renumber, Document.node?_renumber, Document.node?_renumber, Option.map_map]
    refine Option.map_congr fun node _ => ?_
    rw [Function.comp_apply]
    split
    · exact node.renumberId_comp σ ρ
    · rfl
  rw [renumber, renumber, renumber, AnnotatedTree.writes_renumber, tree, document]

/-! ## Attributes that are left out -/

theorem OrderedMap.entries_renumberId_cons (entry : String × String)
    (rest : List (String × String)) : (renumberId ρ ⟨entry :: rest⟩).entries =
      if entry.1 == "id" then (entry.1, renumberIdentifier ρ entry.2) :: rest
      else entry :: (renumberId ρ ⟨rest⟩).entries := by
  obtain ⟨name, value⟩ := entry
  simp only [renumberId, find?, List.find?_cons]
  cases same : name == "id" with
  | true => simp [insert, write, same]
  | false =>
      cases rest.find? fun entry => entry.1 == "id" with
      | none => rfl
      | some found => simp [insert, write, same]

/-- An attribute is left out by its name, whatever its value. -/
theorem OrderedMap.filter_renumberId (keep : String → Bool) (entries : List (String × String)) :
    (renumberId ρ ⟨entries⟩).entries.filter (fun (name, _) => keep name) =
      (renumberId ρ ⟨entries.filter fun (name, _) => keep name⟩).entries := by
  induction entries with
  | nil => rfl
  | cons entry rest ih =>
      obtain ⟨name, value⟩ := entry
      rw [entries_renumberId_cons]
      cases same : name == "id" with
      | true => cases kept : keep name with
        | true => simp [kept, same, entries_renumberId_cons]
        | false =>
          obtain rfl := eq_of_beq same
          have absent : (mk (rest.filter fun (name, _) => keep name)).find? "id" = none := by
            rw [find?_filter, kept]
            rfl
          simp [kept, renumberId, absent]
      | false => cases kept : keep name with
        | true => simp [kept, same, entries_renumberId_cons, ih]
        | false => simp [kept, ih]

namespace Document
variable {W : NodeId → Bool} {d d' : Document}

/-! ## Trees of equal skeletons -/

section Skeleton
variable (same : d'.skeleton = d.skeleton)
include same

theorem forestTo_of_skeleton (depth : Nat) (ids : List NodeId) :
    d'.forestTo depth ids = d.forestTo depth ids := by
  induction depth generalizing ids with
  | zero => rfl
  | succ depth ih =>
      have step : (fun id rest => Forest.cons id (d'.forestTo depth (d'.children id)) rest) =
          fun id rest => Forest.cons id (d.forestTo depth (d.children id)) rest := by
        funext id rest
        rw [children_of_skeleton id same, ih]
      rw [forestTo, forestTo, step]

theorem forest_of_skeleton (n : NodeId) : d'.forest n = d.forest n := by
  rw [forest, forest, size_of_skeleton same, forestTo_of_skeleton same]

theorem isElement_of_skeleton (n : NodeId) (tag : String) : d'.isElement n tag = d.isElement n tag := by
  rw [isElement, isElement, tag?_of_skeleton n same]

theorem bodyForest_of_skeleton : d'.bodyForest = d.bodyForest := by
  have body : d'.findElement? "body" = d.findElement? "body" := by
    rw [findElement?, findElement?, forest_of_skeleton same]
    exact congrArg (List.find? · _) (funext fun n => isElement_of_skeleton same n "body")
  rw [bodyForest, bodyForest, body]
  split
  · exact forest_of_skeleton same _
  · rfl

theorem inRawText_of_skeleton (n : NodeId) : d'.inRawText n = d.inRawText n := by
  have holds (n : NodeId) : d'.holdsRawText n = d.holdsRawText n := by
    rw [holdsRawText, holdsRawText, isElement_of_skeleton same, isElement_of_skeleton same]
  rw [inRawText, inRawText, parent?_of_skeleton n same]
  split
  · exact holds _
  · rfl

end Skeleton

/-! ## Pieces -/

/-- The piece with another number in the `id` of its start tag, if that is of one of the nodes `W`. -/
def Piece.renumber (ρ : UInt64 → UInt64) (W : NodeId → Bool) : Piece → Piece
  | .start node tag attributes =>
      .start node tag (if W node then (OrderedMap.renumberId ρ ⟨attributes⟩).entries else attributes)
  | .other text => .other text

theorem data?_renumber (n : NodeId) : (d.renumber ρ W).data? n = (d.data? n).map fun data =>
    match data with
    | .element tag attributes => .element tag (if W n then attributes.renumberId ρ else attributes)
    | data => data := by
  rw [data?, data?, node?_renumber, Option.map_map, Option.map_map]
  refine Option.map_congr fun node _ => ?_
  obtain ⟨above, below, data, position⟩ := node
  rw [Function.comp_apply, Function.comp_apply]
  cases data <;> cases W n <;> rfl

theorem pieces_renumber (keep : NodeId → String → Bool) (f : Forest) :
    (d.renumber ρ W).pieces keep f = (d.pieces keep f).map (Piece.renumber ρ W) := by
  induction f with
  | nil => rfl
  | cons id below rest ihBelow ihRest =>
      rw [pieces, pieces, List.map_append, ihRest, data?_renumber]
      refine congrArg (· ++ _) ?_
      cases d.data? id with
      | none => rfl
      | some data =>
          cases data with
          | document => exact ihBelow
          | doctype name => rfl
          | text contents =>
              dsimp only [Option.map_some]
              rw [inRawText_of_skeleton skeleton_renumber]
              rfl
          | comment contents => rfl
          | element tag attributes =>
              have kept : (if W id then attributes.renumberId ρ else attributes).entries.filter
                  (fun (name, _) => keep id name) = if W id then (OrderedMap.renumberId ρ
                    ⟨attributes.entries.filter fun (name, _) => keep id name⟩).entries
                  else attributes.entries.filter fun (name, _) => keep id name := by
                split
                · exact OrderedMap.filter_renumberId (keep id) attributes.entries
                · rfl
              dsimp only [Option.map_some]
              rw [kept, List.map_cons, Piece.renumber]
              refine congrArg (_ :: ·) ?_
              split
              · rfl
              · rw [List.map_append, ihBelow]
                rfl

end Document

/-! ## Files -/

theorem AnnotatedTree.strips_renumber (ρ : UInt64 → UInt64) (t : AnnotatedTree) :
    (t.renumber ρ).strips = t.strips := by
  funext node name
  have chosen : ((t.renumber ρ).nodes.toList.reverse.find? fun a =>
      a.source == node && !a.stripped.isEmpty) = (t.nodes.toList.reverse.find? fun a =>
        a.source == node && !a.stripped.isEmpty).map (AnnotatedNode.renumber ρ) := by
    rw [renumber, Array.toList_map, ← List.map_reverse, List.find?_map]
    rfl
  rw [strips, strips, chosen]
  cases t.nodes.toList.reverse.find? _ <;> rfl

namespace SourceFile
variable (ρ : UInt64 → UInt64) (file : SourceFile)

theorem staticPieces_renumber : (file.renumber ρ).staticPieces =
    file.staticPieces.map (.renumber ρ file.annotations.writes) := by
  have same : (file.renumber ρ).document = file.document.renumber ρ file.annotations.writes := rfl
  have strips : (file.renumber ρ).annotations.strips = file.annotations.strips :=
    file.annotations.strips_renumber ρ
  rw [staticPieces, staticPieces, strips, same,
    Document.bodyForest_of_skeleton Document.skeleton_renumber, Document.pieces_renumber]

/-- The static markup of `file'` is written from the pieces of that of `file`, with other numbers in
what was written to their start tags. -/
def MarkupRenumbers (file' : SourceFile) : Prop :=
  file.staticMarkup = String.join (file.staticPieces.map Document.Piece.text) ∧
    file'.staticMarkup = String.join (file.staticPieces.map fun piece =>
      (piece.renumber ρ file.annotations.writes).text)

theorem markupRenumbers : file.MarkupRenumbers ρ (file.renumber ρ) := by
  refine ⟨file.staticMarkup_eq, ?_⟩
  rw [staticMarkup_eq, staticPieces_renumber, List.map_map]
  rfl

end SourceFile
end ComponentMarkup
