import ComponentMarkup.Proofs.Annotated.ClosedForm
import ComponentMarkup.Proofs.Document.Markup
import ComponentMarkup.StaticMarkup

/-!
Where the static markup has the identifiers that generated code looks up. An `id` that held a
binding is left out, and the identifier that was written over it with it.
-/

namespace ComponentMarkup

theorem OrderedMap.find?_filter {κ υ : Type} [BEq κ] [LawfulBEq κ] (keep : κ → Bool)
    (entries : List (κ × υ)) (key : κ) :
    (mk (entries.filter fun (name, _) => keep name)).find? key =
      if keep key then (mk entries).find? key else none := by
  induction entries with
  | nil => simp [find?]
  | cons entry rest ih =>
      obtain ⟨name, value⟩ := entry
      by_cases same : name = key
      · subst same
        cases kept : keep name with
        | true => simp [find?, kept]
        | false => simpa [find?, kept] using ih
      · cases kept : keep name with
        | true => simpa [find?, kept, same] using ih
        | false => simpa [find?, kept, same] using ih

/-! ## What is stripped -/

/-- An annotation decides for its source when no other one that strips anything has it. -/
theorem AnnotatedTree.strips_eq {t : AnnotatedTree} {id : AnnotatedId} {a : AnnotatedNode}
    (found : t.get? id = some a)
    (only : ∀ n b, t.get? n = some b → b.source = a.source → b.stripped ≠ [] → n = id)
    (name : String) : t.strips a.source name = a.stripped.contains name := by
  have listed : a ∈ t.nodes.toList := by
    rw [Array.mem_toList_iff]
    exact Array.mem_of_getElem? found
  have alone (b : AnnotatedNode) (member : b ∈ t.nodes.toList) (source : b.source = a.source)
      (strips : b.stripped ≠ []) : b = a := by
    obtain ⟨n, present⟩ := Array.mem_iff_getElem?.1 (Array.mem_toList_iff.1 member)
    obtain rfl := only n b present source strips
    exact Option.some.inj (present.symm.trans found)
  unfold strips
  cases picked : t.nodes.toList.reverse.find? fun b => b.source == a.source && !b.stripped.isEmpty with
  | none =>
      have empty : a.stripped = [] := by
        have all := List.find?_eq_none.1 picked a (List.mem_reverse.2 listed)
        simpa using all
      rw [empty]
      rfl
  | some b =>
      have held := List.find?_some picked
      rw [Bool.and_eq_true, beq_iff_eq, Bool.not_eq_true', List.isEmpty_eq_false_iff] at held
      rw [alone b (List.mem_reverse.1 (List.mem_of_find?_eq_some picked)) held.1 held.2]

/-- Whether reading the attributes of the source replaced an `id` by a binding. -/
def AnnotatedNode.losesId (before : Document) (a : AnnotatedNode) : Bool :=
  match before.tag? a.source with
  | some tag => Pass.readsAttributes tag a.directive? && before.bindsId a.source
  | none => false

/-! ## Static markup -/

namespace SourceFile

/-- The pieces that the static markup of a file is written from. -/
def staticPieces (file : SourceFile) : List Document.Piece :=
  file.document.pieces (fun node name => !file.annotations.strips node name)
    file.document.bodyForest

theorem staticMarkup_eq (file : SourceFile) :
    file.staticMarkup = String.join (file.staticPieces.map Document.Piece.text) := by
  unfold staticMarkup staticPieces Document.bodyForest
  cases file.document.findElement? "body" with
  | none => rfl
  | some body => exact Document.writeForest_eq _ _ _

/-- The source of the annotation has a start tag in the static markup, with its identifier as the
`id`. -/
def Locates (file : SourceFile) (a : AnnotatedNode) : Prop :=
  ∃ tag kept, .start a.source tag kept ∈ file.staticPieces ∧
    (OrderedMap.mk kept).find? "id" = a.identifier

/-- No void element stands above the node in the body. -/
def IsOpen (file : SourceFile) (node : NodeId) : Prop :=
  ∀ q tag, file.document.bodyForest.Above q node → file.document.tag? q = some tag →
    Tag.isVoid tag = false

theorem locates_iff {file : SourceFile} {a : AnnotatedNode} {identifier : String}
    (distinct : file.document.bodyForest.preorder.Nodup)
    (reached : a.source ∈ file.document.reached file.document.bodyForest)
    (generated : a.identifier = some identifier)
    (written : file.document.attribute? a.source "id" = a.identifier) :
    file.Locates a ↔ file.annotations.strips a.source "id" = false ∧ file.IsOpen a.source := by
  obtain ⟨tag, attributes, data, held⟩ : ∃ tag attributes,
      file.document.data? a.source = some (.element tag attributes) ∧
        attributes.find? "id" = a.identifier := by
    rw [generated, Document.attribute?, Document.attributes?] at written
    split at written
    · next tag attributes data => exact ⟨tag, attributes, data, written.trans generated.symm⟩
    · cases written
  have start (tag' : String) (kept : List (String × String)) :
      .start a.source tag' kept ∈ file.staticPieces ↔ tag' = tag ∧
        (kept = attributes.entries.filter fun entry =>
          !file.annotations.strips a.source entry.1) ∧ file.IsOpen a.source :=
    Document.start_mem_pieces_iff distinct reached data
  have filtered := OrderedMap.find?_filter (fun name => !file.annotations.strips a.source name)
    attributes.entries "id"
  constructor
  · rintro ⟨tag', kept, member, found⟩
    obtain ⟨-, rfl, isOpen⟩ := (start tag' kept).1 member
    refine ⟨?_, isOpen⟩
    by_contra strips
    rw [Bool.not_eq_false] at strips
    rw [strips] at filtered
    have absent := (filtered.symm.trans found).trans generated
    cases absent
  · rintro ⟨unstripped, isOpen⟩
    refine ⟨tag, _, (start tag _).2 ⟨rfl, rfl, isOpen⟩, ?_⟩
    rw [unstripped] at filtered
    exact filtered.trans held

end SourceFile

/-! ## A file annotated once -/

variable {s : Pass}

/-- The walk comes once by the element of an annotation, which is stripped of what that is. -/
theorem placed_annotateFile (keepBlanks : Bool) (fresh : s.annotations = {})
    (wellFormed : s.document.WellFormed) {id : AnnotatedId} {a : AnnotatedNode}
    (found : (annotateFile keepBlanks s).annotations.get? id = some a) (element : a.isText = false) :
    (annotateFile keepBlanks s).document.bodyForest.preorder.Nodup ∧
      a.source ∈ (annotateFile keepBlanks s).document.reached
        (annotateFile keepBlanks s).document.bodyForest ∧
      ∀ name, (annotateFile keepBlanks s).annotations.strips a.source name =
        a.stripped.contains name := by
  have visits := visits_annotateFile keepBlanks s
  have walkable := walkable_bodyForest fresh wellFormed
  have settled := visits.settles walkable (ready_of_none s)
  obtain ⟨f', covers⟩ := visits.covers walkable.valid walkable.fits
  have isNew (n : AnnotatedId) : s.annotations.nodes.size ≤ n := by
    rw [fresh]
    exact Nat.zero_le n
  have finished : (annotateFile keepBlanks s).document.bodyForest = f' := by
    obtain ⟨body, isBody⟩ : ∃ body, s.document.findElement? "body" = some body := by
      by_contra absent
      rw [not_exists, ← Option.eq_none_iff_forall_ne_some] at absent
      unfold annotateFile at found
      rw [absent, fresh] at found
      cases found
    have whole : s.document.bodyForest = s.document.forest body := by
      rw [Document.bodyForest, isBody]
    exact Document.Reworks.bodyForest_eq wellFormed isBody (whole ▸ covers.reworks)
  generalize annotateFile keepBlanks s = t at *
  have source := AnnotatedTree.element?_eq found element
  rw [finished]
  refine ⟨covers.reworks.fits.distinct, covers.located id a.source (isNew id) source, fun name => ?_⟩
  refine AnnotatedTree.strips_eq found (fun n b present same strips => ?_) name
  have isElement : b.isText = false := by
    rw [← Bool.not_eq_true]
    exact fun isText => strips ((settled.flagged n b (isNew n) present).unstripped isText)
  have other := AnnotatedTree.element?_eq present isElement
  rw [same] at other
  exact covers.apart n id a.source (isNew n) (isNew id) other source

theorem locates_annotateFile (keepBlanks : Bool) (fresh : s.annotations = {})
    (wellFormed : s.document.WellFormed) {id : AnnotatedId} {a : AnnotatedNode}
    (found : (annotateFile keepBlanks s).annotations.get? id = some a) (element : a.isText = false)
    (generated : a.IsGenerated)
    (unbuilt : (annotateFile keepBlanks s).annotations.isBuilt id = false) :
    (annotateFile keepBlanks s).file.Locates a ↔
      a.losesId s.document = false ∧ (annotateFile keepBlanks s).file.IsOpen a.source := by
  have visits := visits_annotateFile keepBlanks s
  have written := visits.writes (walkable_bodyForest fresh wellFormed) (ready_of_none s)
  have closed := closedForm_annotateFile keepBlanks fresh wellFormed found
  obtain ⟨nodup, reached, strips⟩ := placed_annotateFile keepBlanks fresh wellFormed found element
  have isNew : s.annotations.nodes.size ≤ id := by
    rw [fresh]
    exact Nat.zero_le id
  obtain ⟨⟨tag, before, stripped⟩, -⟩ := (written id a isNew found element).unbuilt unbuilt
  have loses : (annotateFile keepBlanks s).annotations.strips a.source "id" =
      a.losesId s.document := by
    rw [strips, AnnotatedNode.losesId, before]
    exact stripped
  have identified := closed.written element generated unbuilt
  obtain ⟨number, identifier⟩ := generated
  rw [← loses]
  exact SourceFile.locates_iff nodup reached identifier identified

end ComponentMarkup
