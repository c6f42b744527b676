import ComponentMarkup.Proofs.Document.Split

/-!
Documents without their attributes. A pass reads the attributes of each element once, when it gets
there; everything else that it reads is in the skeleton.
-/

namespace ComponentMarkup

def NodeData.bare : NodeData → NodeData
  | .element tag _ => .element tag {}
  | data => data

def NodeData.tag? : NodeData → Option String
  | .element tag _ => some tag
  | _ => none

def NodeData.text? : NodeData → Option String
  | .text contents => some contents
  | _ => none

def Node.bare (node : Node) : Node := { node with data := node.data.bare }

namespace Document

/-- The document with all attributes taken away. -/
def skeleton (d : Document) : Document := ⟨d.nodes.map Node.bare⟩

variable (d : Document) (id n : NodeId)

theorem node?_skeleton : d.skeleton.node? n = (d.node? n).map Node.bare := by
  rw [node?, skeleton, Array.getElem?_map]
  rfl

@[simp] theorem size_skeleton : d.skeleton.size = d.size := Array.size_map

theorem eq_of_node? {d d' : Document} (same : ∀ n, d'.node? n = d.node? n) : d' = d :=
  congrArg Document.mk (Array.ext_getElem? same)

/-! ## What the skeleton shows -/

section Shown
variable {d d' : Document} (same : d'.skeleton = d.skeleton)
include same

theorem size_of_skeleton : d'.size = d.size := by
  rw [← size_skeleton, same, size_skeleton]

theorem bare_of_skeleton : (d'.node? n).map Node.bare = (d.node? n).map Node.bare := by
  rw [← node?_skeleton, same, node?_skeleton]

theorem map_node?_of_skeleton {α : Type} (g : Node → α) (blind : ∀ node, g node.bare = g node) :
    (d'.node? n).map g = (d.node? n).map g := by
  have bare (e : Document) : (e.node? n).map g = ((e.node? n).map Node.bare).map g := by
    rw [Option.map_map]
    exact Option.map_congr fun node _ => (blind node).symm
  rw [bare d', bare d, bare_of_skeleton n same]

theorem children_of_skeleton : d'.children n = d.children n := by
  rw [children_eq_map, children_eq_map, map_node?_of_skeleton n same Node.children fun _ => rfl]

theorem parent?_of_skeleton : d'.parent? n = d.parent? n := by
  rw [parent?_eq_map, parent?_eq_map, map_node?_of_skeleton n same Node.parent fun _ => rfl]

theorem bareData_of_skeleton :
    (d'.data? n).map NodeData.bare = (d.data? n).map NodeData.bare := by
  rw [data?, data?, Option.map_map, Option.map_map]
  refine map_node?_of_skeleton n same _ fun node => ?_
  obtain ⟨_, _, data, _⟩ := node
  cases data <;> rfl

theorem position_of_skeleton : d'.position n = d.position n := by
  have position_eq (e : Document) : e.position n = ((e.node? n).map Node.position).getD {} := by
    rw [position]
    cases e.node? n <;> rfl
  rw [position_eq, position_eq, map_node?_of_skeleton n same Node.position fun _ => rfl]

theorem data?_bind_of_skeleton {α : Type} (g : NodeData → Option α)
    (blind : ∀ data : NodeData, g data.bare = g data) : (d'.data? n).bind g = (d.data? n).bind g := by
  have bare (e : Document) : (e.data? n).bind g = ((e.data? n).map NodeData.bare).bind g := by
    rw [Option.bind_map]
    exact Option.bind_congr fun data _ => (blind data).symm
  rw [bare d', bare d, bareData_of_skeleton n same]

theorem tag?_of_skeleton : d'.tag? n = d.tag? n := by
  have tag?_eq (e : Document) : e.tag? n = (e.data? n).bind NodeData.tag? := by
    rw [tag?]
    cases e.data? n with
    | none => rfl
    | some data => cases data <;> rfl
  rw [tag?_eq, tag?_eq]
  exact data?_bind_of_skeleton n same _ fun data => by cases data <;> rfl

theorem text?_of_skeleton : d'.text? n = d.text? n := by
  have text?_eq (e : Document) : e.text? n = (e.data? n).bind NodeData.text? := by
    rw [text?]
    cases e.data? n with
    | none => rfl
    | some data => cases data <;> rfl
  rw [text?_eq, text?_eq]
  exact data?_bind_of_skeleton n same _ fun data => by cases data <;> rfl

end Shown

/-! ## Changes -/

theorem skeleton_update (f : Node → Node) (commutes : ∀ node, (f node).bare = f node.bare) :
    (d.update id f).skeleton = d.skeleton.update id f := by
  refine eq_of_node? fun n => ?_
  rw [node?_skeleton, node?_update, node?_update, node?_skeleton]
  split
  · cases d.node? n with
    | none => rfl
    | some node => exact congrArg some (commutes node)
  · rfl

@[simp] theorem skeleton_mapAttributes (f : Attributes → Attributes) :
    (d.mapAttributes id f).skeleton = d.skeleton := by
  refine eq_of_node? fun n => ?_
  rw [node?_skeleton, node?_skeleton]
  refine d.map_node?_update id n Node.bare _ fun node => ?_
  obtain ⟨_, _, data, _⟩ := node
  cases data <;> rfl

theorem skeleton_add (data : NodeData) (position : Position) :
    (d.add data position).2.skeleton = (d.skeleton.add data.bare position).2 := by
  refine eq_of_node? fun n => ?_
  rw [node?_skeleton, node?_add, node?_add, node?_skeleton, size_skeleton]
  split <;> rfl

theorem skeleton_setText (contents : String) :
    (d.setText id contents).skeleton = d.skeleton.setText id contents := by
  refine d.skeleton_update id _ fun node => ?_
  obtain ⟨_, _, data, _⟩ := node
  cases data <;> rfl

theorem skeleton_place (parent child : NodeId) :
    (d.place parent child).skeleton = d.skeleton.place parent child := by
  rw [place, skeleton_update, skeleton_update]
  · rfl
  all_goals exact fun _ => rfl

theorem skeleton_append (parent child : NodeId) :
    (d.append parent child).skeleton = d.skeleton.append parent child := by
  rw [append, skeleton_place, append]
  congr 1
  have above : d.skeleton.parent? child = d.parent? child := by
    rw [parent?_eq_map, parent?_eq_map, node?_skeleton, Option.map_map]
    rfl
  rw [detach, detach, above]
  split
  · rfl
  · rw [skeleton_update, skeleton_update] <;> exact fun _ => rfl

theorem skeleton_moveChildren (source target : NodeId) :
    (d.moveChildren source target).skeleton = d.skeleton.moveChildren source target := by
  have placeAll (ids : List NodeId) (e : Document) :
      (ids.foldl (·.place target ·) e).skeleton = ids.foldl (·.place target ·) e.skeleton := by
    induction ids generalizing e with
    | nil => rfl
    | cons child ids ih => rw [List.foldl_cons, List.foldl_cons, ih, skeleton_place]
  have below : d.skeleton.children source = d.children source := by
    rw [children_eq_map, children_eq_map, node?_skeleton, Option.map_map]
    rfl
  rw [moveChildren, placeAll, skeleton_update, moveChildren, below]
  exact fun _ => rfl

end Document

theorem Pass.skeleton_splitContent {d d' : Document} {node : NodeId} {tag : String}
    (same : d'.skeleton = d.skeleton) (element : d.tag? node = some tag) :
    (splitContent d' node).2.skeleton = (splitContent d node).2.skeleton := by
  obtain ⟨old, found, split⟩ := splitContent_eq_append element
  obtain ⟨old', found', split'⟩ :=
    splitContent_eq_append ((Document.tag?_of_skeleton node same).trans element)
  have bare : old'.bare = old.bare := by
    have bare := Document.bare_of_skeleton node same
    rw [found, found'] at bare
    exact Option.some.inj bare
  have data : old'.bare.data = old.bare.data := by rw [bare]
  have position : old'.bare.position = old.bare.position := by rw [bare]
  change old'.data.bare = old.data.bare at data
  change old'.position = old.position at position
  rw [split, split']
  simp only [Document.skeleton_append, movedContent, Document.skeleton_mapAttributes,
    Document.skeleton_moveChildren, Document.skeleton_add, same, data, position,
    Document.size_of_skeleton same]

end ComponentMarkup
