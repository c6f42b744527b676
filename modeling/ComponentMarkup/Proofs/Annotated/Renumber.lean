import ComponentMarkup.Proofs.Annotated.Await
import ComponentMarkup.Proofs.Annotated.Texts
import ComponentMarkup.Proofs.Document.Relocated

/-!
Other numbers in the generated identifiers of a pass, in its annotations and where they are written
into the document. Each single change that a pass is made of can be done before or after.
-/

namespace ComponentMarkup

/-- The identifier of the same kind with the number that `ρ` gives. -/
def renumberIdentifier (ρ : UInt64 → UInt64) (identifier : String) : String :=
  match identifierNumber? identifier with
  | some n =>
      if (Text.after? "__e-" identifier).isSome then elementIdentifier (ρ n) else textIdentifier (ρ n)
  | none => identifier

section Identifiers
variable (ρ : UInt64 → UInt64)

@[simp] theorem renumberIdentifier_element (n : UInt64) :
    renumberIdentifier ρ (elementIdentifier n) = elementIdentifier (ρ n) := by
  rw [renumberIdentifier, identifierNumber?_elementIdentifier]
  dsimp only
  rw [elementIdentifier, Text.after?_append, Option.isSome_some, if_pos rfl]

@[simp] theorem renumberIdentifier_text (n : UInt64) :
    renumberIdentifier ρ (textIdentifier n) = textIdentifier (ρ n) := by
  have other : Text.after? "__e-" (textIdentifier n) = none := by
    rw [Text.after?, textIdentifier, String.toList_append]
    rfl
  rw [renumberIdentifier, identifierNumber?_textIdentifier]
  dsimp only
  rw [other, Option.isSome_none, if_neg Bool.false_ne_true]

@[simp] theorem renumberIdentifier_root :
    renumberIdentifier ρ rootIdentifier = rootIdentifier := by
  rw [renumberIdentifier, identifierNumber?_rootIdentifier]

end Identifiers

/-! ## Annotations -/

def AnnotatedNode.renumber (ρ : UInt64 → UInt64) (a : AnnotatedNode) : AnnotatedNode :=
  { a with identifier := a.identifier.map (renumberIdentifier ρ) }

/-- A change of an annotation that can be done before or after its identifier gets its number. -/
def AnnotatedNode.Renumbers (ρ : UInt64 → UInt64) (f : AnnotatedNode → AnnotatedNode) : Prop :=
  ∀ a, f (a.renumber ρ) = (f a).renumber ρ

namespace AnnotatedTree

def renumber (ρ : UInt64 → UInt64) (t : AnnotatedTree) : AnnotatedTree :=
  { t with nodes := t.nodes.map (·.renumber ρ) }

variable {ρ : UInt64 → UInt64} {t : AnnotatedTree} {id : AnnotatedId}

@[simp] theorem size_renumber : (t.renumber ρ).nodes.size = t.nodes.size := Array.size_map

theorem get?_renumber (ρ : UInt64 → UInt64) (t : AnnotatedTree) (id : AnnotatedId) :
    (t.renumber ρ).get? id = (t.get? id).map (·.renumber ρ) :=
  Array.getElem?_map

theorem eq_of_get? {t u : AnnotatedTree} (root : t.root = u.root)
    (same : ∀ id, t.get? id = u.get? id) : t = u := by
  obtain ⟨nodes, first⟩ := t
  obtain ⟨nodes', first'⟩ := u
  obtain rfl : first = first' := root
  exact congrArg (AnnotatedTree.mk · first) (Array.ext_getElem? same)

theorem renumber_empty : ({} : AnnotatedTree).renumber ρ = {} :=
  eq_of_get? rfl fun id => get?_renumber ρ {} id

/-- What is read off an annotation without its identifier stays as it is. -/
theorem map_renumber {α : Type} (g : AnnotatedNode → α) (blind : ∀ a, g (a.renumber ρ) = g a)
    (id : AnnotatedId) : ((t.renumber ρ).get? id).map g = (t.get? id).map g := by
  rw [get?_renumber, Option.map_map]
  exact Option.map_congr fun a _ => blind a

theorem bind_renumber {α : Type} (g : AnnotatedNode → Option α)
    (blind : ∀ a, g (a.renumber ρ) = g a) (id : AnnotatedId) :
    ((t.renumber ρ).get? id).bind g = (t.get? id).bind g := by
  rw [get?_renumber, Option.bind_map]
  exact Option.bind_congr fun a _ => blind a

theorem parent?_renumber (id : AnnotatedId) : (t.renumber ρ).parent? id = t.parent? id :=
  bind_renumber AnnotatedNode.parent (fun _ => rfl) id

theorem buildsChildren_renumber (id : AnnotatedId) :
    (t.renumber ρ).buildsChildren id = t.buildsChildren id := by
  rw [buildsChildren_eq_map, buildsChildren_eq_map,
    map_renumber AnnotatedNode.buildsChildren fun _ => rfl]

theorem isBuilt_renumber : (t.renumber ρ).isBuilt = t.isBuilt := by
  funext id
  rw [isBuilt, isBuilt, parent?_renumber]
  cases t.parent? id with
  | none => rfl
  | some parent => exact buildsChildren_renumber parent

theorem ancestors_renumber (id : AnnotatedId) : (t.renumber ρ).ancestors id = t.ancestors id :=
  ancestors_congr fun n _ => parent?_renumber n

theorem update_renumber_of {f g : AnnotatedNode → AnnotatedNode}
    (same : ∀ a, g (a.renumber ρ) = (f a).renumber ρ) (id : AnnotatedId) :
    (t.renumber ρ).update id g = (t.update id f).renumber ρ := by
  refine eq_of_get? rfl fun n => ?_
  rw [get?_update, get?_renumber, get?_renumber, get?_update]
  split
  · rw [Option.map_map, Option.map_map]
    exact Option.map_congr fun a _ => same a
  · rfl

theorem update_renumber {f : AnnotatedNode → AnnotatedNode} (renumbers : AnnotatedNode.Renumbers ρ f)
    (id : AnnotatedId) : (t.renumber ρ).update id f = (t.update id f).renumber ρ :=
  update_renumber_of renumbers id

theorem add_renumber (source : NodeId) (parent : Option AnnotatedId) (kind : AnnotatedKind) :
    (t.renumber ρ).add source parent kind =
      ((t.add source parent kind).1, (t.add source parent kind).2.renumber ρ) := by
  have pushed : (t.renumber ρ).nodes.push { source, parent, kind } =
      (t.nodes.push { source, parent, kind }).map (AnnotatedNode.renumber ρ) := by
    rw [Array.map_push]
    rfl
  unfold add
  dsimp only
  rw [pushed, size_renumber]
  cases parent with
  | none => rfl
  | some parent =>
      let link (a : AnnotatedNode) : AnnotatedNode :=
        { a with children := a.children ++ [t.nodes.size] }
      have linked : AnnotatedNode.Renumbers ρ link := fun _ => rfl
      let grown : AnnotatedTree := { t with nodes := t.nodes.push { source, parent, kind } }
      exact congrArg (t.nodes.size, ·) (update_renumber (t := grown) linked parent)

end AnnotatedTree

/-! ## Documents -/

/-- The attributes with another number in the identifier they hold, if they hold one. -/
def OrderedMap.renumberId (ρ : UInt64 → UInt64) (attributes : Attributes) : Attributes :=
  match attributes.find? "id" with
  | some identifier => attributes.insert "id" (renumberIdentifier ρ identifier)
  | none => attributes

theorem OrderedMap.insert_insert {κ υ : Type} [BEq κ] [ReflBEq κ] (m : OrderedMap κ υ) (key : κ)
    (value value' : υ) : (m.insert key value).insert key value' = m.insert key value' := by
  obtain ⟨entries⟩ := m
  have same : write key value' (write key value entries) = write key value' entries := by
    induction entries with
    | nil =>
        rw [write, write]
        exact if_pos BEq.rfl
    | cons entry rest ih =>
        rw [write, write]
        split
        · next same => rw [write, if_pos same]
        · next other => rw [write, if_neg other, ih]
  exact congrArg OrderedMap.mk same

/-- An identifier that is written replaces the one that is there, whatever its number. -/
theorem OrderedMap.insert_renumberId (ρ : UInt64 → UInt64) (attributes : Attributes)
    (identifier : String) : (attributes.renumberId ρ).insert "id" identifier =
      attributes.insert "id" identifier := by
  rw [renumberId]
  split
  · exact attributes.insert_insert "id" _ identifier
  · rfl

def Node.renumberId (ρ : UInt64 → UInt64) (node : Node) : Node :=
  match node.data with
  | .element tag attributes => { node with data := .element tag (attributes.renumberId ρ) }
  | _ => node

namespace Document

/-- The document with other numbers in the identifiers that were written to the nodes `W`. -/
def renumber (ρ : UInt64 → UInt64) (W : NodeId → Bool) (d : Document) : Document :=
  ⟨d.nodes.mapIdx fun n node => if W n then node.renumberId ρ else node⟩

variable {ρ : UInt64 → UInt64} {W : NodeId → Bool} {d : Document} {id n : NodeId}

theorem node?_renumber (ρ : UInt64 → UInt64) (W : NodeId → Bool) (d : Document) (n : NodeId) :
    (d.renumber ρ W).node? n =
      (d.node? n).map fun node => if W n then node.renumberId ρ else node :=
  Array.getElem?_mapIdx

theorem node?_renumber_of_off (off : W n = false) : (d.renumber ρ W).node? n = d.node? n := by
  rw [node?_renumber, off]
  exact Option.map_id'

theorem data?_renumber_of_off (off : W n = false) : (d.renumber ρ W).data? n = d.data? n :=
  data?_congr (node?_renumber_of_off off)

@[simp] theorem size_renumber : (d.renumber ρ W).size = d.size := Array.size_mapIdx

theorem bare_renumberId (ρ : UInt64 → UInt64) (node : Node) : (node.renumberId ρ).bare = node.bare := by
  obtain ⟨_, _, data, _⟩ := node
  cases data <;> rfl

@[simp] theorem skeleton_renumber : (d.renumber ρ W).skeleton = d.skeleton := by
  refine eq_of_node? fun n => ?_
  rw [node?_skeleton, node?_skeleton, node?_renumber, Option.map_map]
  refine Option.map_congr fun node _ => ?_
  rw [Function.comp_apply]
  split
  · exact bare_renumberId ρ node
  · rfl

theorem update_renumber {f : Node → Node}
    (commutes : W id = true → ∀ node, f (node.renumberId ρ) = (f node).renumberId ρ) :
    (d.renumber ρ W).update id f = (d.update id f).renumber ρ W := by
  refine eq_of_node? fun n => ?_
  rw [node?_update, node?_renumber, node?_renumber, node?_update]
  split
  · next here =>
    subst here
    rw [Option.map_map, Option.map_map]
    refine Option.map_congr fun node _ => ?_
    rw [Function.comp_apply, Function.comp_apply]
    split
    · next written => exact commutes written node
    · rfl
  · rfl

/-- A change at a node that nothing was written to. -/
theorem update_renumber_of_off (off : W id = false) (f : Node → Node) :
    (d.renumber ρ W).update id f = (d.update id f).renumber ρ W :=
  update_renumber fun written => by rw [off] at written; cases written

theorem mapAttributes_renumber (off : W id = false) (f : Attributes → Attributes) :
    (d.renumber ρ W).mapAttributes id f = (d.mapAttributes id f).renumber ρ W :=
  update_renumber_of_off off _

/-- Moving nodes has nothing to do with their attributes. -/
theorem relink_renumber {f : Node → Node}
    (blind : ∀ node data, f { node with data } = { f node with data }) (id : NodeId) :
    (d.renumber ρ W).update id f = (d.update id f).renumber ρ W := by
  refine update_renumber fun _ node => ?_
  have kept : (f node).data = node.data := (congrArg Node.data (blind node node.data) :)
  rw [Node.renumberId, Node.renumberId, kept]
  split
  · exact blind node _
  · rfl

theorem add_renumber (off : W d.size = false) (data : NodeData) (position : Position) :
    (d.renumber ρ W).add data position =
      ((d.add data position).1, (d.add data position).2.renumber ρ W) := by
  refine Prod.ext size_renumber (eq_of_node? fun n => ?_)
  rw [node?_add, node?_renumber, size_renumber, node?_renumber, node?_add]
  split
  · next isNew =>
    rw [isNew, off]
    rfl
  · rfl

theorem place_renumber (parent child : NodeId) :
    (d.renumber ρ W).place parent child = (d.place parent child).renumber ρ W := by
  rw [place, place, relink_renumber fun _ _ => rfl,
    relink_renumber fun _ _ => rfl]

theorem append_renumber (parent child : NodeId) :
    (d.renumber ρ W).append parent child = (d.append parent child).renumber ρ W := by
  have detached : (d.renumber ρ W).detach child = (d.detach child).renumber ρ W := by
    unfold detach
    rw [parent?_of_skeleton child (skeleton_renumber (d := d))]
    split
    · rfl
    · rw [relink_renumber fun _ _ => rfl,
        relink_renumber fun _ _ => rfl]
  rw [append, detached, place_renumber, append]

theorem moveChildren_renumber (source target : NodeId) :
    (d.renumber ρ W).moveChildren source target = (d.moveChildren source target).renumber ρ W := by
  have all (ids : List NodeId) (e : Document) : ids.foldl (·.place target ·) (e.renumber ρ W) =
      (ids.foldl (·.place target ·) e).renumber ρ W := by
    induction ids generalizing e with
    | nil => rfl
    | cons child ids ih => rw [List.foldl_cons, List.foldl_cons, place_renumber, ih]
  rw [moveChildren, moveChildren, children_of_skeleton source (skeleton_renumber (d := d)),
    relink_renumber fun _ _ => rfl, all]

/-- What was written to the node before does not matter to an identifier that is written now. -/
theorem setAttribute_renumber (n : NodeId) (identifier : String) :
    (d.renumber ρ W).setAttribute n "id" (renumberIdentifier ρ identifier) =
      (d.setAttribute n "id" identifier).renumber ρ (Function.update W n true) := by
  refine eq_of_node? fun m => ?_
  rw [setAttribute, setAttribute, mapAttributes, mapAttributes, node?_update, node?_renumber,
    node?_renumber, node?_update]
  by_cases here : n = m
  · subst here
    rw [if_pos rfl, if_pos rfl, Function.update_self, Option.map_map, Option.map_map]
    refine Option.map_congr fun node _ => ?_
    obtain ⟨above, below, data, position⟩ := node
    cases data with
    | element tag attributes =>
        have now : (attributes.insert "id" identifier).renumberId ρ =
            attributes.insert "id" (renumberIdentifier ρ identifier) := by
          rw [OrderedMap.renumberId, OrderedMap.find?_insert_self]
          exact attributes.insert_insert "id" identifier _
        cases W n with
        | true =>
            simp only [Function.comp_apply, if_true, Node.renumberId, now,
              OrderedMap.insert_renumberId]
        | false =>
            simp only [Function.comp_apply, if_true, Bool.false_eq_true, if_false, Node.renumberId,
              now]
    | _ => cases W n <;> rfl
  · rw [if_neg here, if_neg here, Function.update_of_ne (Ne.symm here)]

end Document

theorem Pass.splitContent_renumber {ρ : UInt64 → UInt64} {W : NodeId → Bool} {d : Document}
    {node : NodeId} {tag : String} (off : W node = false) (new : W d.size = false)
    (element : d.tag? node = some tag) : splitContent (d.renumber ρ W) node =
      ((splitContent d node).1, (splitContent d node).2.renumber ρ W) := by
  obtain ⟨old, found, -⟩ := splitContent_eq_append element
  have found' := (Document.node?_renumber_of_off (ρ := ρ) off).trans found
  have directives : directivesOf (d.renumber ρ W) node = directivesOf d node := by
    rw [directivesOf, directivesOf, heldDirectives, heldDirectives,
      Document.attributes?_congr (Document.data?_renumber_of_off off)]
  have size (e : Document) : (e.renumber ρ W).size = e.size := Document.size_renumber
  rw [splitContent_eq found, splitContent_eq found', movedContent, movedContent, directives, size,
    Document.add_renumber new]
  dsimp only
  rw [Document.mapAttributes_renumber new, Document.moveChildren_renumber,
    Document.mapAttributes_renumber off, Document.append_renumber]

end ComponentMarkup
