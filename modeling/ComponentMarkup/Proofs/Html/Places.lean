import ComponentMarkup.Proofs.Document.Carried
import ComponentMarkup.Proofs.Document.Traversal
import ComponentMarkup.Proofs.Html.Search
import ComponentMarkup.Proofs.Html.Turns

/-!
The places that a document gives its elements, and when they are those of their own start tags.
-/

namespace ComponentMarkup.Html
open Document

/-! ## Nodes in the order in which they are added -/

/-- The nodes of a forest that a document gets, in order. -/
def added (tree : Document) : Forest → List NodeId
  | .nil => []
  | .cons id children rest =>
      match tree.data? id with
      | none => added tree rest
      | some _ => id :: (added tree children ++ added tree rest)

/-- Looks for a tag, and says where it is and where to go on. -/
def Locator.sought (l : Locator) (tag : String) : Position × Locator := (l.locate tag).getD ({}, l)

/-- What is left of the source when the elements among some nodes have been looked for. -/
def passed (tree : Document) (l : Locator) (ids : List NodeId) : Locator :=
  ids.foldl (fun l id => match tree.tag? id with | some tag => (l.sought tag).2 | none => l) l

/-- What becomes of a document that gets nodes of a tree: they come behind those that are there, and
each element stands where its tag is found behind the nodes before it. -/
structure Adds (tree : Document) (l : Locator) (ids : List NodeId) (d d' : Document) : Prop where
  size_eq : d'.size = d.size + ids.length
  older : ∀ n < d.size, d'.tag? n = d.tag? n ∧ d'.position n = d.position n
  newer : ∀ before id after, ids = before ++ id :: after →
    d'.tag? (d.size + before.length) = (tree.tag? id).map Text.lowered ∧
      ∀ tag, tree.tag? id = some tag →
        d'.position (d.size + before.length) = ((passed tree l before).sought tag).1

variable {tree d d' d'' : Document} {l : Locator} {ids ids' : List NodeId} {id : NodeId}

theorem passed_append (tree : Document) (l : Locator) (ids ids' : List NodeId) :
    passed tree l (ids ++ ids') = passed tree (passed tree l ids) ids' := List.foldl_append

theorem Adds.nil (tree : Document) (l : Locator) (d : Document) : Adds tree l [] d d where
  size_eq := rfl
  older _ _ := ⟨rfl, rfl⟩
  newer before id after split := by simp at split

theorem Adds.single (size_eq : d'.size = d.size + 1)
    (older : ∀ n < d.size, d'.tag? n = d.tag? n ∧ d'.position n = d.position n)
    (named : d'.tag? d.size = (tree.tag? id).map Text.lowered)
    (placed : ∀ tag, tree.tag? id = some tag → d'.position d.size = (l.sought tag).1) :
    Adds tree l [id] d d' where
  size_eq := size_eq
  older := older
  newer before id' after split := by
    obtain ⟨rfl, rfl⟩ : before = [] ∧ id' = id := by
      cases before with
      | nil => exact ⟨rfl, (List.cons.inj split).1.symm⟩
      | cons first before => simp at split
    exact ⟨named, placed⟩

/-- Where an item of two lists in a row stands. -/
theorem split_append {α : Type} {xs ys before after : List α} {x : α}
    (split : xs ++ ys = before ++ x :: after) :
    (∃ rest, xs = before ++ x :: rest) ∨
      ∃ front, before = xs ++ front ∧ ys = front ++ x :: after := by
  rcases List.append_eq_append_iff.1 split with ⟨front, same, rest⟩ | ⟨rest, same, behind⟩
  · exact .inr ⟨front, same, rest⟩
  · cases rest with
    | nil => exact .inr ⟨[], by simpa using same.symm, behind.symm⟩
    | cons y rest =>
        obtain ⟨rfl, -⟩ := List.cons.inj behind
        exact .inl ⟨rest, same⟩

theorem Adds.append (first : Adds tree l ids d d')
    (second : Adds tree (passed tree l ids) ids' d' d'') : Adds tree l (ids ++ ids') d d'' where
  size_eq := by rw [second.size_eq, first.size_eq, List.length_append, Nat.add_assoc]
  older n old := by
    obtain ⟨tag, position⟩ := first.older n old
    obtain ⟨tag', position'⟩ := second.older n (by rw [first.size_eq]; omega)
    exact ⟨tag'.trans tag, position'.trans position⟩
  newer before id after split := by
    rcases split_append split with ⟨rest, rfl⟩ | ⟨front, rfl, rest⟩
    · obtain ⟨named, placed⟩ := first.newer before id rest rfl
      obtain ⟨tag, position⟩ := second.older (d.size + before.length)
        (by rw [first.size_eq, List.length_append, List.length_cons]; omega)
      exact ⟨tag.trans named, fun name isElement => position.trans (placed name isElement)⟩
    · have placed := second.newer front id after rest
      rw [first.size_eq, Nat.add_assoc, ← List.length_append, ← passed_append] at placed
      exact placed

/-- The nodes of the tree of a source in the order in which the document gets them. The first of
them is node `1` of the document. -/
def order (source : String) : List NodeId :=
  added (parseTree source) ((parseTree source).below root)

/-- The source as it is searched. -/
def searched (source : String) : List Char := source.toList.map Char.toLower

/-- Where the mark of an element's own start tag ends, or `start` without one. -/
def behindOwn (source : String) (start : Nat) (id : NodeId) : Nat :=
  match startTag? source id, (parseTree source).tag? id with
  | some k, some tag => k + (markOf tag).length
  | _, _ => start

/-- Where the own start tags of some nodes end. -/
def cursor (source : String) (start : Nat) (ids : List NodeId) : Nat :=
  ids.foldl (behindOwn source) start

/-- Behind `start`, the first that looks like the tag of this element is its own start tag, and
nothing does for an element that has none. -/
def FindsOwn (source : String) (start : Nat) (id : NodeId) (tag : String) : Prop :=
  ∀ found, Finds (searched source) (markOf tag) start found ↔ startTag? source id = some found

section Own
variable {source tag : String} {start k : Nat}

theorem findsOwn_iff_finds (own : startTag? source id = some k) :
    FindsOwn source start id tag ↔ Finds (searched source) (markOf tag) start k := by
  constructor
  · exact fun same => (same k).2 own
  · intro finds found
    rw [own, Option.some_inj]
    exact ⟨fun finds' => finds.unique finds', fun same => same ▸ finds⟩

theorem findsOwn_iff_nowhere (own : startTag? source id = none) : FindsOwn source start id tag ↔
    ∀ found, ¬ Finds (searched source) (markOf tag) start found :=
  forall_congr' fun found => by rw [own]; simp

/-- A start tag is found when it stands ahead, is spelled like the element, and comes first. -/
theorem findsOwn_iff_first (noOpen : '<' ∉ tag.toList) (own : startTag? source id = some k) :
    FindsOwn source start id tag ↔ start ≤ k ∧ IsMark (searched source) (markOf tag) k ∧
      ∀ offset, start ≤ offset → offset < k → ¬ IsMark (searched source) (markOf tag) offset := by
  rw [findsOwn_iff_finds own, finds_iff noOpen]

/-- An element without a start tag is left alone when nothing ahead looks like its tag. -/
theorem findsOwn_iff_none (noOpen : '<' ∉ tag.toList) (own : startTag? source id = none) :
    FindsOwn source start id tag ↔
      ∀ offset, start ≤ offset → ¬ IsMark (searched source) (markOf tag) offset := by
  rw [findsOwn_iff_nowhere own, not_exists_finds_iff noOpen]

end Own

end ComponentMarkup.Html
