import ComponentMarkup.Document.Serialize
import ComponentMarkup.Proofs.Document.Rework

/-!
Which start tags written markup consists of: every element has one, with the attributes that are
kept, unless a void element stands above it.
-/

namespace ComponentMarkup

namespace Forest

/-- Whether `q` stands above `n`. -/
def Above (q n : NodeId) : Forest → Prop
  | .nil => False
  | .cons node below rest => node = q ∧ n ∈ below.preorder ∨ below.Above q n ∨ rest.Above q n

theorem mem_preorder_of_above {q n : NodeId} {f : Forest} (above : f.Above q n) :
    n ∈ f.preorder := by
  induction f with
  | nil => exact above.elim
  | cons node below rest ihBelow ihRest =>
      rw [preorder, List.mem_cons, List.mem_append]
      rcases above with ⟨-, member⟩ | inBelow | inRest
      · exact .inr (.inl member)
      · exact .inr (.inl (ihBelow inBelow))
      · exact .inr (.inr (ihRest inRest))

section Cons
variable {id q n : NodeId} {below rest : Forest}

theorem not_above_top (notBelow : n ∉ below.preorder) (notRest : n ∉ rest.preorder) :
    ¬ (cons n below rest).Above q n := by
  rintro (⟨-, member⟩ | above | above)
  · exact notBelow member
  · exact notBelow (mem_preorder_of_above above)
  · exact notRest (mem_preorder_of_above above)

theorem above_cons_of_below (member : n ∈ below.preorder) (notRest : n ∉ rest.preorder) :
    (cons id below rest).Above q n ↔ id = q ∨ below.Above q n := by
  constructor
  · rintro (⟨same, -⟩ | above | above)
    · exact .inl same
    · exact .inr above
    · exact absurd (mem_preorder_of_above above) notRest
  · exact Or.imp (fun same => ⟨same, member⟩) .inl

theorem above_cons_of_rest (notBelow : n ∉ below.preorder) :
    (cons id below rest).Above q n ↔ rest.Above q n := by
  constructor
  · rintro (⟨-, member⟩ | above | above)
    · exact absurd member notBelow
    · exact absurd (mem_preorder_of_above above) notBelow
    · exact above
  · exact fun above => .inr (.inr above)

end Cons
end Forest

namespace Document

/-- A start tag with the element that it is of, or anything else that is written. -/
inductive Piece where
  | start (node : NodeId) (tag : String) (attributes : List (String × String))
  | other (text : String)
deriving DecidableEq

def Piece.text : Piece → String
  | .start _ tag attributes => tagText tag attributes
  | .other text => text

/-- The pieces of the markup of a forest, in order. -/
def pieces (d : Document) (keep : NodeId → String → Bool) : Forest → List Piece
  | .nil => []
  | .cons id children rest =>
      let own :=
        match d.data? id with
        | none => []
        | some .document => d.pieces keep children
        | some (.doctype name) => [.other ("<!DOCTYPE " ++ name ++ ">")]
        | some (.text contents) =>
            [.other (if d.inRawText id then contents else Text.escapedText contents)]
        | some (.comment contents) => [.other ("<!--" ++ contents ++ "-->")]
        | some (.element tag attributes) =>
            .start id tag (attributes.entries.filter fun (name, _) => keep id name) ::
              if Tag.isVoid tag then []
              else d.pieces keep children ++ [.other ("</" ++ tag ++ ">")]
      own ++ d.pieces keep rest

variable {d : Document} {keep : NodeId → String → Bool} {f : Forest} {n : NodeId} {tag : String}
  {attributes : Attributes}

theorem pieces_append (d : Document) (keep : NodeId → String → Bool) (f g : Forest) :
    d.pieces keep (f.append g) = d.pieces keep f ++ d.pieces keep g := by
  induction f with
  | nil => rfl
  | cons id children rest _ ih => rw [Forest.append, pieces, pieces, ih, List.append_assoc]

theorem writeForest_eq (d : Document) (keep : NodeId → String → Bool) (f : Forest) :
    d.writeForest keep f = String.join ((d.pieces keep f).map Piece.text) := by
  induction f with
  | nil => rfl
  | cons id children rest ihChildren ihRest =>
      rw [writeForest, pieces, List.map_append, String.join_append, ihRest]
      congr 1
      cases data : d.data? id with
      | none => rfl
      | some data' =>
          cases data' with
          | document => exact ihChildren
          | doctype name => simp [Piece.text]
          | text contents => simp [Piece.text]
          | comment contents => simp [Piece.text]
          | element tag attributes =>
              have own : d.startTagWith keep id =
                  tagText tag (attributes.entries.filter fun (name, _) => keep id name) := by
                rw [startTagWith, data]
              rw [own, ihChildren]
              cases void : Tag.isVoid tag with
              | true => simp [Piece.text, void]
              | false => simp [Piece.text, void, String.append_assoc]

theorem mem_preorder_of_start {kept : List (String × String)}
    (member : .start n tag kept ∈ d.pieces keep f) : n ∈ f.preorder := by
  induction f with
  | nil => cases member
  | cons id children rest ihChildren ihRest =>
      rw [pieces, List.mem_append] at member
      rw [Forest.preorder, List.mem_cons, List.mem_append]
      rcases member with own | later
      · split at own
        · cases own
        · exact .inr (.inl (ihChildren own))
        · simp at own
        · simp at own
        · simp at own
        · rw [List.mem_cons] at own
          rcases own with here | inside
          · exact .inl (Piece.start.inj here).1
          · split at inside
            · cases inside
            · rw [List.mem_append] at inside
              rcases inside with inside | finish
              · exact .inr (.inl (ihChildren inside))
              · simp at finish
      · exact .inr (.inr (ihRest later))

theorem start_mem_pieces_element {id : NodeId} {below rest : Forest} {tag' : String}
    {kept : List (String × String)} (data : d.data? id = some (.element tag attributes)) :
    .start n tag' kept ∈ d.pieces keep (.cons id below rest) ↔
      (n = id ∧ tag' = tag ∧ kept = attributes.entries.filter fun (name, _) => keep id name) ∨
        (Tag.isVoid tag = false ∧ .start n tag' kept ∈ d.pieces keep below) ∨
        .start n tag' kept ∈ d.pieces keep rest := by
  rw [pieces, data]
  cases void : Tag.isVoid tag with
  | true => simp [void]
  | false => simp [void]

/-- An element below elements has its start tag written unless one of them is void. -/
theorem start_mem_pieces_iff (distinct : f.preorder.Nodup) (reached : n ∈ d.reached f)
    (data : d.data? n = some (.element tag attributes)) {tag' : String}
    {kept : List (String × String)} :
    .start n tag' kept ∈ d.pieces keep f ↔
      tag' = tag ∧ (kept = attributes.entries.filter fun (name, _) => keep n name) ∧
        ∀ q other, f.Above q n → d.tag? q = some other → Tag.isVoid other = false := by
  induction f with
  | nil => cases reached
  | cons id below rest ihBelow ihRest =>
      rw [Forest.preorder, List.nodup_cons, List.mem_append, List.nodup_append] at distinct
      obtain ⟨fresh, distinctBelow, distinctRest, apart⟩ := distinct
      rw [Document.reached, List.mem_cons, List.mem_append] at reached
      have notRest (member : n ∈ below.preorder) : n ∉ rest.preorder :=
        fun other => apart n member n other rfl
      -- A start tag of `n` is written where `n` stands, and nowhere else.
      rcases reached with rfl | inBelow | inRest
      · have notBelow : .start n tag' kept ∉ d.pieces keep below := fun member =>
          fresh (.inl (mem_preorder_of_start member))
        have notLater : .start n tag' kept ∉ d.pieces keep rest := fun member =>
          fresh (.inr (mem_preorder_of_start member))
        have nothing (q : NodeId) : ¬ (Forest.cons n below rest).Above q n :=
          Forest.not_above_top (fun member => fresh (.inl member)) fun member => fresh (.inr member)
        rw [start_mem_pieces_element data]
        simp [notBelow, notLater, nothing]
      · split at inBelow
        · next element =>
          obtain ⟨other, isElement⟩ := Option.isSome_iff_exists.1 element
          obtain ⟨others, here⟩ := tag?_eq_some.1 isElement
          have member := mem_preorder_of_mem_reached inBelow
          have notLater : .start n tag' kept ∉ d.pieces keep rest := fun later =>
            notRest member (mem_preorder_of_start later)
          have different : n ≠ id := fun same => fresh (.inl (same ▸ member))
          have open_iff : (∀ q tag, (Forest.cons id below rest).Above q n → d.tag? q = some tag →
              Tag.isVoid tag = false) ↔ Tag.isVoid other = false ∧
                ∀ q tag, below.Above q n → d.tag? q = some tag → Tag.isVoid tag = false := by
            simp only [Forest.above_cons_of_below member (notRest member)]
            constructor
            · intro clear
              exact ⟨clear id other (.inl rfl) isElement, fun q tag inside =>
                clear q tag (.inr inside)⟩
            · rintro ⟨clear, inner⟩ q tag (rfl | inside) found
              · cases isElement.symm.trans found
                exact clear
              · exact inner q tag inside found
          rw [start_mem_pieces_element here, open_iff, ihBelow distinctBelow inBelow]
          simp only [different, false_and, notLater, or_false, false_or]
          exact and_left_comm.trans (and_congr_right fun _ => and_left_comm)
        · cases inBelow
      · have member := mem_preorder_of_mem_reached inRest
        have notBelow : n ∉ below.preorder := fun inside => notRest inside member
        have notEarlier : .start n tag' kept ∉ d.pieces keep (.cons id below .nil) := by
          intro early
          have inFirst := mem_preorder_of_start early
          rw [Forest.preorder, Forest.preorder, List.append_nil, List.mem_cons] at inFirst
          rcases inFirst with rfl | inFirst
          · exact fresh (.inr member)
          · exact notBelow inFirst
        have split : d.pieces keep (.cons id below rest) =
            d.pieces keep (.cons id below .nil) ++ d.pieces keep rest :=
          pieces_append d keep (.cons id below .nil) rest
        rw [split, List.mem_append, or_iff_right notEarlier, ihRest distinctRest inRest]
        simp only [Forest.above_cons_of_rest notBelow]

end Document
end ComponentMarkup
