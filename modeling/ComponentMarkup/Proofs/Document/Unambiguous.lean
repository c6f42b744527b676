import ComponentMarkup.Document.Serialize
import ComponentMarkup.Proofs.Document.Rework
import ComponentMarkup.Proofs.Text
import Mathlib.Data.List.TakeWhile

/-!
Written markup can be read in one way only. Trees of elements and texts that are written the same
are the same: no text and no value of an attribute ends what it stands in. Leaving attributes out
when a document is written is the same as taking them out of the document before.
-/

namespace ComponentMarkup

/-! ## Cutting text -/

namespace Text

section
variable {p : Char → Bool} {a b x y : List Char}

/-- What goes up to the first character of another kind is cut off in one way. -/
theorem append_inj_of_ends (insideA : ∀ c ∈ a, p c) (insideB : ∀ c ∈ b, p c)
    (endsX : ∀ c ∈ x.head?, p c = false) (endsY : ∀ c ∈ y.head?, p c = false)
    (same : a ++ x = b ++ y) : a = b ∧ x = y := by
  have first : a = b := by
    rw [← takeWhile_append insideA endsX, same, takeWhile_append insideB endsY]
  exact ⟨first, List.append_cancel_left (first ▸ same)⟩

end

/-! ### Escapes -/

/-- Replacing characters by texts none of which is empty or begins another loses nothing. -/
theorem flatMap_injective {code : Char → List Char} (nonempty : ∀ c, code c ≠ [])
    (unmixed : ∀ c d x y, code c ++ x = code d ++ y → c = d) :
    Function.Injective (List.flatMap code) := by
  intro s
  induction s with
  | nil =>
    intro t same
    cases t with
    | nil => rfl
    | cons d t => simp [nonempty] at same
  | cons c s ih =>
    intro t same
    cases t with
    | nil => simp [nonempty] at same
    | cons d t =>
      rw [List.flatMap_cons, List.flatMap_cons] at same
      obtain rfl := unmixed c d _ _ same
      rw [ih (List.append_cancel_left same)]

theorem escapeTextChar_ne_nil (c : Char) : escapeTextChar c ≠ [] := by
  unfold escapeTextChar
  split_ifs <;> simp

theorem escapeAttributeChar_ne_nil (c : Char) : escapeAttributeChar c ≠ [] := by
  unfold escapeAttributeChar
  split_ifs <;> simp

theorem escapeTextChar_unmixed (c d : Char) (x y : List Char)
    (same : escapeTextChar c ++ x = escapeTextChar d ++ y) : c = d := by
  unfold escapeTextChar at same
  split_ifs at same <;> grind

theorem escapeAttributeChar_unmixed (c d : Char) (x y : List Char)
    (same : escapeAttributeChar c ++ x = escapeAttributeChar d ++ y) : c = d := by
  unfold escapeAttributeChar at same
  split_ifs at same <;> grind

theorem ne_of_mem_escapeText {s : List Char} {c : Char} (member : c ∈ s.flatMap escapeTextChar) :
    c ≠ '<' := by
  obtain ⟨d, -, member⟩ := List.mem_flatMap.1 member
  unfold escapeTextChar at member
  split_ifs at member <;> grind

theorem ne_of_mem_escapeAttribute {s : List Char} {c : Char}
    (member : c ∈ s.flatMap escapeAttributeChar) : c ≠ '"' := by
  obtain ⟨d, -, member⟩ := List.mem_flatMap.1 member
  unfold escapeAttributeChar at member
  split_ifs at member <;> grind

/-- Every occurrence of a character replaced by a text. -/
def replaced (old : Char) (new : String) (s : List Char) : List Char :=
  s.flatMap fun c => if c = old then new.toList else [c]

/-- The escapes of a text as replacements one after another, the ampersand first. -/
theorem escapeText_eq_replaced (s : List Char) : s.flatMap escapeTextChar =
    replaced '>' "&gt;" (replaced '<' "&lt;" (replaced '&' "&amp;" s)) := by
  simp only [replaced, List.flatMap_assoc]
  congr 1
  funext c
  rcases eq_or_ne c '&' with rfl | noAmpersand
  · rfl
  rcases eq_or_ne c '<' with rfl | noLess
  · rfl
  rcases eq_or_ne c '>' with rfl | noGreater
  · rfl
  simp only [escapeTextChar, if_neg noAmpersand, if_neg noLess, if_neg noGreater,
    List.flatMap_singleton]

theorem escapeAttribute_eq_replaced (s : List Char) : s.flatMap escapeAttributeChar =
    replaced '"' "&quot;" (replaced '&' "&amp;" s) := by
  simp only [replaced, List.flatMap_assoc]
  congr 1
  funext c
  rcases eq_or_ne c '&' with rfl | noAmpersand
  · rfl
  rcases eq_or_ne c '"' with rfl | noQuote
  · rfl
  simp only [escapeAttributeChar, if_neg noAmpersand, if_neg noQuote, List.flatMap_singleton]

end Text

/-! ## Written trees -/

/-- Lower-case letters, digits and hyphens. -/
def isWordChar (c : Char) : Bool := c.isLower || c.isDigit || c = '-'

/-- What tags and names of attributes are made of. -/
structure IsWord (s : String) : Prop where
  nonempty : s.toList ≠ []
  chars : ∀ c ∈ s.toList, isWordChar c

instance (s : String) : Decidable (IsWord s) :=
  decidable_of_iff (s.toList ≠ [] ∧ s.toList.all isWordChar = true)
    ⟨fun ⟨nonempty, chars⟩ => ⟨nonempty, List.all_eq_true.1 chars⟩,
      fun ⟨nonempty, chars⟩ => ⟨nonempty, List.all_eq_true.2 chars⟩⟩

/-- Elements and texts beside each other: the first, with what is in it, and the rest. -/
inductive Content where
  | nil
  | element (tag : String) (attributes : List (String × String)) (children rest : Content)
  | text (contents : String) (rest : Content)
deriving DecidableEq

namespace Content

/-- What a tree begins with. -/
inductive Kind where
  | nothing
  | element
  | text
deriving DecidableEq

def kind : Content → Kind
  | .nil => .nothing
  | .element .. => .element
  | .text .. => .text

/-- Tags and names of attributes are words, no element holds raw text or is void with children, and
no text is empty or behind another one. -/
def Plain : Content → Prop
  | .nil => True
  | .element tag attributes children rest =>
      IsWord tag ∧ (∀ entry ∈ attributes, IsWord entry.1) ∧ tag ≠ "script" ∧ tag ≠ "style" ∧
        (Tag.isVoid tag = true → children = .nil) ∧ children.Plain ∧ rest.Plain
  | .text contents rest => contents ≠ "" ∧ rest.kind ≠ .text ∧ rest.Plain

instance decidablePlain : (t : Content) → Decidable t.Plain
  | .nil => inferInstanceAs (Decidable True)
  | .element tag attributes children rest =>
      have := decidablePlain children
      have := decidablePlain rest
      inferInstanceAs (Decidable (IsWord tag ∧ (∀ entry ∈ attributes, IsWord entry.1) ∧ _))
  | .text contents rest =>
      have := decidablePlain rest
      inferInstanceAs (Decidable (contents ≠ "" ∧ rest.kind ≠ .text ∧ rest.Plain))

def attributesText : List (String × String) → List Char
  | [] => []
  | (name, value) :: rest =>
      ' ' :: (name.toList ++ '=' :: '"' ::
        (value.toList.flatMap Text.escapeAttributeChar ++ '"' :: attributesText rest))

/-- What is written of the tree. -/
def written : Content → List Char
  | .nil => []
  | .element tag attributes children rest =>
      '<' :: (tag.toList ++ (attributesText attributes ++ '>' ::
        ((if Tag.isVoid tag then []
          else children.written ++ '<' :: '/' :: (tag.toList ++ ['>'])) ++ rest.written)))
  | .text contents rest => contents.toList.flatMap Text.escapeTextChar ++ rest.written

/-- What may follow the children of an element: its end tag, or nothing at the top. -/
def Closes (cs : List Char) : Prop := cs = [] ∨ ∃ rest, cs = '<' :: '/' :: rest

theorem ends_attributesText (attributes : List (String × String)) (u : List Char) :
    ∀ c ∈ (attributesText attributes ++ '>' :: u).head?, isWordChar c = false := by
  cases attributes <;> simp [attributesText, isWordChar]

theorem attributesText_injective {attributes attributes' : List (String × String)}
    {u v : List Char} (words : ∀ a ∈ attributes, IsWord a.1) (words' : ∀ a ∈ attributes', IsWord a.1)
    (same : attributesText attributes ++ '>' :: u = attributesText attributes' ++ '>' :: v) :
    attributes = attributes' ∧ u = v := by
  induction attributes generalizing attributes' with
  | nil =>
    cases attributes' with
    | nil => exact ⟨rfl, (List.cons.inj same).2⟩
    | cons a' attributes' => simp [attributesText] at same
  | cons a attributes ih =>
    cases attributes' with
    | nil => simp [attributesText] at same
    | cons a' attributes' =>
      obtain ⟨name, value⟩ := a
      obtain ⟨name', value'⟩ := a'
      simp only [attributesText, List.cons_append, List.append_assoc, List.cons.injEq,
        true_and] at same
      obtain ⟨names, behindName⟩ := Text.append_inj_of_ends
        (words _ List.mem_cons_self).chars (words' _ List.mem_cons_self).chars
        (by simp [isWordChar]) (by simp [isWordChar]) same
      simp only [List.cons.injEq, true_and] at behindName
      obtain ⟨values, behindValue⟩ := Text.append_inj_of_ends (p := (· != '"'))
        (fun c member => by simpa using Text.ne_of_mem_escapeAttribute member)
        (fun c member => by simpa using Text.ne_of_mem_escapeAttribute member)
        (by simp) (by simp) behindName
      simp only [List.cons.injEq, true_and] at behindValue
      obtain ⟨rfl, behind⟩ := ih (fun a member => words a (List.mem_cons_of_mem _ member))
        (fun a member => words' a (List.mem_cons_of_mem _ member)) behindValue
      obtain rfl : name = name' := String.toList_inj.1 names
      obtain rfl : value = value' := String.toList_inj.1 (Text.flatMap_injective
        Text.escapeAttributeChar_ne_nil Text.escapeAttributeChar_unmixed values)
      exact ⟨rfl, behind⟩

/-- What a written tree begins with, by its first two characters. -/
def kindOf : List Char → Kind
  | [] => .nothing
  | '<' :: '/' :: _ => .nothing
  | '<' :: _ => .element
  | _ => .text

theorem kindOf_of_ne {c : Char} {cs : List Char} (other : c ≠ '<') : kindOf (c :: cs) = .text := by
  unfold kindOf
  split <;> simp_all

theorem kindOf_written {t : Content} {u : List Char} (plain : t.Plain) (closes : Closes u) :
    kindOf (t.written ++ u) = t.kind := by
  cases t with
  | nil => rcases closes with rfl | ⟨rest, rfl⟩ <;> rfl
  | element tag attributes children rest =>
    obtain ⟨word, -⟩ := plain
    cases letters : tag.toList with
    | nil => exact absurd letters word.nonempty
    | cons c letters' =>
      have notSlash : c ≠ '/' := by
        rintro rfl
        have isWord := word.chars '/' (by simp [letters])
        simp [isWordChar] at isWord
      simp [written, letters, kindOf, kind, notSlash]
  | text contents rest =>
    obtain ⟨nonempty, -⟩ := plain
    cases letters : contents.toList.flatMap Text.escapeTextChar with
    | nil =>
      have none := List.flatMap_eq_nil_iff.1 letters
      cases whole : contents.toList with
      | nil => exact absurd (String.toList_eq_nil_iff.1 whole) nonempty
      | cons c cs => exact absurd (none c (by simp [whole])) (Text.escapeTextChar_ne_nil c)
    | cons c letters' =>
      have first := Text.ne_of_mem_escapeText (letters ▸ List.mem_cons_self (a := c))
      rw [written, letters, List.cons_append, List.cons_append, kindOf_of_ne first, kind]

theorem kind_eq {t t' : Content} {u v : List Char} (plain : t.Plain) (plain' : t'.Plain)
    (closes : Closes u) (closes' : Closes v) (same : t.written ++ u = t'.written ++ v) :
    t.kind = t'.kind := by
  rw [← kindOf_written plain closes, same, kindOf_written plain' closes']

/-- Behind a text stands no other, so that a bracket follows it or nothing. -/
theorem ends_written {t : Content} {u : List Char} (other : t.kind ≠ .text) (closes : Closes u) :
    ∀ c ∈ (t.written ++ u).head?, (c != '<') = false := by
  cases t with
  | nil => rcases closes with rfl | ⟨rest, rfl⟩ <;> simp [written]
  | element tag attributes children rest => simp [written]
  | text contents rest => exact absurd rfl other

/-- Trees that are written the same, up to what follows them, are the same. -/
theorem written_injective {t t' : Content} {u v : List Char} (plain : t.Plain) (plain' : t'.Plain)
    (closes : Closes u) (closes' : Closes v) (same : t.written ++ u = t'.written ++ v) :
    t = t' ∧ u = v := by
  induction t generalizing t' u v with
  | nil =>
    have kinds := kind_eq plain plain' closes closes' same
    cases t' with
    | nil => exact ⟨rfl, same⟩
    | element tag' attributes' children' rest' => cases kinds
    | text contents' rest' => cases kinds
  | element tag attributes children rest ihChildren ihRest =>
    have kinds := kind_eq plain plain' closes closes' same
    cases t' with
    | nil => cases kinds
    | text contents' rest' => cases kinds
    | element tag' attributes' children' rest' =>
      obtain ⟨word, names, -, -, void, plainChildren, plainRest⟩ := plain
      obtain ⟨word', names', -, -, void', plainChildren', plainRest'⟩ := plain'
      simp only [written, List.cons_append, List.append_assoc, List.cons.injEq, true_and] at same
      obtain ⟨tags, behindTag⟩ := Text.append_inj_of_ends word.chars word'.chars
        (ends_attributesText attributes _) (ends_attributesText attributes' _) same
      obtain rfl : tag = tag' := String.toList_inj.1 tags
      obtain ⟨rfl, behindStart⟩ := attributesText_injective names names' behindTag
      by_cases isVoid : Tag.isVoid tag = true
      · obtain rfl := void isVoid
        obtain rfl := void' isVoid
        simp only [isVoid, if_true, List.nil_append] at behindStart
        obtain ⟨rfl, after⟩ := ihRest plainRest plainRest' closes closes' behindStart
        exact ⟨rfl, after⟩
      · rw [if_neg isVoid, if_neg isVoid, List.append_assoc, List.append_assoc] at behindStart
        obtain ⟨rfl, behindChildren⟩ :=
          ihChildren plainChildren plainChildren' (.inr ⟨_, rfl⟩) (.inr ⟨_, rfl⟩) behindStart
        obtain ⟨rfl, after⟩ := ihRest plainRest plainRest' closes closes' (by simpa using behindChildren)
        exact ⟨rfl, after⟩
  | text contents rest ih =>
    have kinds := kind_eq plain plain' closes closes' same
    cases t' with
    | nil => cases kinds
    | element tag' attributes' children' rest' => cases kinds
    | text contents' rest' =>
      obtain ⟨-, other, plainRest⟩ := plain
      obtain ⟨-, other', plainRest'⟩ := plain'
      simp only [written, List.append_assoc] at same
      obtain ⟨texts, behind⟩ := Text.append_inj_of_ends (p := (· != '<'))
        (fun c member => by simpa using Text.ne_of_mem_escapeText member)
        (fun c member => by simpa using Text.ne_of_mem_escapeText member)
        (ends_written other closes) (ends_written other' closes') same
      obtain rfl : contents = contents' := String.toList_inj.1 (Text.flatMap_injective
        Text.escapeTextChar_ne_nil Text.escapeTextChar_unmixed texts)
      obtain ⟨rfl, after⟩ := ih plainRest plainRest' closes closes' behind
      exact ⟨rfl, after⟩

end Content

/-! ## Documents -/

namespace Document

/-- The elements and texts of a forest, when there is nothing else in it and nothing in a text. -/
def content? (d : Document) : Forest → Option Content
  | .nil => some .nil
  | .cons id below rest =>
      match d.data? id, below with
      | some (.element tag attributes), below => do
          return .element tag attributes.entries (← d.content? below) (← d.content? rest)
      | some (.text contents), .nil => do return .text contents (← d.content? rest)
      | _, _ => none

variable {d : Document} {id : NodeId} {below rest f : Forest} {t : Content}

theorem toList_tagText (tag : String) (attributes : List (String × String)) :
    (tagText tag attributes).toList =
      '<' :: (tag.toList ++ (Content.attributesText attributes ++ ['>'])) := by
  have inner : (String.join (attributes.map fun entry => attributeText entry.1 entry.2)).toList =
      Content.attributesText attributes := by
    induction attributes with
    | nil => rfl
    | cons entry attributes ih =>
      rw [List.map_cons, String.join_cons, String.toList_append, ih]
      simp [attributeText, Content.attributesText, Text.escapedAttribute]
  simp [tagText, inner]

theorem holdsRawText_of_plain {tag : String} {attributes : Attributes}
    (data : d.data? id = some (.element tag attributes)) (notScript : tag ≠ "script")
    (notStyle : tag ≠ "style") : d.holdsRawText id = false := by
  simp [holdsRawText, isElement, tag?, data, notScript, notStyle]

theorem content?_cons (read : d.content? (.cons id below rest) = some t) :
    (∃ tag attributes children after, d.data? id = some (.element tag attributes) ∧
      d.content? below = some children ∧ d.content? rest = some after ∧
      t = .element tag attributes.entries children after) ∨
    ∃ contents after, d.data? id = some (.text contents) ∧ below = .nil ∧
      d.content? rest = some after ∧ t = .text contents after := by
  unfold content? at read
  split at read
  · next tag attributes data =>
      obtain ⟨children, readBelow, read⟩ := Option.bind_eq_some_iff.1 read
      obtain ⟨after, readRest, read⟩ := Option.bind_eq_some_iff.1 read
      exact .inl ⟨tag, attributes, children, after, data, readBelow, readRest,
        (Option.some.inj read).symm⟩
  · next contents data =>
      obtain ⟨after, readRest, read⟩ := Option.bind_eq_some_iff.1 read
      exact .inr ⟨contents, after, data, rfl, readRest, (Option.some.inj read).symm⟩
  · cases read

/-- What is written of the elements and texts of a forest. -/
theorem toList_writeForest (wellFormed : d.WellFormed) (follows : f.Follows d.children)
    (escaped : ∀ n ∈ f.tops, d.inRawText n = false) (read : d.content? f = some t)
    (plain : t.Plain) : (d.writeForest (fun _ _ => true) f).toList = t.written := by
  induction f generalizing t with
  | nil =>
    obtain rfl := Option.some.inj read
    rfl
  | cons id below rest ihBelow ihRest =>
    obtain ⟨children, followsBelow, followsRest⟩ := follows
    have escapedRest : ∀ n ∈ rest.tops, d.inRawText n = false :=
      fun n top => escaped n (List.mem_cons_of_mem _ top)
    rcases content?_cons read with
      ⟨tag, attributes, inner, after, data, readBelow, readRest, rfl⟩ |
      ⟨contents, after, data, rfl, readRest, rfl⟩
    · obtain ⟨-, -, notScript, notStyle, -, plainBelow, plainRest⟩ := plain
      have escapedBelow : ∀ n ∈ below.tops, d.inRawText n = false := by
        intro n top
        have parent := (wellFormed.linked id n).1 (children ▸ top)
        rw [inRawText, parent]
        exact holdsRawText_of_plain data notScript notStyle
      have startTag : (d.startTagWith (fun _ _ => true) id).toList =
          '<' :: (tag.toList ++ (Content.attributesText attributes.entries ++ ['>'])) := by
        rw [startTagWith, data]
        simp [toList_tagText]
      have inner := ihBelow followsBelow escapedBelow readBelow plainBelow
      have later := ihRest followsRest escapedRest readRest plainRest
      rw [writeForest, data]
      by_cases isVoid : Tag.isVoid tag = true
      · simp [Content.written, isVoid, startTag, later]
      · simp [Content.written, isVoid, startTag, inner, later]
    · obtain ⟨-, -, plainRest⟩ := plain
      rw [writeForest, data]
      simp only [escaped id List.mem_cons_self, String.toList_append,
        ihRest followsRest escapedRest readRest plainRest]
      simp [Content.written, Text.escapedText]

/-- The node is the top of a plain tree of elements and texts, and nothing above it holds raw text. -/
structure PlainTree (d : Document) (id : NodeId) (t : Content) : Prop where
  wellFormed : d.WellFormed
  inside : id < d.size
  escaped : d.inRawText id = false
  read : d.content? (d.forest id) = some t
  plain : t.Plain

theorem PlainTree.toList_markup (tree : d.PlainTree id t) : (d.markup id).toList = t.written := by
  obtain ⟨tops, follows, -⟩ := tree.wellFormed.forest_spec tree.inside
  refine toList_writeForest tree.wellFormed follows (fun n top => ?_) tree.read tree.plain
  rw [tops, List.mem_singleton] at top
  exact top ▸ tree.escaped

end Document

/-! ## Attributes taken out -/

/-- An element without the attributes that `keep` rejects. -/
def NodeData.keeping (keep : String → Bool) : NodeData → NodeData
  | .element tag attributes => .element tag ⟨attributes.entries.filter fun entry => keep entry.1⟩
  | data => data

namespace Document

/-- The document without the attributes that `keep` rejects. -/
def keeping (d : Document) (keep : NodeId → String → Bool) : Document :=
  ⟨d.nodes.mapIdx fun id node => { node with data := node.data.keeping (keep id) }⟩

section
variable (d : Document) (keep : NodeId → String → Bool) (id : NodeId)

theorem node?_keeping : (d.keeping keep).node? id =
    (d.node? id).map fun node => { node with data := node.data.keeping (keep id) } := by
  rw [node?, keeping, Array.getElem?_mapIdx]
  rfl

theorem children_keeping : (d.keeping keep).children id = d.children id := by
  rw [children, children, node?_keeping]
  cases d.node? id <;> rfl

theorem parent?_keeping : (d.keeping keep).parent? id = d.parent? id := by
  rw [parent?, parent?, node?_keeping]
  cases d.node? id <;> rfl

theorem data?_keeping :
    (d.keeping keep).data? id = (d.data? id).map (NodeData.keeping (keep id)) := by
  rw [data?, data?, node?_keeping]
  cases d.node? id <;> rfl

theorem tag?_keeping : (d.keeping keep).tag? id = d.tag? id := by
  rw [tag?, tag?, data?_keeping]
  cases d.data? id with
  | none => rfl
  | some data => cases data <;> rfl

theorem inRawText_keeping : (d.keeping keep).inRawText id = d.inRawText id := by
  simp only [inRawText, holdsRawText, isElement, parent?_keeping, tag?_keeping]

theorem forest_keeping : (d.keeping keep).forest id = d.forest id := by
  have same : (d.keeping keep).children = d.children := funext (d.children_keeping keep)
  rw [forest, forest, Forest.forestTo_eq_unfold, Forest.forestTo_eq_unfold, same, size, size, keeping,
    Array.size_mapIdx]

theorem startTag_keeping :
    (d.keeping keep).startTagWith (fun _ _ => true) id = d.startTagWith keep id := by
  rw [startTagWith, startTagWith, data?_keeping]
  cases d.data? id with
  | none => rfl
  | some data => cases data <;> simp [NodeData.keeping]

theorem writeForest_keeping (f : Forest) :
    (d.keeping keep).writeForest (fun _ _ => true) f = d.writeForest keep f := by
  induction f with
  | nil => rfl
  | cons id below rest ihBelow ihRest =>
    rw [writeForest, writeForest, ihBelow, ihRest, inRawText_keeping, startTag_keeping, data?_keeping]
    cases d.data? id with
    | none => rfl
    | some data => cases data <;> rfl

end

/-- To leave attributes out when a document is written is to write it without them, and plain trees
that are written the same are the same. -/
theorem markup_unambiguous :
    (∀ (d : Document) (keep : NodeId → String → Bool) (id : NodeId),
      d.markupWith keep id = (d.keeping keep).markup id) ∧
    ∀ (d d' : Document) (id id' : NodeId) (t t' : Content), d.PlainTree id t →
      d'.PlainTree id' t' → (d.markup id = d'.markup id' ↔ t = t') := by
  constructor
  · intro d keep id
    rw [markup, markupWith, markupWith, forest_keeping, writeForest_keeping]
  · intro d d' id id' t t' tree tree'
    constructor
    · intro same
      have written : t.written ++ [] = t'.written ++ [] := by
        rw [← tree.toList_markup, same, tree'.toList_markup]
      exact (Content.written_injective tree.plain tree'.plain (.inl rfl) (.inl rfl) written).1
    · rintro rfl
      rw [← String.toList_inj, tree.toList_markup, tree'.toList_markup]

/-- A paragraph with the text of a tag in it. -/
def quotedBreak : Document where
  nodes := #[{ data := .document, children := [1] },
    { data := .element "p" ⟨[("title", "\"><br a=\"")]⟩, parent := some 0, children := [2] },
    { data := .text "<br>&amp;", parent := some 1 }]

/-- A paragraph with a break in it. -/
def realBreak : Document where
  nodes := #[{ data := .document, children := [1] },
    { data := .element "p" ⟨[("title", "")]⟩, parent := some 0, children := [2, 3] },
    { data := .element "br" {}, parent := some 1 },
    { data := .text "&", parent := some 1 }]

theorem plainTree_quotedBreak : quotedBreak.PlainTree 1
    (.element "p" [("title", "\"><br a=\"")] (.text "<br>&amp;" .nil) .nil) where
  wellFormed := .of_checked (show quotedBreak.Checked fun id => id by decide)
  inside := by decide
  escaped := by decide
  read := by decide
  plain := by decide

theorem plainTree_realBreak : realBreak.PlainTree 1
    (.element "p" [("title", "")] (.element "br" [] .nil (.text "&" .nil)) .nil) where
  wellFormed := .of_checked (show realBreak.Checked fun id => min id 2 by decide)
  inside := by decide
  escaped := by decide
  read := by decide
  plain := by decide

/-- Neither the text nor the title writes the break. -/
theorem markup_unambiguous_quotedBreak :
    quotedBreak.PlainTree 1
        (.element "p" [("title", "\"><br a=\"")] (.text "<br>&amp;" .nil) .nil) ∧
      realBreak.PlainTree 1
        (.element "p" [("title", "")] (.element "br" [] .nil (.text "&" .nil)) .nil) ∧
      quotedBreak.markup 1 ≠ realBreak.markup 1 :=
  ⟨plainTree_quotedBreak, plainTree_realBreak,
    (markup_unambiguous.2 _ _ _ _ _ _ plainTree_quotedBreak plainTree_realBreak).not.2 (by decide)⟩

end Document
end ComponentMarkup
