import ComponentMarkup.Html.Reading
import ComponentMarkup.Proofs.Document.Changes

/-!
While a tree is built it never loses a node, and no node changes its name.
-/

namespace ComponentMarkup

namespace Document

/-- Nodes may have been added since, and those that were there have kept their names. -/
structure Grows (start d : Document) : Prop where
  size_le : start.size ≤ d.size
  tag?_eq : ∀ n < start.size, d.tag? n = start.tag? n

namespace Grows
variable {start d d' : Document}

theorem refl (d : Document) : d.Grows d := ⟨Nat.le_refl _, fun _ _ => rfl⟩

theorem trans (first : start.Grows d) (second : d.Grows d') : start.Grows d' where
  size_le := Nat.le_trans first.size_le second.size_le
  tag?_eq n old := by
    rw [second.tag?_eq n (Nat.lt_of_lt_of_le old first.size_le), first.tag?_eq n old]

theorem add (grows : start.Grows d) (data : NodeData) (position : Position) :
    start.Grows (d.add data position).2 := by
  refine grows.trans ⟨by rw [size_add]; exact Nat.le_succ _, fun n old => ?_⟩
  exact tag?_congr (by rw [data?_add, if_neg (Nat.ne_of_lt old)])

theorem update (grows : start.Grows d) (id : NodeId) (f : Node → Node)
    (kept : ∀ node, (f node).data = node.data) : start.Grows (d.update id f) :=
  grows.trans ⟨Nat.le_of_eq (size_update d id f).symm,
    fun _ _ => tag?_congr (map_node?_update d id _ _ f kept)⟩

theorem mapAttributes (grows : start.Grows d) (id : NodeId) (f : Attributes → Attributes) :
    start.Grows (d.mapAttributes id f) :=
  grows.trans ⟨Nat.le_of_eq (size_mapAttributes d id f).symm, fun _ _ => tag?_mapAttributes ..⟩

theorem setText (grows : start.Grows d) (id : NodeId) (contents : String) :
    start.Grows (d.setText id contents) :=
  grows.trans ⟨Nat.le_of_eq (size_setText ..).symm, fun _ _ => tag?_setText ..⟩

theorem detach (grows : start.Grows d) (id : NodeId) : start.Grows (d.detach id) := by
  unfold Document.detach
  split
  · exact grows
  · exact (grows.update _ _ fun _ => by rfl).update _ _ fun _ => by rfl

theorem place (grows : start.Grows d) (parent child : NodeId) :
    start.Grows (d.place parent child) :=
  (grows.update _ _ fun _ => by rfl).update _ _ fun _ => by rfl

end Grows
end Document

namespace Html.Builder
open Document
variable {d : Document} {b : Builder}

theorem grows_placeAt {d' : Document} (grows : d.Grows d') (spot : Spot) (child : NodeId) :
    d.Grows (placeAt d' spot child) := by
  unfold placeAt
  dsimp only
  split
  · exact (grows.detach child).place _ _
  · exact ((grows.detach child).update _ _ fun _ => by rfl).update _ _ fun _ => by rfl

/-! ## Nodes -/

@[grind ←] theorem grows_addNode (grows : d.Grows b.document) (spot : Spot) (data : NodeData) :
    d.Grows (b.addNode spot data).2.document :=
  grows_placeAt (grows.add data {}) _ _

@[grind ←] theorem grows_addText (grows : d.Grows b.document) (text : List Char) :
    d.Grows (b.addText text).document := by
  unfold addText
  dsimp only
  split
  · exact grows
  · split
    · exact grows.setText _ _
    · exact grows_addNode grows _ _

@[grind ←] theorem grows_addComment (grows : d.Grows b.document) (contents : String) :
    d.Grows (b.addComment contents).document :=
  grows_addNode grows _ _

@[grind ←] theorem grows_openAt (grows : d.Grows b.document) (spot : Spot) (name : String)
    (space : Space) (attributes : OrderedMap String String) :
    d.Grows (b.openAt spot name space attributes).2.document :=
  grows_addNode grows _ _

@[grind ←] theorem grows_openTag (grows : d.Grows b.document) (tag : Tag) :
    d.Grows (b.openTag tag).document :=
  grows_openAt grows _ _ _ _

@[grind ←] theorem grows_openImplied (grows : d.Grows b.document) (name : String) :
    d.Grows (b.openImplied name).document :=
  grows_openTag grows _

@[grind ←] theorem grows_mergeAttributes (grows : d.Grows b.document) (node : NodeId) (tag : Tag) :
    d.Grows (b.mergeAttributes node tag).document :=
  grows.mapAttributes _ _

@[grind ←] theorem grows_mergeHtml (grows : d.Grows b.document) (tag : Tag) :
    d.Grows (b.mergeHtml tag).document := by
  unfold mergeHtml
  split
  · split
    · exact grows
    · exact grows_mergeAttributes grows _ _
  · exact grows

@[grind ←] theorem grows_copy (grows : d.Grows b.document) (e : OpenElement) :
    d.Grows (b.copy e).2.document :=
  grows.add _ _

@[grind ←] theorem grows_moveTo (grows : d.Grows b.document) (spot : Spot) (node : NodeId) :
    d.Grows (b.moveTo spot node).document :=
  grows_placeAt grows _ _

/-! ## What only closes -/

theorem grows_ite {c : Prop} [Decidable c] {b b' : Builder} (first : d.Grows b.document)
    (second : d.Grows b'.document) : d.Grows (if c then b else b').document := by
  split
  · exact first
  · exact second

@[grind =] theorem document_pop : b.pop.document = b.document := rfl

@[grind =] theorem document_popUntil {isLast : String → Bool} :
    (b.popUntil isLast).document = b.document := rfl

@[grind =] theorem document_clearTo {names : List String} :
    (b.clearTo names).document = b.document := rfl

@[grind =] theorem document_popImplied {except : String} :
    (b.popImplied except).document = b.document := rfl

@[grind =] theorem document_setMode {mode : Mode} : (b.setMode mode).document = b.document := rfl

@[grind =] theorem document_resetMode : b.resetMode.document = b.document := rfl

@[grind =] theorem document_addMarker : b.addMarker.document = b.document := rfl

@[grind =] theorem document_clearFormatting : b.clearFormatting.document = b.document := rfl

@[grind =] theorem document_dropFormat {node : NodeId} :
    (b.dropFormat node).document = b.document := rfl

@[grind =] theorem document_replaceFormat {node : NodeId} {e : OpenElement} :
    (b.replaceFormat node e).document = b.document := rfl

@[grind =] theorem document_dropOpen {node : NodeId} : (b.dropOpen node).document = b.document := rfl

@[grind =] theorem document_replaceOpen {node : NodeId} {e : OpenElement} :
    (b.replaceOpen node e).document = b.document := rfl

@[grind =] theorem document_leaveTemplate : b.leaveTemplate.document = b.document := rfl

@[grind =] theorem document_closeTemplate : b.closeTemplate.document = b.document := by
  unfold closeTemplate
  split <;> rfl

@[grind =] theorem document_closeParagraph : b.closeParagraph.document = b.document := by
  unfold closeParagraph
  split <;> rfl

@[grind =] theorem document_closeInScope {bounds : Space → String → Bool} {wanted : String → Bool}
    {except : String} : (b.closeInScope bounds wanted except).document = b.document := by
  unfold closeInScope
  split <;> rfl

@[grind =] theorem document_closeItem {isItem : String → Bool} :
    (b.closeItem isItem).document = b.document := by
  unfold closeItem
  split
  · split <;> rfl
  · rfl

@[grind =] theorem document_closeNamed {name : String} : (b.closeNamed name).document = b.document := by
  unfold closeNamed
  split
  · split <;> rfl
  · rfl

@[grind =] theorem document_closeForm : b.closeForm.document = b.document := by
  unfold closeForm
  split
  · exact document_closeInScope
  · split
    · rfl
    · dsimp only
      split <;> rfl

@[grind =] theorem document_pushFormat {e : OpenElement} : (b.pushFormat e).document = b.document := by
  unfold pushFormat
  dsimp only
  split <;> rfl

@[grind =] theorem document_renewFormat {old : NodeId} {behind : Option NodeId} {e : OpenElement} :
    (b.renewFormat old behind e).document = b.document := by
  unfold renewFormat
  split <;> rfl

@[grind =] theorem document_popNamed {name : String} : (b.popNamed name).document = b.document := by
  unfold popNamed
  split <;> rfl

/-! ## Formatting -/

@[grind ←] theorem grows_openFormatting (grows : d.Grows b.document) (tag : Tag) :
    d.Grows (b.openFormatting tag).document := by
  rw [openFormatting, document_pushFormat]
  exact grows_openAt grows _ _ _ _

/-- What is done with one thing after another. -/
theorem grows_foldl {α : Type} {f : Builder → α → Builder} {xs : List α}
    (one : ∀ b x, d.Grows b.document → d.Grows (f b x).document) (grows : d.Grows b.document) :
    d.Grows (xs.foldl f b).document := by
  induction xs generalizing b with
  | nil => exact grows
  | cons x xs ih => exact ih (one b x grows)

@[grind ←] theorem grows_reopenFormatting (grows : d.Grows b.document) :
    d.Grows b.reopenFormatting.document :=
  grows_foldl (fun _ e grows => grows_openAt grows _ e.name .html e.attributes) grows

theorem grows_pass {a : Adoption} (grows : d.Grows a.builder.document) (distance : Nat)
    (e : OpenElement) : d.Grows (a.pass distance e).builder.document := by
  unfold Adoption.pass
  dsimp only
  split
  · exact grows
  · exact grows_moveTo (b := ((a.builder.copy e).2.replaceFormat _ _).replaceOpen _ _)
      (grows_copy grows e) _ _

theorem grows_passAll {between : List (OpenElement × Nat)} {a : Adoption}
    (grows : d.Grows a.builder.document) :
    d.Grows (between.foldl (fun a (e, distance) => a.pass distance e) a).builder.document := by
  induction between generalizing a with
  | nil => exact grows
  | cons e between ih => exact ih (grows_pass grows _ _)

theorem grows_adopt (grows : d.Grows b.document) (format block : OpenElement) :
    d.Grows (b.adopt format block).document := by
  unfold adopt
  dsimp only
  rw [document_renewFormat]
  refine grows_moveTo (grows_foldl (fun _ _ grows => grows_moveTo grows _ _) ?_) _ _
  exact grows_copy (grows_moveTo (grows_passAll grows) _ _) _

theorem grows_closeFormattingFor (grows : d.Grows b.document) (name : String) (rounds : Nat) :
    d.Grows (closeFormattingFor name rounds b).document := by
  induction rounds generalizing b with
  | zero => exact grows
  | succ rounds ih =>
      rw [closeFormattingFor]
      split
      · rwa [document_closeNamed]
      · split
        · exact grows
        · split
          · exact grows
          · split
            · exact ih (grows_adopt grows _ _)
            · exact grows

@[grind ←] theorem grows_closeFormatting (grows : d.Grows b.document) (name : String) :
    d.Grows (b.closeFormatting name).document := by
  unfold closeFormatting
  split
  · split
    · exact grows
    · exact grows_closeFormattingFor grows _ _
  · exact grows

/-! ## Start tags -/

@[grind ←] theorem grows_addVoid (grows : d.Grows b.document) (tag : Tag) :
    d.Grows (b.addVoid tag).document := grows_openTag grows _

@[grind ←] theorem grows_openText (grows : d.Grows b.document) (tag : Tag) (textMode : TextMode) :
    d.Grows (b.openText tag textMode).document := grows_openTag grows _

@[grind ←] theorem grows_openTemplate (grows : d.Grows b.document) (tag : Tag) :
    d.Grows (b.openTemplate tag).document := grows_openTag grows _

@[grind ←] theorem grows_openHeadContent (grows : d.Grows b.document) (tag : Tag) :
    d.Grows (b.openHeadContent tag).document := by
  grind [openHeadContent]

@[grind ←] theorem grows_openForeign (grows : d.Grows b.document) (tag : Tag) (space : Space) :
    d.Grows (b.openForeign tag space).document := by
  grind [openForeign]

@[grind ←] theorem grows_openHeading (grows : d.Grows b.document) (tag : Tag) :
    d.Grows (b.openHeading tag).document := by
  grind [openHeading]

@[grind ←] theorem grows_openForm (grows : d.Grows b.document) (tag : Tag) :
    d.Grows (b.openForm tag).document := by
  grind [openForm]

@[grind ←] theorem grows_openAnchor (grows : d.Grows b.document) (tag : Tag) :
    d.Grows (b.openAnchor tag).document := by
  grind [openAnchor]

@[grind ←] theorem grows_openBody (grows : d.Grows b.document) (tag : Tag) :
    d.Grows (b.openBody tag).document := by
  grind [openBody]

@[grind ←] theorem grows_openFrameset (grows : d.Grows b.document) (tag : Tag) :
    d.Grows (b.openFrameset tag).document := by
  grind [openFrameset, Grows.detach]

@[grind ←] theorem grows_openInBody (grows : d.Grows b.document) (tag : Tag) :
    d.Grows (b.openInBody tag).document := by
  unfold openInBody
  repeat' with_reducible apply grows_ite
  all_goals grind [openButton, openSelect, openOption, openTable]

/-! ## Parts of a document -/

theorem grows_builder_ite {c : Prop} [Decidable c] {s s' : Step}
    (first : d.Grows s.builder.document) (second : d.Grows s'.builder.document) :
    d.Grows (if c then s else s').builder.document := by
  split
  · exact first
  · exact second

@[grind =] theorem builder_done : (Step.done b).builder = b := rfl

@[grind =] theorem builder_again : (Step.again b).builder = b := rfl

@[grind =] theorem document_endDocument : b.endDocument.builder.document = b.document := by
  unfold endDocument
  split <;> rfl

@[grind ←] theorem grows_closeInBody (grows : d.Grows b.document) (name : String) :
    d.Grows (b.closeInBody name).builder.document := by
  unfold closeInBody
  repeat' with_reducible apply grows_builder_ite
  all_goals grind

@[grind ←] theorem grows_inBody (grows : d.Grows b.document) (token : Token) :
    d.Grows (b.inBody token).builder.document := by
  cases token with
  | text text => grind [inBody]
  | start tag =>
      exact grows_openInBody (b := { b with canFrame := b.canFrame && !showsUp tag }) grows tag
  | close name => exact grows_closeInBody grows name
  | comment contents => exact grows_addComment grows contents
  | doctype type => exact grows
  | done => grind [inBody]

@[grind ←] theorem grows_inText (grows : d.Grows b.document) (token : Token) :
    d.Grows (b.inText token).builder.document := by
  cases token with
  | text text => exact grows_addText grows text
  | _ => exact grows

/-! ## Tables and selections -/

@[grind ←] theorem grows_foster (grows : d.Grows b.document) (token : Token) :
    d.Grows (b.foster token).builder.document := by
  have body := grows_inBody (b := { b with fostering := true }) grows token
  unfold foster
  generalize inBody { b with fostering := true } token = read at body ⊢
  cases read <;> exact body

@[grind ←] theorem grows_tableText (grows : d.Grows b.document) (text : List Char) :
    d.Grows (b.tableText text).builder.document := by
  grind [tableText]

@[grind =] theorem document_closeTable : b.closeTable.document = b.document := rfl

@[grind ←] theorem grows_openInTable (grows : d.Grows b.document) (tag : Tag) :
    d.Grows (b.openInTable tag).builder.document := by
  unfold openInTable
  dsimp only
  repeat' split
  all_goals grind

@[grind ←] theorem grows_inTable (grows : d.Grows b.document) (token : Token) :
    d.Grows (b.inTable token).builder.document := by
  cases token <;> grind [inTable]

@[grind ←] theorem grows_inTableBody (grows : d.Grows b.document) (token : Token) :
    d.Grows (b.inTableBody token).builder.document := by
  cases token <;> grind [inTableBody]

@[grind ←] theorem grows_inRow (grows : d.Grows b.document) (token : Token) :
    d.Grows (b.inRow token).builder.document := by
  cases token <;> grind [inRow]

@[grind =] theorem document_leaveCell {wanted : String → Bool} :
    (b.leaveCell wanted).document = b.document := rfl

@[grind ←] theorem grows_inCell (grows : d.Grows b.document) (token : Token) :
    d.Grows (b.inCell token).builder.document := by
  cases token <;> grind [inCell]

@[grind =] theorem document_leaveCaption : b.leaveCaption.document = b.document := rfl

@[grind ←] theorem grows_inCaption (grows : d.Grows b.document) (token : Token) :
    d.Grows (b.inCaption token).builder.document := by
  cases token <;> grind [inCaption]

@[grind ←] theorem grows_inColumnGroup (grows : d.Grows b.document) (token : Token) :
    d.Grows (b.inColumnGroup token).builder.document := by
  cases token <;> grind [inColumnGroup]

@[grind =] theorem document_closeSelect : b.closeSelect.document = b.document := rfl

@[grind ←] theorem grows_inSelect (grows : d.Grows b.document) (token : Token) :
    d.Grows (b.inSelect token).builder.document := by
  cases token <;> grind [inSelect]

@[grind ←] theorem grows_inSelectInTable (grows : d.Grows b.document) (token : Token) :
    d.Grows (b.inSelectInTable token).builder.document := by
  cases token <;> grind [inSelectInTable]

/-! ## Before and behind the body -/

@[grind ←] theorem grows_addRootComment (grows : d.Grows b.document) (contents : String) :
    d.Grows (b.addRootComment contents).document :=
  grows_addNode grows _ _

@[grind ←] theorem grows_initial (grows : d.Grows b.document) (token : Token) :
    d.Grows (b.initial token).builder.document := by
  cases token <;> grind [initial]

@[grind ←] theorem grows_beforeHtml (grows : d.Grows b.document) (token : Token) :
    d.Grows (b.beforeHtml token).builder.document := by
  cases token <;> grind [beforeHtml]

@[grind ←] theorem grows_openHead (grows : d.Grows b.document) (tag : Tag) :
    d.Grows (b.openHead tag).document :=
  grows_openAt grows b.spot tag.name .html tag.attributes

@[grind ←] theorem grows_beforeHead (grows : d.Grows b.document) (token : Token) :
    d.Grows (b.beforeHead token).builder.document := by
  cases token <;> grind [beforeHead]

@[grind ←] theorem grows_inHead (grows : d.Grows b.document) (token : Token) :
    d.Grows (b.inHead token).builder.document := by
  cases token <;> grind [inHead]

@[grind ←] theorem grows_reopenHead (grows : d.Grows b.document) (tag : Tag) :
    d.Grows (b.reopenHead tag).document := by
  unfold reopenHead
  split
  · exact grows_openHeadContent grows tag
  · next head _ => exact grows_openHeadContent (b := { b with stack := head :: b.stack }) grows tag

@[grind ←] theorem grows_afterHead (grows : d.Grows b.document) (token : Token) :
    d.Grows (b.afterHead token).builder.document := by
  cases token <;> grind [afterHead]

@[grind ←] theorem grows_inTemplate (grows : d.Grows b.document) (token : Token) :
    d.Grows (b.inTemplate token).builder.document := by
  cases token <;> grind [inTemplate]

@[grind ←] theorem grows_afterBody (grows : d.Grows b.document) (token : Token) :
    d.Grows (b.afterBody token).builder.document := by
  cases token <;> grind [afterBody]

@[grind ←] theorem grows_afterAfterBody (grows : d.Grows b.document) (token : Token) :
    d.Grows (b.afterAfterBody token).builder.document := by
  cases token <;> grind [afterAfterBody]

@[grind ←] theorem grows_inFrameset (grows : d.Grows b.document) (token : Token) :
    d.Grows (b.inFrameset token).builder.document := by
  cases token <;> grind [inFrameset]

@[grind ←] theorem grows_afterFrameset (grows : d.Grows b.document) (token : Token) :
    d.Grows (b.afterFrameset token).builder.document := by
  cases token <;> grind [afterFrameset]

@[grind ←] theorem grows_afterAfterFrameset (grows : d.Grows b.document) (token : Token) :
    d.Grows (b.afterAfterFrameset token).builder.document := by
  cases token <;> grind [afterAfterFrameset]

/-! ## Tokens -/

theorem grows_step (grows : d.Grows b.document) (token : Token) :
    d.Grows (b.step token).builder.document := by
  unfold step
  split <;> grind

theorem grows_inForeign (grows : d.Grows b.document) (token : Token) :
    d.Grows (b.inForeign token).builder.document := by
  have left := grows_step (b := b.leaveForeign) grows token
  have here := grows_step grows token
  cases token <;> grind [inForeign]

theorem grows_read (fuel : Nat) (grows : d.Grows b.document) (token : Token) :
    d.Grows (read fuel b token).document := by
  induction fuel generalizing b with
  | zero => exact grows
  | succ fuel ih =>
      have stepped : d.Grows
          (if b.isForeign token then b.inForeign token else b.step token).builder.document :=
        grows_builder_ite (grows_inForeign grows token) (grows_step grows token)
      rw [read]
      split
      · next same => rwa [same] at stepped
      · next same =>
        rw [same] at stepped
        exact ih stepped

theorem grows_readTextToken (grows : d.Grows b.document) (text : List Char) :
    d.Grows (b.readTextToken text).document := by
  have blanks (blanks : List Char) : d.Grows (b.readBlanks blanks).document := by
    unfold readBlanks
    split <;> first | exact grows | exact grows_addText grows _ | exact grows_read _ grows _
  unfold readTextToken
  repeat' split
  all_goals grind [grows_read, readWhole]

/-- Reading a token adds nodes and takes none away. -/
theorem grows_feed (b : Builder) (token : Token) : b.document.Grows (b.feed token).document := by
  have grows : b.document.Grows ({ b with skipsBreak := false } : Builder).document := .refl _
  unfold feed
  split
  · exact grows_ite grows (grows_readTextToken grows _)
  · exact grows_read _ grows _

end Html.Builder
end ComponentMarkup
