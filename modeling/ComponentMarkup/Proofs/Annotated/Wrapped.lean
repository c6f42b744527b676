import ComponentMarkup.Proofs.Annotated.Abreast
import ComponentMarkup.Proofs.Annotated.Mirror
import ComponentMarkup.Proofs.Document.Wrapped

/-!
A pass that splits an element for its condition and one that finds the element in a template with
the condition: they are twins afterwards, but for what the split leaves on the host.
-/

namespace ComponentMarkup.Pass
variable {ρ : NodeId → NodeId} {n inner node node' : NodeId} {tag condition : String}
  {attributes : Attributes} {d d' : Document} {holder holder' : Option NodeId}
  {around : Surroundings} {f below rest rest' : Forest} {s s' t t' : Pass} {id : AnnotatedId}

/-! ## Entering -/

/-- Twins that make hosts for the same condition are twins for whoever does not know the hosts. -/
theorem Twin.hosted (twin : Twin none s s') (inside : node < s.document.size)
    (inside' : node' < s'.document.size)
    (held : s'.document.attribute? node' "indentation" = s.document.attribute? node "indentation")
    (position : s'.document.position node' = s.document.position node) (around : Surroundings)
    (condition : String) : Twin (some s.annotations.nodes.size) (s.hosted around node condition)
      (s'.hosted around node' condition) := by
  have made := (twin.veil (some s.annotations.nodes.size)).annotate around.parent
    (.structural (.conditional condition) {} none) inside inside' fun other => (other rfl).elim
  have built := made.update s.annotations.nodes.size (f := fun a => { a with buildsChildren := true })
    ⟨fun _ _ => rfl, fun a => by cases a using AnnotatedNode.byKind <;> rfl⟩
  have stripped := ((built.stripPresent_left node ["if", "instantiate", "template"]).symm.stripPresent_left
    node' ["if", "instantiate", "template"]).symm
  unfold Pass.hosted
  rw [twin.size]
  refine stripped.readIndentation ?_ ?_ _ _
  · rw [document_stripPresent, document_stripPresent]
    exact held
  · rw [document_stripPresent, document_stripPresent]
    exact position

/-- The annotation of an element without directives when the element is done. -/
theorem stands_of_plain {i : Pass} {entry : Entry}
    (valid : ∀ q ∈ around.parent, q < s.annotations.nodes.size) (notScript : tag ≠ "script")
    (plan : Plan.read s.document node tag = ([], .plain))
    (found : s.enter around node tag = (t, some entry)) (under : Visits below entry.inner t i) :
    entry.opened = [s.annotations.nodes.size] ∧ ∃ F a,
      (entry.opened.foldl identify i).Stands around.parent node none F
        s.annotations.nodes.size a := by
  obtain ⟨enters, opened, inner⟩ := entersAs_enterPlain (s := s) node tag valid
  have entering := (enter_of_plain around notScript plan).symm.trans found
  obtain ⟨rfl, isEntry⟩ := Prod.mk.inj entering
  obtain rfl := Option.some.inj isEntry
  have linked := (linked_enter valid found).whole opened
  have entered := entered_of_enter valid found
  obtain ⟨F, grown, -⟩ := under.grown entered.size.2
  rw [inner] at grown
  rw [← under.content?_old entered.size.2 entered.size.1] at linked
  obtain ⟨a, stands, -, -⟩ := enters.stands grown.tree linked
  obtain ⟨b, stands, -⟩ := stands.identify s.annotations.nodes.size
  refine ⟨opened, F.tops, b, ?_⟩
  rw [opened]
  exact stands

/-- The annotation of an element that is split for its condition when the element is done. -/
theorem stands_of_condition {i : Pass} {entry : Entry}
    (valid : ∀ q ∈ around.parent, q < s.annotations.nodes.size) (notScript : tag ≠ "script")
    (notTemplate : tag ≠ "template")
    (plan : Plan.read s.document node tag = ([], .conditional condition))
    (found : s.enter around node tag = (t, some entry)) (under : Visits below entry.inner t i) :
    entry.opened = [s.annotations.nodes.size + 1, s.annotations.nodes.size] ∧
      ∃ a, (entry.opened.foldl identify i).Stands around.parent node
          (some (s.annotations.nodes.size + 1)) [s.annotations.nodes.size + 1]
          s.annotations.nodes.size a ∧ a.directive? = some (.conditional condition) := by
  obtain ⟨host, enters, -, rest⟩ :=
    entersAs_enterConditional (s := s) node tag valid condition
  rw [if_neg notTemplate] at rest
  obtain ⟨content, opened, inner⟩ := rest
  have entering := (enter_of_condition around notScript plan).symm.trans found
  obtain ⟨rfl, isEntry⟩ := Prod.mk.inj entering
  obtain rfl := Option.some.inj isEntry
  have linked := ((linked_enter valid found).split opened).1
  have entered := entered_of_enter valid found
  obtain ⟨F, grown, -⟩ := under.grown entered.size.2
  rw [inner] at grown
  have size : (host.mapDocument fun _ => (splitContent s.document node).2).annotations.nodes.size =
      s.annotations.nodes.size + 1 := by
    rw [annotations_mapDocument]
    exact enters.size
  have valid' : ∀ q ∈ some s.annotations.nodes.size,
      q < (host.mapDocument fun _ => (splitContent s.document node).2).annotations.nodes.size := by
    intro q isHost
    rw [size, ← Option.some.inj isHost]
    exact Nat.lt_succ_self _
  rw [← size] at grown
  obtain ⟨whole, top⟩ := content.grown grown valid'
  have numbered := (whole.identify top valid').tree
  rw [size] at numbered
  have linked' : (i.identify (s.annotations.nodes.size + 1)).annotations.content?
      s.annotations.nodes.size = some (s.annotations.nodes.size + 1) := by
    rw [content?_identify, under.content?_old entered.size.2 entered.size.1, linked]
  obtain ⟨a, stands, shape, -⟩ := enters.stands numbered linked'
  obtain ⟨b, stands, shape'⟩ := stands.identify s.annotations.nodes.size
  refine ⟨opened, b, ?_, shape'.trans shape⟩
  rw [opened]
  exact stands

section Wrapped
variable (wraps : d.Wraps ρ n inner tag attributes condition d')
  (abreast : Abreast ρ d d' none holder holder' around (.cons n below rest)
    (.cons (ρ n) (.cons inner (below.map ρ) .nil) rest') s s')
include wraps abreast

/-! ## The two spellings -/

theorem data?_element : s.document.data? n = some (.element tag attributes) :=
  (abreast.left.carries.copied n List.mem_cons_self).data.trans wraps.element

theorem tag?_element : s.document.tag? n = some tag :=
  Document.tag?_eq_some.2 ⟨_, data?_element wraps abreast⟩

theorem tag?_template : s'.document.tag? (ρ n) = some "template" :=
  (Document.tag?_of_data? (abreast.right.carries.copied (ρ n) List.mem_cons_self).data).trans
    wraps.tag?_host

theorem position_template : s'.document.position (ρ n) = s.document.position n := by
  have left := abreast.left.carries.copied n List.mem_cons_self
  have right := abreast.right.carries.copied (ρ n) List.mem_cons_self
  rw [left.position, right.position, wraps.positions.1]

/-- Neither the element that is split off nor the one in the template is declared. -/
theorem same_content {h h' : Pass} (basis : h.basis = s.basis) (basis' : h'.basis = s'.basis) :
    h.basis.Same h'.basis around.owner s.document.size inner := by
  rw [basis, basis']
  refine abreast.basis.same abreast.owned fun m isOld => ?_
  exact ⟨fun impossible => absurd impossible (wraps.fresh m), fun impossible =>
    absurd impossible (Nat.ne_of_lt (Nat.lt_of_lt_of_le isOld abreast.left.size))⟩

theorem data?_content : s'.document.data? inner =
    some (.element tag (withoutDirectives attributes)) := by
  have copied := abreast.right.carries.copied inner (List.mem_cons_of_mem _ List.mem_cons_self)
  rw [withoutDirectives_eq]
  exact copied.data.trans wraps.content

theorem plan_element (free : Plan.underDeclaration s.document n = false) :
    Plan.read s.document n tag = ([], .conditional condition) := by
  have held (name : String) : s.document.attribute? n name = attributes.find? name := by
    rw [Document.attribute?, Document.attributes?, data?_element wraps abreast]
    rfl
  have optsIn : s.document.hasAttribute n "template" = true := by
    rw [Document.hasAttribute, held]
    exact wraps.optsIn
  rw [Plan.read_of_condition ((held _).trans wraps.conditional) ((held _).trans wraps.single.2)
    ((held _).trans wraps.single.1) (.inr optsIn) fun template => absurd template wraps.ne_template,
    free]
  rfl

theorem plan_host (free : Plan.underDeclaration s.document n = false) :
    Plan.read s'.document (ρ n) "template" = ([], .conditional condition) := by
  obtain ⟨directives, host, conditional, -, iterate, instantiate⟩ := wraps.host
  have data := (abreast.right.carries.copied (ρ n) List.mem_cons_self).data.trans host
  have held (name : String) : s'.document.attribute? (ρ n) name = directives.find? name := by
    rw [Document.attribute?, Document.attributes?, data]
    rfl
  have free' : Plan.underDeclaration s'.document (ρ n) = false := by
    obtain ⟨⟨old, -, now⟩, -⟩ := abreast.left.carries
    obtain ⟨⟨old', -, now'⟩, -⟩ := abreast.right.carries
    rw [← free]
    refine Plan.underDeclaration_of_held ?_
    rw [Document.parent?_eq now, Document.parent?_eq now']
    exact abreast.held
  have shown : Plan.isEmptyBody s'.document (ρ n) = false := by
    have child : inner ∈ s'.document.children (ρ n) := by
      rw [← abreast.right.walkable.fits.follows.1]
      exact List.mem_cons_self
    by_contra empty
    have silent := (Plan.isEmptyBody_iff.1 ((Bool.not_eq_false _).mp empty)).1 inner child
    rw [Document.tag?, data?_content wraps abreast] at silent
    cases silent
  rw [Plan.read_of_condition ((held _).trans conditional) ((held _).trans instantiate)
    ((held _).trans iterate) (.inl rfl) fun _ => shown, free']
  rfl

/-- The element that is split off and the one in the template are beside each other. -/
theorem besideContent {h h' : Pass} {k : AnnotatedId} (twin : Twin (some k) h h')
    (document : h.document = s.document) (document' : h'.document = s'.document) :
    Beside (some k) s.document.size inner
      (h.mapDocument fun _ => (splitContent s.document n).2) h' := by
  have data := data?_element wraps abreast
  have fits := abreast.left.walkable.fits
  have bounded := fits.children_lt
  have element := tag?_element wraps abreast
  obtain ⟨made, position⟩ := data?_splitContent_new data bounded
  have carried : h'.document.data? inner = some (.element tag (withoutDirectives attributes)) := by
    rw [document', data?_content wraps abreast]
  have stands : h'.document.position inner = s.document.position n := by
    have left := abreast.left.carries.copied n List.mem_cons_self
    have right := abreast.right.carries.copied inner (List.mem_cons_of_mem _ List.mem_cons_self)
    rw [document', left.position, right.position, wraps.positions.2]
  have larger : h.document.size ≤ (splitContent s.document n).2.size := by
    rw [document]
    exact Nat.le_of_lt (lt_size_splitContent element)
  have shown (m : NodeId) (inside : m < h.document.size) :
      (splitContent s.document n).2.tag? m = h.document.tag? m ∧
        (splitContent s.document n).2.text? m = h.document.text? m := by
    rw [document] at inside ⊢
    exact shown_splitContent data inside
  refine ⟨?_, ?_, ?_, ?_⟩
  · exact twin.mapDocument _ (fun e => e) larger (Nat.le_refl _)
      (fun id a found => shown a.source (twin.inside id a found)) fun id a found => ⟨rfl, rfl⟩
  · rw [document_mapDocument, carried, made]
  · rw [document_mapDocument, stands, position]
  · have moved : (h.mapDocument fun _ => (splitContent s.document n).2).hasBoundText
        s.document.size = s.hasBoundText n :=
      hasBoundText_splitContent data bounded (h.document_mapDocument _) rfl
    have children : s'.document.children inner = (s.document.children n).map ρ := by
      rw [← fits.follows.1, ← abreast.right.walkable.fits.under.follows.1, Forest.tops_map]
    rw [moved, hasBoundText, hasBoundText, document', children, List.any_map, Bool.eq_iff_iff,
      List.any_eq_true, List.any_eq_true]
    refine exists_congr fun child => and_congr_right fun member => ?_
    rw [← fits.follows.1] at member
    have inBelow := Forest.mem_preorder_of_mem_tops member
    have left := abreast.left.carries.2.1.copied child inBelow
    have right := abreast.right.carries.2.1.2.1.copied (ρ child)
      (by rw [Forest.preorder_map]; exact List.mem_map_of_mem inBelow)
    rw [Function.comp_apply, Document.text?_of_data? left.data, Document.text?_of_data? right.data,
      wraps.text? (abreast.left.carries.2.1.lt_size child inBelow)]

theorem keepsBlanks_host (inherited : Bool) :
    s'.document.keepsBlanks (ρ n) inherited = s.document.keepsBlanks n inherited ∧
      s'.document.attribute? (ρ n) "indentation" = s.document.attribute? n "indentation" := by
  obtain ⟨directives, host, -, indentation, -, -⟩ := wraps.host
  have data := (abreast.right.carries.copied (ρ n) List.mem_cons_self).data.trans host
  have same : s'.document.attribute? (ρ n) "indentation" = s.document.attribute? n "indentation" := by
    rw [Document.attribute?, Document.attribute?, Document.attributes?, Document.attributes?, data,
      data?_element wraps abreast]
    exact indentation
  exact ⟨by rw [Document.keepsBlanks, Document.keepsBlanks, same], same⟩

theorem plan_content {h' : Pass} (document' : h'.document = s'.document) :
    Plan.read h'.document inner tag = ([], .plain) := by
  refine Plan.read_of_plain wraps.ne_template fun name directive => ?_
  rw [Document.hasAttribute, Document.attribute?, Document.attributes?, document',
    data?_content wraps abreast, Option.bind_some, find?_withoutDirectives_of_mem attributes directive]
  rfl

/-- The host and the element split off it are entered where the template and the element in it are,
and the passes are abreast of what is below the element. -/
theorem enterWrapped (free : Plan.underDeclaration s.document n = false) :
    ∃ (u u' v' : Pass) (entry host content : Entry), s.enter around n tag = (u, some entry) ∧
      s'.enter around (ρ n) "template" = (u', some host) ∧ u'.document = s'.document ∧
      u'.enter host.inner inner tag = (v', some content) ∧ content.inner = entry.inner ∧
      entry.opened = content.opened ++ host.opened ∧
      Abreast ρ d d' (some s.annotations.nodes.size) (some (entry.holder s n)) (some inner) entry.inner
        below (below.map ρ) u v' := by
  have element := tag?_element wraps abreast
  have element' := tag?_template wraps abreast
  have position := position_template wraps abreast
  obtain ⟨mode, held⟩ := keepsBlanks_host wraps abreast around.keepBlanks
  let inside : Surroundings :=
    { around with
      parent := some s.annotations.nodes.size
      keepBlanks := s.document.keepsBlanks n around.keepBlanks }
  have twin := abreast.toTwin.hosted (Document.lt_size_of_tag? element)
    (Document.lt_size_of_tag? element') held position around condition
  have divided := besideContent wraps abreast twin (s.document_hosted ..) (s'.document_hosted ..)
  have entering := enter_of_condition around wraps.ne_script (plan_element wraps abreast free)
  have entering' := enter_of_condition around (by decide) (plan_host wraps abreast free)
  rw [enterConditional_eq, fst_splitContent element] at entering
  rw [enterConditional_eq, mode, abreast.toTwin.size] at entering'
  simp only [wraps.ne_template, if_false, if_true] at entering entering'
  have size := s.size_hosted around n condition
  have document' := s'.document_hosted around (ρ n) condition
  have basis : (s.hosted around n condition).basis = s.basis :=
    ((s.hosted_edits around n condition).steady List.not_mem_nil).basis
  have basis' : (s'.hosted around (ρ n) condition).basis = s'.basis :=
    ((s'.hosted_edits around (ρ n) condition).steady List.not_mem_nil).basis
  have plan := plan_content wraps abreast document'
  generalize s'.hosted around (ρ n) condition = h' at *
  have early : ∀ k ∈ some s.annotations.nodes.size, k < ((s.hosted around n condition).mapDocument
      fun _ => (splitContent s.document n).2).annotations.nodes.size := by
    intro k isHost
    rw [← Option.some.inj isHost, annotations_mapDocument, size]
    exact Nat.lt_succ_self _
  have new_lt : s.document.size < ((s.hosted around n condition).mapDocument
      fun _ => (splitContent s.document n).2).document.size := lt_size_splitContent element
  have tagged : h'.document.tag? inner = some tag := by
    rw [Document.tag?, document', data?_content wraps abreast]
  have same : ((s.hosted around n condition).mapDocument
      fun _ => (splitContent s.document n).2).basis.Same h'.basis inside.owner s.document.size inner := by
    rw [basis_mapDocument]
    exact same_content wraps abreast basis basis'
  obtain ⟨entered, entry⟩ := divided.enterPlain early new_lt (Document.lt_size_of_tag? tagged) inside
    same tag
  have entering'' := enter_of_plain inside wraps.ne_script plan
  have single := length_opened_enterPlain ((s.hosted around n condition).mapDocument
    fun _ => (splitContent s.document n).2) inside s.document.size tag
  change s.enter around n tag = ((Pass.enterPlain _ inside s.document.size tag).1.update _ _, _)
    at entering
  generalize Pass.enterPlain ((s.hosted around n condition).mapDocument _) inside s.document.size tag =
    outcome at *
  generalize Pass.enterPlain h' inside inner tag = outcome' at *
  rw [entry] at entering''
  refine ⟨_, _, _, _, _, _, entering, entering', document', entering'', rfl, rfl, ?_⟩
  have marked := marked_enter element entering
  have marked' := marked_enter element' entering'
  have marked'' := marked_enter tagged entering''
  have left := abreast.left.inside element entering
  have right := (abreast.right.inside element' entering').inside tagged entering''
  have stands : Entry.holder { outcome.2 with opened := outcome.2.opened ++ [s.annotations.nodes.size] }
      s n = s.document.size := by
    rw [Entry.holder, List.length_append, single]
    exact if_neg (Nat.succ_ne_self 1)
  have stands' : outcome.2.holder h' inner = inner := by rw [Entry.holder, if_pos single]
  rw [stands'] at right
  refine ⟨entered.toTwin.update_left (AnnotatedNode.veiled_withContent _) fun a => ?_, left, right, ?_,
    fun k isHost => ?_, ?_, ?_⟩
  · cases a using AnnotatedNode.byKind <;> rfl
  · rw [stands]
    exact entered.data
  · rw [← Option.some.inj isHost]
    exact (entered_of_enter abreast.left.walkable.valid entering).size.1
  · rw [marked.basis]
    exact marked.owned abreast.owned
  · rw [marked.basis, marked''.basis, marked'.basis]
    exact abreast.basis

end Wrapped

/-- The host of `n` in `t`, with the element that is split off as its content, and the annotation of
`inner` in `t'`, which is the same otherwise. -/
structure Divides (n inner : NodeId) (condition : String) (bound : AnnotatedId) (t t' : Pass)
    (host : AnnotatedId) : Prop extends Twin (some host) t t' where
  old : bound ≤ host
  stands : ∃ parent a, t.Stands parent n (some (host + 1)) [host + 1] host a ∧
    a.directive? = some (.conditional condition)
  content : ∃ b, t'.annotations.get? (host + 1) = some b ∧ b.source = inner

namespace Divides
variable {bound host : AnnotatedId} {u u' : Pass} (divides : Divides n inner condition bound t t' host)
include divides

theorem lt_size : host < t.annotations.nodes.size ∧ host + 1 < t'.annotations.nodes.size := by
  obtain ⟨parent, a, stands, -⟩ := divides.stands
  obtain ⟨b, found, -⟩ := divides.content
  exact ⟨AnnotatedTree.lt_size_of_get? stands.found, AnnotatedTree.lt_size_of_get? found⟩

theorem keep (twin : Twin (some host) u u')
    (same : u.annotations.get? host = t.annotations.get? host)
    (same' : u'.annotations.get? (host + 1) = t'.annotations.get? (host + 1)) :
    Divides n inner condition bound u u' host where
  toTwin := twin
  old := divides.old
  stands := by
    obtain ⟨parent, a, stands, directive⟩ := divides.stands
    exact ⟨parent, a, stands.of_get? same, directive⟩
  content := by
    obtain ⟨b, found, source⟩ := divides.content
    exact ⟨b, same'.trans found, source⟩

theorem later {f f' : Forest} (twin : Twin (some host) u u') (visits : Visits f around t u)
    (visits' : Visits f' around t' u') (valid : ∀ q ∈ around.parent, q < bound) :
    Divides n inner condition bound u u' host := by
  obtain ⟨inside, inside'⟩ := divides.lt_size
  have early (q : AnnotatedId) (isParent : q ∈ around.parent) : q < host :=
    Nat.lt_of_lt_of_le (valid q isParent) divides.old
  refine divides.keep twin (visits.get?_off (fun q isParent => ?_) inside ?_)
    (visits'.get?_off (fun q isParent => ?_) inside' ?_)
  · exact Nat.lt_trans (early q isParent) inside
  · exact AnnotatedTree.not_mem_line valid divides.old
  · exact Nat.lt_trans (Nat.lt_succ_of_lt (early q isParent)) inside'
  · exact AnnotatedTree.not_mem_line valid (Nat.le_succ_of_le divides.old)

theorem identifyAll {ids : List AnnotatedId} (early : ∀ id ∈ ids, id < bound) :
    Divides n inner condition bound (ids.foldl identify t) (ids.foldl identify t') host := by
  have below (id : AnnotatedId) (member : id ∈ ids) : id < host :=
    Nat.lt_of_lt_of_le (early id member) divides.old
  exact divides.keep (divides.toTwin.identifyAll ids) (get?_foldl_identify_of_lt t below)
    (get?_foldl_identify_of_lt t' fun id member => Nat.lt_succ_of_lt (below id member))

theorem mono {bound' : AnnotatedId} (le : bound' ≤ bound) :
    Divides n inner condition bound' t t' host :=
  { divides with old := Nat.le_trans le divides.old }

end Divides

section Wrapped
variable (wraps : d.Wraps ρ n inner tag attributes condition d')
include wraps

theorem divides_visitTree
    (abreast : Abreast ρ d d' none holder holder' around (.cons n below rest)
      (.cons (ρ n) (.cons inner (below.map ρ) .nil) rest') s s')
    (free : Plan.underDeclaration s.document n = false) :
    Divides n inner condition s.annotations.nodes.size (s.visitForest (.cons n below .nil) around)
      (s'.visitForest (.cons (ρ n) (.cons inner (below.map ρ) .nil) .nil) around)
      s.annotations.nodes.size := by
  have element := tag?_element wraps abreast
  have element' := tag?_template wraps abreast
  have plan := plan_element wraps abreast free
  have plan' := plan_host wraps abreast free
  have valid := abreast.left.walkable.valid
  have valid' := abreast.right.walkable.valid
  obtain ⟨u, u', v', entry, host, content, entered, entered', document', entered'', inner', opened,
    inside⟩ := enterWrapped wraps abreast free
  have elementInner : u'.document.tag? inner = some tag := by
    rw [Document.tag?, document', data?_content wraps abreast]
  have within := fun m (inside : m < d.size) => wraps.within inside
  have copied : ∀ m ∈ below.preorder, Document.Copied d d' m (ρ m) := fun m member =>
    (wraps.others m (abreast.left.carries.2.1.lt_size m member) fun same =>
      abreast.left.walkable.fits.not_mem_below (same ▸ member)).1
  have twin := (inside.visitForest wraps.injective within copied).identifyAll entry.opened
  have under : Visits below entry.inner u _ :=
    visits_visitForest (entered_of_enter valid entered).size.2
  have valid'' := (entered_of_enter valid' entered').size.2
  have under' : Visits (below.map ρ) content.inner v' _ :=
    visits_visitForest (entered_of_enter valid'' entered'').size.2
  obtain ⟨pair, a, stands, directive⟩ :=
    stands_of_condition valid wraps.ne_script wraps.ne_template plan entered under
  obtain ⟨single, F, b, found, -, source, -⟩ := stands_of_plain valid'' wraps.ne_script
    (plan_content wraps abreast document') entered'' under'
  rw [visitTree_of_entered below element (by rw [entered]), entered,
    visitTree_of_entered _ element' (by rw [entered']), entered',
    visitTree_of_entered _ elementInner (by rw [entered'']), entered'']
  dsimp only
  have ids := opened.symm.trans pair
  rw [single, List.singleton_append] at ids
  obtain ⟨size, hosts⟩ := List.cons.inj ids
  rw [size] at found
  refine ⟨?_, Nat.le_refl _, ⟨_, a, stands, directive⟩, b, ?_, source⟩
  · rw [opened, List.foldl_append, List.foldl_append] at twin
    rw [opened, List.foldl_append, inner']
    exact twin
  · rw [hosts]
    refine (get?_foldl_identify_of_lt _ fun id member => ?_).trans found
    rw [List.mem_singleton.1 member]
    exact Nat.lt_succ_self _

/-- The element is not on the template of a declaration if something stands for it. -/
theorem free_of_marked (awaits : Awaits d around.parent holder (.cons n below rest) s) {m : Mark}
    (found : (s.visitForest (.cons n below .nil) around).marks id = some m) (source : m.source = n) :
    Plan.underDeclaration s.document n = false := by
  have data := (awaits.carries.copied n List.mem_cons_self).data.trans wraps.element
  have element : s.document.tag? n = some tag := Document.tag?_eq_some.2 ⟨_, data⟩
  have held (name : String) : s.document.attribute? n name = attributes.find? name := by
    rw [Document.attribute?, Document.attributes?, data]
    rfl
  obtain ⟨entry, entered⟩ := awaits.entered found (source ▸ List.mem_cons_self) element
  by_contra under
  have plan := Plan.read_of_condition ((held _).trans wraps.conditional)
    ((held _).trans wraps.single.2) ((held _).trans wraps.single.1)
    (.inr (by rw [Document.hasAttribute, held]; exact wraps.optsIn))
    fun template => absurd template wraps.ne_template
  rw [(Bool.not_eq_false _).mp under] at plan
  rw [left_of_dropped (congrArg Prod.snd plan)] at entered
  cases entered

section Tree
variable {below' : Forest}

/-- Behind the tree with the element the walks are of copies. -/
theorem divides_rest {host : AnnotatedId}
    (abreast : Abreast ρ d d' none holder holder' around (.cons node below rest)
      (.cons (ρ node) below' (rest.map ρ)) s s')
    (divides : Divides n inner condition s.annotations.nodes.size
      (s.visitForest (.cons node below .nil) around)
      (s'.visitForest (.cons (ρ node) below' .nil) around) host)
    (outside : n ∉ rest.preorder) :
    Divides n inner condition s.annotations.nodes.size (s.visitForest (.cons node below rest) around)
      (s'.visitForest (.cons (ρ node) below' (rest.map ρ)) around) host := by
  have visits : Visits (.cons node below .nil) around s _ :=
    visits_visitForest abreast.left.walkable.valid
  have visits' : Visits (.cons (ρ node) below' .nil) around s' _ :=
    visits_visitForest abreast.right.walkable.valid
  have later := abreast.later visits visits' divides.toTwin fun k isHost =>
    Option.some.inj isHost ▸ divides.lt_size.1
  have copied : ∀ m ∈ rest.preorder, Document.Copied d d' m (ρ m) := fun m member =>
    (wraps.others m (later.left.carries.lt_size m member) fun same => outside (same ▸ member)).1
  rw [visitForest_cons, visitForest_cons s' (ρ node)]
  exact divides.later (later.visitForest wraps.injective (fun m => wraps.within) copied)
    (visits_visitForest later.left.walkable.valid) (visits_visitForest later.right.walkable.valid)
    abreast.left.walkable.valid

/-- The walks of an element around the one that is spelled differently. -/
theorem divides_under {m : Mark}
    (abreast : Abreast ρ d d' none holder holder' around (.cons node below rest)
      (.cons (ρ node) below' rest') s s') (tops : below'.tops = below.tops.map ρ)
    (inBelow : n ∈ below.preorder)
    (found : (s.visitForest (.cons node below .nil) around).marks id = some m) (source : m.source = n)
    (ih : ∀ {around : Surroundings} {holder holder' : Option NodeId} {s s' : Pass}
      {id : AnnotatedId} {m : Mark}, Abreast ρ d d' none holder holder' around below below' s s' →
      (s.visitForest below around).marks id = some m → m.source = n →
      ∃ host, Divides n inner condition s.annotations.nodes.size (s.visitForest below around)
        (s'.visitForest below' around) host) :
    ∃ host, Divides n inner condition s.annotations.nodes.size
      (s.visitForest (.cons node below .nil) around)
      (s'.visitForest (.cons (ρ node) below' .nil) around) host := by
  subst source
  have valid := abreast.left.walkable.valid
  have node_lt := abreast.left.carries.lt_size node List.mem_cons_self
  have child_lt (child : NodeId) (top : child ∈ below.tops) : child < d.size :=
    abreast.left.carries.2.1.lt_size child (Forest.mem_preorder_of_mem_tops top)
  have other : node ≠ m.source := fun same =>
    abreast.left.walkable.fits.not_mem_below (same ▸ inBelow)
  have copied := (wraps.others node node_lt other).1
  have texts := fun child top => wraps.text? (child_lt child top)
  obtain ⟨tag, element⟩ := abreast.left.element found inBelow
  obtain ⟨entry, entered⟩ :=
    abreast.left.entered found (Forest.mem_preorder_tree.2 (.inr inBelow)) element
  have beside := abreast.beside tops copied texts
  have plan := abreast.plan tops copied texts
    (fun child top => wraps.tag?_eq_none (child_lt child top)) fun dropped => by
      rw [left_of_dropped dropped] at entered
      cases entered
  obtain ⟨-, same, inside⟩ :=
    abreast.enter wraps.injective (fun m => wraps.within) element beside plan
  have element' := beside.element' element
  rw [visitTree_of_entered below element entered] at found ⊢
  rw [visitTree_of_entered below' element' (same.trans entered)]
  rw [(keeps_foldl_identify _ entry.opened).marks] at found
  obtain ⟨host, divides⟩ := ih (inside entry entered) found rfl
  have whole := entered_of_enter valid (Prod.ext rfl entered : s.enter around node tag = (_, some entry))
  exact ⟨host, (divides.identifyAll whole.opened_lt).mono (Nat.le_of_lt whole.size.1)⟩

end Tree

/-- Walks of both spellings leave twins, if something comes to stand for the element. -/
theorem exists_divides
    (abreast : Abreast ρ d d' none holder holder' around f (f.wrap ρ n inner) s s')
    (member : n ∈ f.preorder) {m : Mark} (found : (s.visitForest f around).marks id = some m)
    (source : m.source = n) :
    ∃ host, Divides n inner condition s.annotations.nodes.size (s.visitForest f around)
      (s'.visitForest (f.wrap ρ n inner) around) host := by
  induction f generalizing around holder holder' s s' id m with
  | nil => cases member
  | cons node below rest ihBelow ihRest =>
      have fits := abreast.left.walkable.fits
      have valid := abreast.left.walkable.valid
      rw [Forest.wrap] at abreast ⊢
      rw [Forest.preorder, List.mem_cons, List.mem_append] at member
      rcases member with here | inBelow | inRest
      · subst here
        have outside : n ∉ rest.preorder := fun member => fits.not_mem_first member List.mem_cons_self
        rw [if_pos rfl, Forest.wrap_of_not_mem fits.not_mem_below, Forest.wrap_of_not_mem outside]
          at abreast ⊢
        have free := free_of_marked wraps abreast.left
          (abreast.left.marks_first List.mem_cons_self found source) source
        exact ⟨_, divides_rest wraps abreast (divides_visitTree wraps abreast free) outside⟩
      · have other : node ≠ n := fun same => fits.not_mem_below (same ▸ inBelow)
        have inFirst := Forest.mem_preorder_tree.2 (.inr inBelow : n = node ∨ n ∈ below.preorder)
        have outside : n ∉ rest.preorder := fun member => fits.not_mem_first member inFirst
        rw [if_neg other, Forest.wrap_of_not_mem outside] at abreast ⊢
        obtain ⟨host, divides⟩ := divides_under wraps abreast (Forest.tops_wrap ..) inBelow
          (abreast.left.marks_first inFirst found source) source fun abreast => ihBelow abreast inBelow
        exact ⟨host, divides_rest wraps abreast divides outside⟩
      · have apart := fits.not_mem_first inRest
        have other : node ≠ n := fun same => apart (Forest.mem_preorder_tree.2 (.inl same.symm))
        have outside : n ∉ below.preorder := fun member =>
          apart (Forest.mem_preorder_tree.2 (.inr member))
        rw [if_neg other, Forest.wrap_of_not_mem outside] at abreast ⊢
        have visits : Visits (.cons node below .nil) around s _ := visits_visitForest valid
        have visits' : Visits (.cons (ρ node) (below.map ρ) .nil) around s' _ :=
          visits_visitForest abreast.right.walkable.valid
        have copied : ∀ m ∈ (Forest.cons node below .nil).preorder, Document.Copied d d' m (ρ m) :=
          fun m member => (wraps.others m (abreast.left.carries.first.lt_size m member) fun same =>
            apart (same ▸ member)).1
        have twin := abreast.visitTree wraps.injective (fun m => wraps.within) copied
          fun under => under.visitForest wraps.injective (fun m => wraps.within) fun m member =>
            copied m (Forest.mem_preorder_tree.2 (.inr member))
        have later := abreast.later visits visits' twin fun k impossible =>
          absurd impossible (Option.not_mem_none k)
        rw [visitForest_cons] at found ⊢
        rw [visitForest_cons s' (ρ node)]
        obtain ⟨host, divides⟩ := ihRest later inRest found source
        exact ⟨host, divides.mono visits.size_le⟩

end Wrapped

end ComponentMarkup.Pass
