import ComponentMarkup.Proofs.Declaration.Scripts
import ComponentMarkup.Proofs.Path.Segments
import ComponentMarkup.Proofs.Workspace.Scopes

/-!
Files of one folder in a workspace. A file is kept under the path that it was given with, and a
link to the name of its neighbor leads under the canonical spelling of their folder: the neighbor
is found exactly when that is the spelling they were given with.
-/

namespace ComponentMarkup

/-- How the document of a source is read. -/
def Source.reading (source : Source) (packageRoot : Path) : Declaration.Reading :=
  { path := source.path, isEntry := source.isEntry, document := source.document, packageRoot }

theorem Source.declared_file (source : Source) (packageRoot : Path) (first : ComponentId) :
    (source.file packageRoot first).declared =
      List.range' first (Declaration.read (source.reading packageRoot)).components.length := rfl

namespace Workspace
variable {settings : Settings} {scripts : OrderedMap Path CodeUnit} {sources : List Source}
  {source other : Source} {path : Path} {w : Workspace}

/-! ## Declared sources -/

theorem get?_declareAll_of_lt {id : ComponentId} (old : id < w.components.size) :
    (w.declareAll sources).1.components.get? id = w.components.get? id := by
  induction sources generalizing w with
  | nil => rfl
  | cons source sources ih =>
      rw [declareAll_cons, ih, declare_fst]
      · dsimp only
        rw [ComponentTable.get?_extend, if_pos old]
      · rw [declare_fst]
        dsimp only
        rw [ComponentTable.size_extend]
        exact Nat.lt_add_right _ old

/-- The source that counts for a path is there, with its components under successive numbers. -/
theorem find?_declareAll_of_source? (found : source? sources path = some source) : ∃ first,
    (w.declareAll sources).1.files.find? path =
      some (source.file w.settings.packageRoot first) ∧
    ∀ i c, (source.findings w.settings.packageRoot).components[i]? = some c →
      (w.declareAll sources).1.components.get? (first + i) = some c := by
  induction sources generalizing w with
  | nil => cases found
  | cons head sources ih =>
      rw [declareAll_cons]
      rw [source?_cons] at found
      cases later : source? sources path with
      | some last =>
          rw [later] at found
          obtain rfl : last = source := Option.some.inj found
          have settled := ih (w := (w.declare head).1) later
          have kept : (w.declare head).1.settings = w.settings := by rw [declare_fst]
          rwa [kept] at settled
      | none =>
          rw [later, Option.none_or] at found
          split at found
          · next here =>
            obtain rfl : head = source := Option.some.inj found
            have others : ∀ source ∈ sources, (source.path == path) = false := by
              intro source member
              have missed := List.find?_eq_none.1 later source (List.mem_reverse.2 member)
              exact Bool.eq_false_iff.2 missed
            refine ⟨w.components.size, ?_, fun i c listed => ?_⟩
            · rw [find?_declareAll others, declare_fst]
              dsimp only
              rw [OrderedMap.find?_insert, if_pos here]
            · have inside := (List.getElem?_eq_some_iff.1 listed).1
              rw [get?_declareAll_of_lt, declare_fst]
              · dsimp only
                rw [ComponentTable.get?_extend, if_neg (Nat.not_lt.2 (Nat.le_add_right _ _)),
                  Nat.add_sub_cancel_left, listed]
              · rw [declare_fst]
                dsimp only
                rw [ComponentTable.size_extend]
                exact Nat.add_lt_add_left inside _
          · cases found

/-! ## Linked sources -/

/-- A first linking keeps what a source declares and supplies the code of its script files. -/
theorem find?_linkAll_of_source? (settings : Settings) (scripts : OrderedMap Path CodeUnit)
    (found : source? sources path = some source) :
    let w := (({ settings, scripts } : Workspace).declareAll sources).1
    ∃ first file, w.linkAll.1.files.find? path = some file ∧
      file.declared = List.range' first (source.findings settings.packageRoot).components.length ∧
      ∀ i c, (source.findings settings.packageRoot).components[i]? = some c → ∃ c',
        w.linkAll.1.components.get? (first + i) = some c' ∧ c'.declaration = c.declaration ∧
          c'.code = c.code.or (c.external.bind scripts.find?) := by
  intro w
  obtain ⟨unlinked, -⟩ := unlinked_declareAll settings scripts sources
  obtain ⟨first, there, components⟩ :=
    find?_declareAll_of_source? (w := { settings, scripts }) found
  change w.files.find? path = _ at there
  refine ⟨first, _, unlinked.find?_linkAll there, rfl, fun i c listed => ?_⟩
  have present : w.components.get? (first + i) = some c := components i c listed
  obtain ⟨entry, member, -, same⟩ := exists_entry_of_find? there
  have declared : first + i ∈ entry.2.declared := by
    have inside := (List.getElem?_eq_some_iff.1 listed).1
    rw [same]
    exact List.mem_range'_1.2 ⟨Nat.le_add_right _ _, Nat.add_lt_add_left inside _⟩
  have kept : w.scripts = scripts := by
    obtain ⟨files, components, declaredAll, -⟩ :=
      declareAll_fst (w := { settings, scripts }) sources List.Pairwise.nil
    change w = _ at declaredAll
    rw [declaredAll]
  have after := w.get?_linked (fun _ => true) (first + i)
  rw [present, Option.map_some, settled, unlinked.owner?_eq member declared,
    ← unlinked.fst_linkAll] at after
  refine ⟨_, after, rfl, ?_⟩
  rw [← kept]
  rfl

/-! ## Links -/

theorem lookup_linkAll {file : SourceFile} (tag : String) :
    let w := (({ settings, scripts } : Workspace).declareAll sources).1
    w.files.find? path = some file → w.linkAll.1.lookup path tag =
      Linking.chosen w.components (candidates w.files file) tag := by
  intro w found
  obtain ⟨unlinked, -⟩ := unlinked_declareAll settings scripts sources
  rw [lookup, unlinked.find?_linkAll found]
  exact Linking.find?_scopeOf _ _ tag

theorem path_of_source? (found : source? sources path = some source) :
    (source.path == path) = true := by
  simpa using List.find?_some found

theorem source?_pair (apart : (other.path == source.path) = false) :
    source? [source, other] source.path = some source ∧
      source? [source, other] other.path = some other := by
  simp [source?, apart]

theorem exists_mem_eraseDups {links : List Path} (member : path ∈ links) :
    ∃ link ∈ links.eraseDups, (link == path) = true := by
  have all (kept : List Path) (given : (∃ link ∈ kept, (link == path) = true) ∨ path ∈ links) :
      ∃ link ∈ links.foldl addNew kept, (link == path) = true := by
    clear member
    induction links generalizing kept with
    | nil => exact given.resolve_right List.not_mem_nil
    | cons first links ih =>
        have kept' : ∀ link ∈ kept, link ∈ addNew kept first := by
          intro link old
          unfold addNew
          split
          · exact old
          · exact List.mem_append_left _ old
        apply ih
        rcases given with ⟨link, old, same⟩ | new
        · exact .inl ⟨link, kept' link old, same⟩
        · rcases List.mem_cons.1 new with rfl | later
          · left
            unfold addNew
            split
            · next present =>
              obtain ⟨link, old, same⟩ := List.contains_iff_exists_mem_beq.1 present
              exact ⟨link, old, BEq.symm same⟩
            · exact ⟨path, List.mem_append_right _ List.mem_cons_self, BEq.rfl⟩
          · exact .inr later
  rw [← foldl_addNew]
  exact all [] (.inr member)

/-- Whatever the source at a linked path declares is in scope. -/
theorem isSome_lookup_of_link {target link : Path} {c : Component}
    (found : source? sources path = some source) (found' : source? sources target = some other)
    (listed : link ∈ (source.findings settings.packageRoot).componentLinks)
    (leads : (link == target) = true) (member : c ∈ (other.findings settings.packageRoot).components) :
    ((({ settings, scripts } : Workspace).declareAll sources).1.linkAll.1.lookup path
      c.tag).isSome = true := by
  obtain ⟨first, there, -⟩ := find?_declareAll_of_source? (w := { settings, scripts }) found
  obtain ⟨first', there', components⟩ :=
    find?_declareAll_of_source? (w := { settings, scripts }) found'
  obtain ⟨i, isIth⟩ := List.mem_iff_getElem?.1 member
  rw [lookup_linkAll c.tag there]
  refine Linking.isSome_chosen ?_ (components i c isIth)
  refine List.mem_append_right _ (List.mem_flatMap.2 ⟨link, listed, ?_⟩)
  rw [OrderedMap.find?_eq_of_beq _ leads, there']
  have inside := (List.getElem?_eq_some_iff.1 isIth).1
  exact List.mem_range'_1.2 ⟨Nat.le_add_right _ _, Nat.add_lt_add_left inside _⟩

/-- Whatever a source declares is in its own scope. -/
theorem isSome_lookup_of_own {c : Component} (found : source? sources path = some source)
    (member : c ∈ (source.findings settings.packageRoot).components) :
    ((({ settings, scripts } : Workspace).declareAll sources).1.linkAll.1.lookup path
      c.tag).isSome = true := by
  obtain ⟨first, there, components⟩ :=
    find?_declareAll_of_source? (w := { settings, scripts }) found
  obtain ⟨i, isIth⟩ := List.mem_iff_getElem?.1 member
  rw [lookup_linkAll c.tag there]
  refine Linking.isSome_chosen (List.mem_append_left _ ?_) (components i c isIth)
  have inside := (List.getElem?_eq_some_iff.1 isIth).1
  exact List.mem_range'_1.2 ⟨Nat.le_add_right _ _, Nat.add_lt_add_left inside _⟩

end Workspace

/-! ## Neighbors -/

namespace Declaration.Reading

/-- The node is a link in the head to the components of `href`, and not below anything that is left
unread. -/
structure Links (r : Reading) (node : NodeId) (href : String) : Prop where
  member : node ∈ r.document.inOrder
  isLink : r.document.isElement node "link" = true
  inHead : r.document.isWithin node "head" = true
  isReached : r.isReached node = true
  rel : trimmedAttribute r.document node "rel" = "components"
  href : trimmedAttribute r.document node "href" = href

theorem Links.target? {r : Reading} {node : NodeId} {href : String} (links : r.Links node href) :
    r.target? "components" node = resolve r.packageRoot href r.path := by
  rw [Reading.target?, links.isLink, links.rel, links.inHead, links.isReached, links.href, BEq.rfl]
  exact if_pos rfl

/-- The node is the only script of a place, a managed one with this source. -/
structure Loads (r : Reading) (place : Place) (node : NodeId) (source : String) : Prop where
  only : r.scriptsOf place = [node]
  type : (r.document.attribute? node "type").map Text.trimmed = some "module"
  source : (r.document.attribute? node "src").map Text.trimmed = some source

end Declaration.Reading

/-- Whatever `spelling/y` declares is in the scope of `spelling/x` when that links `y`. -/
def LinksAgree (spelling x y : String) : Prop :=
  ∀ (settings : Settings) (scripts : OrderedMap Path CodeUnit) (sources : List Source)
    (source other : Source) (node : NodeId),
    Workspace.source? sources (Path.within spelling x) = some source →
    Workspace.source? sources (Path.within spelling y) = some other →
    source.document.WellFormed → (source.reading settings.packageRoot).Links node y →
    ∀ c ∈ (other.findings settings.packageRoot).components,
      ((({ settings, scripts } : Workspace).declareAll sources).1.linkAll.1.lookup
        (Path.within spelling x) c.tag).isSome = true

/-- A component of `spelling/x` has the unit of the script `spelling/y` when the only script in its
declaration is `y`. -/
def ScriptsAgree (spelling x y : String) : Prop :=
  ∀ (settings : Settings) (scripts : OrderedMap Path CodeUnit) (sources : List Source)
    (source : Source) (node : NodeId) (unit : CodeUnit),
    Workspace.source? sources (Path.within spelling x) = some source →
    source.document.WellFormed → scripts.find? (Path.within spelling y) = some unit →
    ∀ c ∈ (source.findings settings.packageRoot).components,
      (source.reading settings.packageRoot).Loads (some c.element) node y →
      let linked := (({ settings, scripts } : Workspace).declareAll sources).1.linkAll.1
      ∃ file, linked.files.find? (Path.within spelling x) = some file ∧
        ∃ id ∈ file.declared, ∃ c', linked.components.get? id = some c' ∧
          c'.declaration = c.declaration ∧ c'.code = some unit

/-! ## Folders spelled canonically -/

section Neighbors
variable {spelling x y : String} (plain : IsPlain x) (plain' : IsPlain y)

theorem linksAgree_self : LinksAgree spelling x x := by
  intro settings scripts sources source other node found found' wellFormed links c member
  obtain rfl : source = other := Option.some.inj (found.symm.trans found')
  exact Workspace.isSome_lookup_of_own found member

include plain plain'

theorem linksAgree_of_isResolved (resolved : Path.IsResolved spelling) : LinksAgree spelling x y := by
  intro settings scripts sources source other node found found' wellFormed links c member
  obtain ⟨target, leads, segments⟩ := plain'.resolve_eq plain settings.packageRoot
    (Workspace.path_of_source? found)
  obtain ⟨-, -, -, -, componentLinks, -⟩ :=
    Declaration.selects_read (source.reading settings.packageRoot) wellFormed
  obtain ⟨link, listed, same⟩ := Workspace.exists_mem_eraseDups
    (List.mem_filterMap.2 ⟨node, links.member, links.target?.trans leads⟩)
  rw [← componentLinks] at listed
  have there := (plain'.beq_within_iff segments).2 ⟨resolved, rfl⟩
  exact Workspace.isSome_lookup_of_link found found' listed (BEq.trans same there) member

/-- A component whose only script is `y` has no code of its own and takes it from there. -/
theorem external_of_loads (settings : Settings) {sources : List Source} {source : Source}
    {node : NodeId} (found : Workspace.source? sources (Path.within spelling x) = some source)
    (wellFormed : source.document.WellFormed) (ends : ".js".toList <:+ y.toList) {c : Component}
    (member : c ∈ (source.findings settings.packageRoot).components)
    (loads : (source.reading settings.packageRoot).Loads (some c.element) node y) :
    c.code = none ∧ if y = ".js" then c.external = none else ∃ target, c.external = some target ∧
      ((target == Path.within spelling y) = true ↔ Path.IsResolved spelling) := by
  obtain ⟨target, leads, segments⟩ := plain'.resolve_eq plain settings.packageRoot
    (Workspace.path_of_source? found)
  have offered : (source.reading settings.packageRoot).offer (some c.element) node =
      if y = ".js" then {} else { external := some target } := by
    rw [Declaration.Reading.offer, if_pos loads.type, loads.source]
    dsimp only
    by_cases bare : y = ".js"
    · rw [if_neg (mt (plain'.isScript_iff ends).1 (not_not.2 bare)), if_pos bare]
    · rw [if_pos ((plain'.isScript_iff ends).2 bare), if_neg bare]
      exact congrArg _ leads
  have slot := Declaration.slot_of_mem_read (r := source.reading settings.packageRoot) wellFormed
    member
  rw [loads.only, List.map_singleton, offered] at slot
  have there := (plain'.beq_within_iff segments).trans (and_iff_left rfl)
  by_cases bare : y = ".js"
  · rw [if_pos bare] at slot ⊢
    exact ⟨congrArg Declaration.Slot.code slot, congrArg Declaration.Slot.external slot⟩
  · rw [if_neg bare] at slot ⊢
    exact ⟨congrArg Declaration.Slot.code slot, target, congrArg Declaration.Slot.external slot,
      there⟩

theorem scriptsAgree_of_isResolved (ends : ".js".toList <:+ y.toList)
    (resolved : Path.IsResolved spelling) (named : y ≠ ".js") : ScriptsAgree spelling x y := by
  intro settings scripts sources source node unit found wellFormed given c member loads
  obtain ⟨code, external⟩ := external_of_loads plain plain' settings found wellFormed ends member loads
  rw [if_neg named] at external
  obtain ⟨target, external, there⟩ := external
  obtain ⟨first, file, isThere, declared, linked⟩ :=
    Workspace.find?_linkAll_of_source? settings scripts found
  obtain ⟨i, isIth⟩ := List.mem_iff_getElem?.1 member
  obtain ⟨c', present, same, supplied⟩ := linked i c isIth
  have inside := (List.getElem?_eq_some_iff.1 isIth).1
  refine ⟨file, isThere, first + i, ?_, c', present, same, ?_⟩
  · rw [declared]
    exact List.mem_range'_1.2 ⟨Nat.le_add_right _ _, Nat.add_lt_add_left inside _⟩
  · rw [supplied, code, external, Option.none_or, Option.bind_some,
      OrderedMap.find?_eq_of_beq scripts (there.2 resolved), given]

end Neighbors

/-! ## Other folders -/

namespace Document

/-- `<head><link rel=components href=target></head>`. -/
def importing (target : String) : Document := ⟨#[
  { data := .document, children := [1] },
  { data := .element "head" {}, parent := some 0, children := [2] },
  { data := .element "link" ⟨[("rel", "components"), ("href", target)]⟩, parent := some 1 }]⟩

/-- `<element name=x-a><script type=module src=source></script></element>`. -/
def declaring (source : String) : Document := ⟨#[
  { data := .document, children := [1] },
  { data := .element "element" ⟨[("name", "x-a")]⟩, parent := some 0, children := [2] },
  { data := .element "script" ⟨[("type", "module"), ("src", source)]⟩, parent := some 1 }]⟩

theorem wellFormed_importing (target : String) : (importing target).WellFormed := by
  have checked : (importing target).Checked id := of_decide_eq_true rfl
  exact .of_checked checked

theorem wellFormed_declaring (source : String) : (declaring source).WellFormed := by
  have checked : (declaring source).Checked id := of_decide_eq_true rfl
  exact .of_checked checked

theorem inOrder_importing (target : String) : (importing target).inOrder = [1, 2] := rfl

theorem inOrder_declaring (source : String) : (declaring source).inOrder = [1, 2] := rfl

end Document

namespace Declaration
variable {r : Reading} {text : String}

theorem links_importing (plain : IsPlain text) (same : r.document = .importing text) :
    r.Links 2 text := by
  have isHead : r.document.tag? 1 = some "head" := by rw [same]; rfl
  have isLink : r.document.tag? 2 = some "link" := by rw [same]; rfl
  have above : r.document.ancestors 2 = [1] := by rw [same]; rfl
  constructor
  · rw [same, Document.inOrder_importing]
    decide
  · simp [Document.isElement, isLink]
  · simp [Document.isWithin, above, Document.isElement, isHead]
  · simp [Reading.isReached, above, Reading.isClosed, Reading.isStray, Document.isElement, isHead]
  · rw [same]
    change Text.trimmed "components" = "components"
    decide +kernel
  · rw [same]
    exact plain.trimmed_eq

theorem read_importing (same : r.document = .importing text) {target : Path}
    (leads : r.target? "components" 2 = some target) :
    (read r).components = [] ∧ (read r).componentLinks = [target] := by
  have isHead : r.document.tag? 1 = some "head" := by rw [same]; rfl
  have isLink : r.document.tag? 2 = some "link" := by rw [same]; rfl
  have wellFormed : r.document.WellFormed := same ▸ Document.wellFormed_importing text
  have inOrder : r.document.inOrder = [1, 2] := same ▸ Document.inOrder_importing text
  obtain ⟨-, -, -, components, links, -⟩ := selects_read r wellFormed
  rw [inOrder] at components links
  constructor
  · simpa [Reading.declares, Document.isElement, isHead, isLink] using components
  · have noLink : r.target? "components" 1 = none := by
      simp [Reading.target?, Document.isElement, isHead]
    rw [List.filterMap_cons_none noLink, List.filterMap_cons_some leads] at links
    exact links

theorem read_declaring (plain : IsPlain text) (same : r.document = .declaring text) :
    ∃ c, (read r).components = [c] ∧ c.tag = "x-a" ∧ r.Loads (some c.element) 2 text := by
  have isElement : r.document.tag? 1 = some "element" := by rw [same]; rfl
  have isScript : r.document.tag? 2 = some "script" := by rw [same]; rfl
  have top : r.document.ancestors 1 = [] := by rw [same]; rfl
  have above : r.document.ancestors 2 = [1] := by rw [same]; rfl
  have inOrder : r.document.inOrder = [1, 2] := same ▸ Document.inOrder_declaring text
  have name : r.name 1 = "x-a" := by
    rw [Reading.name, same]
    change Text.trimmed "x-a" = "x-a"
    decide +kernel
  have declares : r.declares 1 = true := by
    simp [Reading.declares, Reading.isOutermost, Document.isWithin, Document.isElement, top,
      isElement, name]
  have silent : r.declares 2 = false := by
    simp [Reading.declares, Document.isElement, isScript]
  have wellFormed : r.document.WellFormed := same ▸ Document.wellFormed_declaring text
  obtain ⟨-, -, -, components, -⟩ := selects_read r wellFormed
  rw [inOrder, List.filter_cons_of_pos declares, List.filter_cons_of_neg (by simp [silent])]
    at components
  obtain ⟨c, listed, bare⟩ := List.map_eq_singleton_iff.1 components
  have element : c.element = 1 := congrArg Component.element bare
  refine ⟨c, listed, ?_, ?_, ?_, ?_⟩
  · have tag : (uncoded c).tag = Text.lowered (r.name 1) := by
      rw [bare, Reading.declaration, Reading.name]
    rw [name] at tag
    exact tag.trans (by decide +kernel)
  · rw [element, Reading.scriptsOf, inOrder]
    simp [Reading.isScriptOf, Document.isElement, Reading.isReached, Reading.home, isElement,
      isScript, above, Reading.isClosed, Reading.isStray, name, declares]
  · rw [same]
    change some (Text.trimmed "module") = some "module"
    decide +kernel
  · rw [same]
    change some (Text.trimmed text) = some text
    rw [plain.trimmed_eq]

end Declaration

section Neighbors
variable {spelling x y : String} (plain : IsPlain x) (plain' : IsPlain y)
include plain plain'

/-- Of two files in a folder that is not spelled canonically, one does not find the other. -/
theorem not_linksAgree (different : x ≠ y) (unresolved : ¬ Path.IsResolved spelling) :
    ¬ LinksAgree spelling x y := by
  intro agree
  obtain ⟨source, path, document⟩ : ∃ source : Source,
      source.path = Path.within spelling x ∧ source.document = .importing y :=
    ⟨{ path := Path.within spelling x, document := .importing y }, rfl, rfl⟩
  obtain ⟨other, path', document'⟩ : ∃ other : Source,
      other.path = Path.within spelling y ∧ other.document = .declaring y :=
    ⟨{ path := Path.within spelling y, document := .declaring y }, rfl, rfl⟩
  have apart : (other.path == source.path) = false := by
    rw [Bool.eq_false_iff, Ne, Path.beq_iff, path, path', plain.segments_within,
      plain'.segments_within]
    intro same
    have names := (List.append_inj' same rfl).2
    simp only [List.cons.injEq, Segment.name.injEq, and_true] at names
    exact different (String.toList_inj.1 names).symm
  obtain ⟨found, found'⟩ := Workspace.source?_pair apart
  rw [path] at found
  rw [path'] at found'
  obtain ⟨target, leads, segments⟩ := plain'.resolve_eq plain ⟨""⟩
    (Workspace.path_of_source? found)
  have links := Declaration.links_importing (r := source.reading ⟨""⟩) plain' document
  obtain ⟨nothing, link⟩ := Declaration.read_importing document (links.target?.trans leads)
  obtain ⟨c, declared, -⟩ := Declaration.read_declaring (r := other.reading ⟨""⟩) plain' document'
  have inScope := agree { packageRoot := ⟨""⟩ } {} [source, other] source other 2 found found'
    (document ▸ Document.wellFormed_importing y) links c (declared ▸ List.mem_singleton_self c)
  obtain ⟨first, there, -⟩ :=
    Workspace.find?_declareAll_of_source? (w := { settings := { packageRoot := ⟨""⟩ } }) found
  rw [Workspace.lookup_linkAll c.tag there] at inScope
  -- The file declares nothing, and no file has the path that its link leads to.
  have noThere {name : String} (plain : IsPlain name) :
      (Path.within spelling name == target) = false := by
    rw [BEq.comm, Bool.eq_false_iff]
    exact fun same => unresolved ((plain.beq_within_iff segments).1 same).1
  have missing : (({ settings := { packageRoot := ⟨""⟩ } } : Workspace).declareAll
      [source, other]).1.files.find? target = none := by
    refine Workspace.find?_declareAll (List.forall_mem_cons.2 ⟨?_, List.forall_mem_singleton.2 ?_⟩)
    · rw [path]
      exact noThere plain
    · rw [path']
      exact noThere plain'
  have alone : candidates (({ settings := { packageRoot := ⟨""⟩ } } : Workspace).declareAll
      [source, other]).1.files (source.file ⟨""⟩ first) = [] := by
    have declared : (source.file ⟨""⟩ first).declared = [] := by
      rw [source.declared_file, nothing]
      rfl
    have linked : (source.file ⟨""⟩ first).componentLinks = [target] := link
    rw [candidates, declared, linked, importedBy, List.flatMap_cons, missing]
    rfl
  rw [alone] at inScope
  cases inScope

/-- In a folder that is not spelled canonically, or under a name with nothing before `.js`, the
script stays unused. -/
theorem not_scriptsAgree (ends : ".js".toList <:+ y.toList)
    (lost : ¬ (Path.IsResolved spelling ∧ y ≠ ".js")) : ¬ ScriptsAgree spelling x y := by
  intro agree
  obtain ⟨source, path, document⟩ : ∃ source : Source,
      source.path = Path.within spelling x ∧ source.document = .declaring y :=
    ⟨{ path := Path.within spelling x, document := .declaring y }, rfl, rfl⟩
  obtain ⟨unit⟩ : Nonempty CodeUnit := ⟨(CodeUnit.read ⟨"y.js"⟩ "" ⟨1, 1⟩).1⟩
  have found : Workspace.source? [source] (Path.within spelling x) = some source := by
    rw [← path]
    simp [Workspace.source?]
  obtain ⟨c, declared, -, loads⟩ :=
    Declaration.read_declaring (r := source.reading ⟨""⟩) plain' document
  have wellFormed : source.document.WellFormed := document ▸ Document.wellFormed_declaring y
  have member : c ∈ (source.findings ⟨""⟩).components := declared ▸ List.mem_singleton_self c
  obtain ⟨code, external⟩ := external_of_loads plain plain' { packageRoot := ⟨""⟩ } found
    wellFormed ends member loads
  let scripts := ({} : OrderedMap Path CodeUnit).insert (Path.within spelling y) unit
  have unused : c.external.bind scripts.find? = none := by
    by_cases bare : y = ".js"
    · rw [if_pos bare] at external
      rw [external, Option.bind_none]
    · rw [if_neg bare] at external
      obtain ⟨target, external, there⟩ := external
      have missed : ¬ (Path.within spelling y == target) = true := by
        rw [BEq.comm]
        exact fun same => lost ⟨there.1 same, bare⟩
      rw [external, Option.bind_some, OrderedMap.find?_insert, if_neg missed]
      rfl
  obtain ⟨file, isThere, id, listed, c', present, -, given⟩ :=
    agree { packageRoot := ⟨""⟩ } scripts [source] source 2 unit found wellFormed
      (OrderedMap.find?_insert_self _ _ _) c member loads
  obtain ⟨first, file', isThere', declared', linked⟩ :=
    Workspace.find?_linkAll_of_source? { packageRoot := ⟨""⟩ } scripts found
  obtain rfl : file = file' := Option.some.inj (isThere.symm.trans isThere')
  obtain ⟨c'', present'', -, supplied⟩ := linked 0 c (declared ▸ rfl)
  have single : (source.findings ⟨""⟩).components.length = 1 := congrArg List.length declared
  rw [declared', single, List.range'_one, List.mem_singleton] at listed
  subst listed
  obtain rfl : c' = c'' := Option.some.inj (present.symm.trans present'')
  rw [given, code, unused] at supplied
  cases supplied

/-- Links between neighbors lead to each other exactly when their folder is spelled canonically, or
the file links itself. A script next to the file is found exactly then, too, but never when its
name is `.js` alone. -/
theorem siblings_agree_iff : (LinksAgree spelling x y ↔ x = y ∨ Path.IsResolved spelling) ∧
    (".js".toList <:+ y.toList →
      (ScriptsAgree spelling x y ↔ Path.IsResolved spelling ∧ y ≠ ".js")) := by
  refine ⟨⟨fun agree => ?_, ?_⟩, fun ends => ⟨fun agree => ?_, ?_⟩⟩
  · by_contra lost
    rw [not_or] at lost
    exact not_linksAgree plain plain' lost.1 lost.2 agree
  · rintro (rfl | resolved)
    · exact linksAgree_self
    · exact linksAgree_of_isResolved plain plain' resolved
  · by_contra lost
    exact not_scriptsAgree plain plain' ends lost agree
  · rintro ⟨resolved, named⟩
    exact scriptsAgree_of_isResolved plain plain' ends resolved named

end Neighbors

/-- The folder `a/b` is spelled canonically, `.` is not. -/
theorem siblings_agree_iff_foldered : (IsPlain "x" ∧ IsPlain "y.js") ∧
    LinksAgree "a/b" "x" "y.js" ∧ ScriptsAgree "a/b" "x" "y.js" ∧
    ¬ LinksAgree "." "x" "y.js" ∧ ¬ ScriptsAgree "." "x" "y.js" := by
  have x : IsPlain "x" := by decide +kernel
  have y : IsPlain "y.js" := by decide +kernel
  have canonical : Path.IsResolved "a/b" := by decide +kernel
  have dotted : ¬ Path.IsResolved "." := by decide +kernel
  have ends : ".js".toList <:+ "y.js".toList := by decide +kernel
  have inFolder : (LinksAgree "a/b" _ _ ↔ _) ∧ _ := siblings_agree_iff x y
  have inDot : (LinksAgree "." _ _ ↔ _) ∧ _ := siblings_agree_iff x y
  refine ⟨⟨x, y⟩, inFolder.1.2 (.inr canonical), (inFolder.2 ends).2 ⟨canonical, by decide⟩, ?_, ?_⟩
  · rw [inDot.1]
    exact not_or.2 ⟨by decide, dotted⟩
  · rw [inDot.2 ends]
    exact fun both => dotted both.1

/-- `./x` links `y`, and the tag that `./y` declares is not in its scope. -/
theorem not_linksAgree_dotted : ¬ LinksAgree "." "x" "y" ∧
    let sources : List Source := [
      { path := ⟨"./x"⟩, document := .importing "y" },
      { path := ⟨"./y"⟩, document := .declaring "y.js" }]
    let w := (({} : Workspace).declareAll sources).1.linkAll.1
    (w.files.find? ⟨"./x"⟩).map (·.componentLinks.map Path.text) = some ["y"] ∧
      w.lookup ⟨"./y"⟩ "x-a" = some 0 ∧ w.lookup ⟨"./x"⟩ "x-a" = none := by
  have x : IsPlain "x" := by decide +kernel
  have y : IsPlain "y" := by decide +kernel
  have dotted : ¬ Path.IsResolved "." := by decide +kernel
  exact ⟨not_linksAgree x y (by decide) dotted, by decide +kernel⟩

end ComponentMarkup
