import ComponentMarkup.Proofs.Annotated.Conserved
import ComponentMarkup.Proofs.Annotated.Entering
import ComponentMarkup.Proofs.Binding.Segments

/-!
What the bindings of elements look like. Each was made from one attribute: of a class list it has the
expressions, of any other text it has all there is, and for a two-way attribute one expression.
-/

namespace ComponentMarkup

/-! ## Shapes -/

namespace Binding.Attribute
variable {isComponent : Bool} {name value key : String} {b : Attribute}

/-- The binding of a class list has expressions and no literals. Any other has one expression alone,
or one literal more than expressions. -/
structure IsShaped (b : Attribute) : Prop where
  classes : b.style = .classTokens → b.literals = none ∧ b.exprs ≠ []
  direct : b.style ≠ .classTokens → b.literals = none → ∃ expr, b.exprs = [expr]
  interpolated : b.style ≠ .classTokens → ∀ literals, b.literals = some literals →
    literals.length = b.exprs.length + 1

/-- The binding loses nothing of the text that it was made from. It is direct if that is one binding
with nothing around it, and else the literals and the expressions in turn are the text. Static text
has no expressions and is bound for components alone. -/
structure Retains (isComponent : Bool) (value : String) (b : Attribute) : Prop where
  direct : b.literals = none ↔ IsLone value
  alone : b.literals = none → ∃ expr, b.exprs = [expr] ∧ String.ofList expr.source = value
  count : ∀ literals, b.literals = some literals → literals.length = b.exprs.length + 1
  whole : ∀ literals, b.literals = some literals →
    interleave literals (b.exprs.map fun expr => String.ofList expr.source) = value
  static : b.exprs = [] → isComponent = true ∧ hasBinding value = false

theorem hasBinding_of_isLone (lone : IsLone value) : hasBinding value = true := by
  obtain ⟨expr, single⟩ := isLone_iff.1 lone
  have bound : (scan value).exprs = [expr] := (Segments.single?_eq_some.1 single).2
  rw [← Bool.not_eq_false', ← isEmpty_bound_scan, ← List.isEmpty_map (f := Prod.snd)]
  rw [Segments.exprs] at bound
  rw [bound]
  rfl

theorem exprs_scan_ne_nil (bound : hasBinding value = true) : (scan value).exprs ≠ [] := by
  intro none
  have empty := isEmpty_bound_scan value
  rw [List.map_eq_nil_iff.1 none, bound] at empty
  cases empty

theorem retains_ofSegments (bound : hasBinding value = true) (isComponent : Bool) (alone : Style) :
    (ofSegments (scan value) alone).Retains isComponent value := by
  have whole := interleave_scan value
  unfold ofSegments
  split
  · next expr single =>
    obtain ⟨texts, exprs⟩ := Segments.single?_eq_some.1 single
    rw [texts, exprs, List.map_singleton, interleave, interleave, String.empty_append,
      String.append_empty] at whole
    refine ⟨iff_of_true rfl (isLone_iff.2 ⟨expr, single⟩), fun _ => ⟨expr, rfl, whole⟩, ?_, ?_, ?_⟩
    · rintro _ ⟨⟩
    · rintro _ ⟨⟩
    · exact fun none => absurd none (List.cons_ne_nil _ _)
  · next several =>
    have notLone : ¬ IsLone value := by
      rw [isLone_iff, several]
      rintro ⟨_, ⟨⟩⟩
    refine ⟨iff_of_false (Option.some_ne_none _) notLone, fun none => ?_, ?_, ?_, fun none => ?_⟩
    · cases none
    · rintro _ ⟨⟩
      exact (tiles_scan value).count
    · rintro _ ⟨⟩
      exact whole
    · exact absurd none (exprs_scan_ne_nil bound)

theorem retains_static (unbound : hasBinding value = false) :
    (interpolation [] [value] .plain).Retains true value where
  direct := iff_of_false nofun fun lone =>
    nomatch unbound.symm.trans (hasBinding_of_isLone lone)
  alone := nofun
  count := by
    rintro _ ⟨⟩
    rfl
  whole := by
    rintro _ ⟨⟩
    rfl
  static _ := ⟨rfl, unbound⟩

/-- The attribute `name` of an element gives rise to the binding `b`, stored under `key`. -/
inductive Stems (isComponent : Bool) (name value : String) : String → Attribute → Prop
  | classes (isClass : name = "class") (bound : hasBinding value = true) :
      Stems isComponent name value "class"
        { exprs := (scan value).exprs, literals := none, style := .classTokens }
  | own {b : Attribute} (owned : Bearer.isOwn name = true) (style : b.style ≠ .classTokens)
      (retains : b.Retains isComponent value) : Stems isComponent name value name b
  | property {hyphenated : String} {style : Style}
      (twoWay : Text.after? "bind-" name = some hyphenated) (plain : style ≠ .classTokens) :
      Stems isComponent name value (canonicalProperty hyphenated)
        (direct (.ofText (Text.trimmed value)) style)
  | choice {hyphenated : String} (twoWay : Text.after? "bind-" name = some hyphenated)
      (static : String) :
      Stems isComponent name value "checked"
        (direct (.ofText (Pass.radioCondition (Text.trimmed value) static)) .plain)

theorem IsShaped.of_direct {expr : Expr} {style : Style} (plain : style ≠ .classTokens) :
    (Attribute.direct expr style).IsShaped :=
  ⟨fun isClass => absurd isClass plain, fun _ _ => ⟨expr, rfl⟩, nofun⟩

theorem Stems.isShaped (stems : Stems isComponent name value key b) : b.IsShaped := by
  cases stems with
  | classes _ bound =>
      exact ⟨fun _ => ⟨rfl, exprs_scan_ne_nil bound⟩, fun other => absurd rfl other, nofun⟩
  | own _ style retains =>
      refine ⟨fun isClass => absurd isClass style, fun _ direct => ?_, fun _ => retains.count⟩
      obtain ⟨expr, single, -⟩ := retains.alone direct
      exact ⟨expr, single⟩
  | property _ plain => exact .of_direct plain
  | choice _ _ => exact .of_direct (by decide)

theorem style_ofSegments (segments : Segments) {alone : Style} (plain : alone ≠ .classTokens) :
    (ofSegments segments alone).style ≠ .classTokens := by
  unfold ofSegments
  split
  · exact plain
  · exact Style.noConfusion

end Binding.Attribute

/-- The bindings of an annotation, each with its name. -/
def AnnotatedNode.storedBindings (a : AnnotatedNode) : List (String × Binding.Attribute) :=
  a.bindings?.elim [] (·.attributes.entries)

/-- The annotation has no binding but from attributes of its element, which were read. -/
def AnnotatedNode.StemsFrom (tag : String) (attributes : Attributes) (a : AnnotatedNode) : Prop :=
  ∀ entry ∈ a.storedBindings, Pass.readsAttributes tag a.directive? = true ∧
    ∃ given ∈ attributes.entries,
      Binding.Attribute.Stems a.component?.isSome given.1 given.2 entry.1 entry.2

/-- The annotation has no binding but for a component, or it has what reading the attributes of its
element leaves. -/
inductive AnnotatedNode.IsBound (tag : String) (attributes : Attributes) (a : AnnotatedNode) : Prop
  | bare {component : Option ComponentId} (bound : a.bindings? = some { component }) :
      IsBound tag attributes a
  | read {s : Pass} {id : AnnotatedId} {node : NodeId}
      (reads : Pass.readsAttributes tag a.directive? = true)
      (begins : s.BeginsAt id node ⟨tag, attributes, a.component?.isSome⟩)
      (bound : a.bindings? = (s.bindAttributes id node).bindings? id) : IsBound tag attributes a

namespace Pass
variable {s t u : Pass} {id : AnnotatedId} {node : NodeId} {name value : String} {tag : String}
  {attributes : Attributes} {P Q : String → Binding.Attribute → Prop}

/-! ## What is stored -/

def storedBindings (s : Pass) (id : AnnotatedId) : List (String × Binding.Attribute) :=
  (s.bindings? id).elim [] (·.attributes.entries)

theorem component?_eq_bind (s : Pass) (id : AnnotatedId) :
    s.component? id = (s.bindings? id).bind Bindings.component := by
  rw [component?, bindings?]
  cases s.annotations.get? id <;> rfl

theorem Bare.storedBindings (bare : s.Bare id) : s.storedBindings id = [] := by
  obtain ⟨component, bound⟩ := bare
  rw [Pass.storedBindings, bound]
  rfl

/-- From `s` to `t` nothing was stored that `P` does not hold of. -/
def Gathers (id : AnnotatedId) (P : String → Binding.Attribute → Prop) (s t : Pass) : Prop :=
  ∀ entry ∈ t.storedBindings id, entry ∈ s.storedBindings id ∨ P entry.1 entry.2

namespace Gathers

theorem of_same (same : t.bindings? id = s.bindings? id) : Gathers id P s t := by
  intro entry member
  rw [storedBindings, same] at member
  exact .inl member

theorem refl : Gathers id P s s := of_same rfl

theorem trans (first : Gathers id P s t) (second : Gathers id P t u) : Gathers id P s u :=
  fun entry member => (second entry member).elim (first entry) .inr

theorem mono (gathers : Gathers id P s t) (weaker : ∀ key b, P key b → Q key b) : Gathers id Q s t :=
  fun entry member => (gathers entry member).imp_right (weaker entry.1 entry.2)

theorem strip (gathers : Gathers id P s t) (name : String) : Gathers id P s (t.strip id name) :=
  gathers.trans (.of_same (bindings?_strip name))

theorem handle (gathers : Gathers id P s t) (event : String) (action : Binding.Action) :
    Gathers id P s (t.handle id event action) := by
  intro entry member
  rw [storedBindings, Pass.handle, bindings?_mapBindings] at member
  refine gathers entry ?_
  rw [storedBindings]
  cases bound : t.bindings? id <;> rw [bound] at member <;> exact member

theorem bind (gathers : Gathers id P s t) {binding : Binding.Attribute} (holds : P name binding) :
    Gathers id P s (t.bind id name binding) := by
  intro entry member
  rw [storedBindings, bindings?_bind] at member
  cases bound : t.bindings? id with
  | none =>
      rw [bound] at member
      cases member
  | some b =>
      rw [bound] at member
      rcases OrderedMap.eq_of_mem_write member with rfl | before
      · exact .inr holds
      · refine gathers entry ?_
        rw [storedBindings, bound]
        exact before

theorem install (gathers : Gathers id P s t) {property expr : String}
    (holds : P property (.direct (.ofText expr) .plain)) (node : NodeId) (event : String)
    (action : Binding.Action) : Gathers id P s (t.install id node property expr event action) := by
  have shadowed : Gathers id P s (t.shadow id node property) := by
    unfold shadow
    dsimp only
    split
    · exact (gathers.trans (of_same rfl)).strip _
    · exact gathers
  exact (shadowed.bind holds).handle event action

end Gathers

section Attribute
open Binding.Attribute

theorem gathers_bindTwoWay {hyphenated : String} (twoWay : Text.after? "bind-" name = some hyphenated)
    (isComponent : Bool) : Gathers id (Stems isComponent name value) s
      (s.bindTwoWay id node name (canonicalProperty hyphenated) value) := by
  have property (style : Binding.Style) (plain : style ≠ .classTokens) :
      Stems isComponent name value (canonicalProperty hyphenated)
        (.direct (.ofText (Text.trimmed value)) style) := .property twoWay plain
  unfold bindTwoWay
  dsimp only
  split
  · exact (Gathers.refl.install (property .plain (by decide)) _ _ _).strip name
  · split
    · exact .of_same rfl
    · exact (Gathers.refl.install (property .plain (by decide)) _ _ _).strip name
  · split
    · exact .of_same rfl
    · split
      · exact .of_same rfl
      · exact (Gathers.refl.install (.choice twoWay _) _ _ _).strip name
  · exact (Gathers.refl.bind (property .twoWay (by decide))).strip name
  · exact .of_same rfl

/-- Reading an attribute stores nothing but what stems from it. -/
theorem gathers_bindAttribute (name value : String) :
    Gathers id (Stems (s.component? id).isSome name value) s (bindAttribute id node s name value) := by
  unfold bindAttribute
  split
  · exact .refl
  · next bindable =>
    rw [Bool.or_eq_true, not_or, Bool.not_eq_true, Bool.not_eq_true] at bindable
    split
    · unfold bindEvent
      split
      · exact (Gathers.refl.handle _ _).strip name
      · exact .of_same rfl
    · next silent =>
      split
      · next hyphenated twoWay => exact gathers_bindTwoWay twoWay _
      · next plain =>
        have unbound : Text.startsWith name "bind-" = false := by
          rw [Text.startsWith, plain]
          rfl
        have owned (notClass : name ≠ "class") : Bearer.isOwn name = true := by
          rw [Bearer.isOwn, bindable.1, Bool.eq_false_iff.2 silent, unbound, bne_iff_ne.2 notClass]
          rfl
        split
        · next isStyle =>
          subst isStyle
          unfold bindStyle
          dsimp only
          rw [Binding.isEmpty_bound_scan]
          cases bound : Binding.hasBinding value with
          | false => exact .refl
          | true =>
              exact (Gathers.refl.bind (.own (owned (by decide)) (style_ofSegments _ (by decide))
                (retains_ofSegments bound _ _))).strip "style"
        · split
          · next isClass =>
            unfold bindClass
            dsimp only
            rw [Binding.isEmpty_bound_scan]
            cases bound : Binding.hasBinding value with
            | false => exact .refl
            | true => exact Gathers.bind (.of_same rfl) (.classes isClass bound)
          · next notClass =>
            unfold bindGeneric
            dsimp only
            rw [Binding.isEmpty_bound_scan]
            cases bound : Binding.hasBinding value with
            | false =>
                rw [Bool.not_false, if_pos rfl]
                split
                · next input =>
                  rw [Bool.and_eq_true, Bool.and_eq_true] at input
                  rw [input.1.1]
                  exact Gathers.refl.bind (.own (owned notClass) Binding.Style.noConfusion
                    (retains_static bound))
                · exact .refl
            | true =>
                exact (Gathers.refl.bind (.own (owned notClass) (style_ofSegments _ (by decide))
                  (retains_ofSegments bound _ _))).strip name

theorem gathers_foldl (rest : List (String × String)) :
    Gathers id (fun key b => ∃ given ∈ rest,
        Stems (s.component? id).isSome given.1 given.2 key b) s
      (rest.foldl (fun s entry => bindAttribute id node s entry.1 entry.2) s) := by
  induction rest generalizing s with
  | nil => exact .refl
  | cons entry rest ih =>
      obtain ⟨name, value⟩ := entry
      have edits : Edits id node s (bindAttribute id node s name value) :=
        Edits.refl.bindAttribute name value
      have first : Gathers id _ s (bindAttribute id node s name value) := gathers_bindAttribute name value
      have later := @ih (bindAttribute id node s name value)
      rw [edits.quiet.bound] at later
      refine (first.mono fun key b stems => ⟨_, List.mem_cons_self, stems⟩).trans
        (later.mono fun key b => ?_)
      rintro ⟨given, member, stems⟩
      exact ⟨given, List.mem_cons_of_mem _ member, stems⟩

end Attribute

/-! ## Entering -/

/-- When an annotation has been made, its attributes were read if it is one that has them read. -/
theorem ReadAs.isBound {reads : Bool} (read : ReadAs node s t reads) {a : AnnotatedNode}
    (data : s.document.data? node = some (.element tag attributes))
    (found : t.annotations.get? s.annotations.nodes.size = some a)
    (isRead : readsAttributes tag a.directive? = reads) : a.IsBound tag attributes := by
  have bindings : t.bindings? s.annotations.nodes.size = a.bindings? := by
    rw [bindings?, found, Option.bind_some]
  cases read with
  | unread begun =>
      obtain ⟨component, bound⟩ := begun.bare
      exact .bare (bindings.symm.trans bound)
  | @read start begun ends =>
      have bound := bindings.symm.trans ends.bindings
      refine .read isRead ⟨begun.bare, begun.document ▸ data, ?_, begun.steering⟩ bound
      have edits : Edits s.annotations.nodes.size node start
          (start.bindAttributes s.annotations.nodes.size node) := Edits.refl.bindAttributes
      rw [← edits.quiet.bound, component?_eq_bind, ← bound, AnnotatedNode.component?]

theorem isBound_enter {around : Surroundings} {entry : Entry}
    (valid : ∀ q ∈ around.parent, q < s.annotations.nodes.size)
    (data : s.document.data? node = some (.element tag attributes))
    (found : s.enter around node tag = (t, some entry)) :
    (∀ a, t.annotations.get? s.annotations.nodes.size = some a → a.IsBound tag attributes) ∧
      ∀ b, t.annotations.get? (s.annotations.nodes.size + 1) = some b →
        b.IsBound tag (withoutDirectives attributes) := by
  obtain ⟨reports, -, introduces⟩ := introduces_of_enter valid found
  have data' : ({ s with reports } : Pass).document.data? node = some (.element tag attributes) := data
  have size : s.annotations.nodes.size = ({ s with reports } : Pass).annotations.nodes.size := rfl
  rw [size]
  generalize ({ s with reports } : Pass) = s at *
  have element : s.document.tag? node = some tag := Document.tag?_eq_some.2 ⟨_, data'⟩
  cases introduces with
  | whole enters read =>
      refine ⟨fun a here => read.isBound data' here (by rw [enters.directive?_eq here]),
        fun b beyond => ?_⟩
      have inside := AnnotatedTree.lt_size_of_get? beyond
      rw [enters.size] at inside
      exact absurd inside (Nat.lt_irrefl _)
  | @split host condition hosts begun content read =>
      have last : (host.mapDocument fun _ => (splitContent s.document node).2).annotations.nodes.size =
          s.annotations.nodes.size + 1 := by
        rw [annotations_mapDocument]
        exact hosts.size
      rw [fst_splitContent element] at content read
      constructor
      · intro a here
        obtain ⟨h, hosted, leaf⟩ := hosts.tree.here
        obtain ⟨h', here', core⟩ := content.exists_core hosted
        obtain rfl := Option.some.inj (here'.symm.trans here)
        obtain ⟨component, bound⟩ := begun.bare
        rw [bindings?, hosted, Option.bind_some] at bound
        exact .bare ((AnnotatedNode.bindings?_of_core core).trans bound)
      · intro b here
        rw [← last] at here
        exact read.isBound (data?_splitContent_made data') here
          (by rw [content.directive?_eq here]; rfl)

end Pass

namespace AnnotatedNode
variable {a a' : AnnotatedNode} {tag : String} {attributes : Attributes}

theorem IsBound.of_reading (bound : a.IsBound tag attributes) (reading : a'.reading = a.reading) :
    a'.IsBound tag attributes := by
  obtain ⟨directive, bindings, -⟩ : a'.directive? = a.directive? ∧ a'.bindings? = a.bindings? ∧
      a'.stripped = a.stripped := by
    simpa only [AnnotatedNode.reading, Prod.mk.injEq] using reading
  have component : a'.component? = a.component? := by rw [component?, bindings, component?]
  cases bound with
  | bare bound => exact .bare (bindings.trans bound)
  | read reads begins bound => exact .read (directive ▸ reads) (component ▸ begins) (bindings.trans bound)

theorem IsBound.stems (bound : a.IsBound tag attributes) : a.StemsFrom tag attributes := by
  intro entry member
  rw [storedBindings] at member
  cases bound with
  | bare bound =>
      rw [bound] at member
      cases member
  | @read s id node reads begins bound =>
      refine ⟨reads, ?_⟩
      rw [bound, begins.eq_foldl] at member
      rcases Pass.gathers_foldl attributes.entries entry member with before | stems
      · rw [begins.bare.storedBindings] at before
        cases before
      · rwa [begins.component] at stems

end AnnotatedNode

theorem AnnotatedNode.storedBindings_of_isText {a : AnnotatedNode} (text : a.isText = true) :
    a.storedBindings = [] := by
  cases a using AnnotatedNode.byKind with
  | text => rfl
  | _ => cases text

/-! ## Files -/

/-- After a pass every annotation has no more bindings than reading what its element was given
leaves. -/
theorem isBound_annotateFile {s : Pass} (keepBlanks : Bool) (fresh : s.annotations = {})
    (wellFormed : s.document.WellFormed) {id : AnnotatedId} {a : AnnotatedNode}
    (found : (annotateFile keepBlanks s).annotations.get? id = some a) (element : a.isText = false) :
    ∃ tag attributes, Pass.Given s.document.bodyForest s.document (annotateFile keepBlanks s).document
        a.source tag attributes ∧ a.IsBound tag attributes := by
  have bears : Pass.Bears (fun tag attributes a => a.IsBound tag attributes) s.document.bodyForest s
      (annotateFile keepBlanks s) :=
    (visits_annotateFile keepBlanks s).bears (fun bound reading => bound.of_reading reading)
      (fun valid data found => Pass.isBound_enter valid data found)
      (walkable_bodyForest fresh wellFormed)
  have isNew : s.annotations.nodes.size ≤ id := by
    rw [fresh]
    exact Nat.zero_le id
  exact bears id a isNew found element

/-- After a pass every binding of every annotation stems from an attribute that its element was
given. -/
theorem stems_annotateFile {s : Pass} (keepBlanks : Bool) (fresh : s.annotations = {})
    (wellFormed : s.document.WellFormed) {id : AnnotatedId} {a : AnnotatedNode}
    (found : (annotateFile keepBlanks s).annotations.get? id = some a) (element : a.isText = false) :
    ∃ tag attributes,
      (annotateFile keepBlanks s).file.Gives s.document a.source tag attributes ∧
        a.StemsFrom tag attributes := by
  obtain ⟨tag, attributes, given, bound⟩ :=
    isBound_annotateFile keepBlanks fresh wellFormed found element
  exact ⟨tag, attributes, given.gives, bound.stems⟩

end ComponentMarkup
