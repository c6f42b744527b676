import ComponentMarkup.Binding.Scan
import ComponentMarkup.Proofs.Text

/-!
The segments of a scanned text. Put together again they are the text, every expression says at
which bytes it stands, and no other way to cut the text has its literals free of open bindings and
its expressions free of closing markers.
-/

namespace ComponentMarkup.Binding
open Text (StandsAt byteLength)

/-- What stands between the markers, with the markers around it. -/
def marked (raw : String) : String :=
  String.ofList openMarker ++ raw ++ String.ofList closeMarker

/-- Literals with what is bound between them; the last literal has nothing behind it. -/
def interleave : List String → List String → String
  | literal :: literals, bound :: more => literal ++ bound ++ interleave literals more
  | literal :: _, [] => literal
  | [], _ => ""

@[simp] theorem source_ofRaw (raw : List Char) (start stop : Nat) :
    (Expr.ofRaw raw start stop).source = openMarker ++ raw ++ closeMarker := by
  simp [Expr.source, Expr.ofRaw]

theorem ofList_source (e : Expr) : String.ofList e.source = marked e.raw := by
  simp [Expr.source, marked, String.append_assoc]

/-! ## Hits -/

/-- The marker stands nowhere in the text, also with what follows at its end, but right there. -/
def EndsBefore (marker cs : List Char) : Prop :=
  ∀ place, StandsAt marker (cs ++ marker) place → cs.length ≤ place

/-- No opening marker of the text has a closing one behind it. -/
def Unbound (cs : List Char) : Prop :=
  ∀ place, StandsAt openMarker cs place → ∀ later, place + openMarker.length ≤ later →
    ¬ StandsAt closeMarker cs later

theorem next?_eq_some_iff {cs : List Char} {hit : Hit} : next? cs = some hit ↔
    hit.before ++ (openMarker ++ hit.body ++ closeMarker) ++ hit.rest = cs ∧
      EndsBefore openMarker hit.before ∧ EndsBefore closeMarker hit.body := by
  rw [next?_eq_some]
  simp only [Text.cutAt_eq_some_iff]
  constructor
  · rintro ⟨tail, ⟨rfl, opened⟩, rfl, closed⟩
    exact ⟨by simp only [List.append_assoc], opened, closed⟩
  · rintro ⟨rfl, opened, closed⟩
    exact ⟨hit.body ++ closeMarker ++ hit.rest, ⟨by simp only [List.append_assoc], opened⟩, rfl,
      closed⟩

theorem next?_eq_none_iff {cs : List Char} : next? cs = none ↔ Unbound cs := by
  cases opened : Text.cutAt openMarker cs with
  | none =>
      refine iff_of_true (by simp [next?, opened]) fun place stands => ?_
      exact absurd stands (Text.cutAt_eq_none.1 opened place)
  | some parts =>
      obtain ⟨before, tail⟩ := parts
      have closed : next? cs = none ↔ Text.cutAt closeMarker tail = none := by
        cases cut : Text.cutAt closeMarker tail <;> simp [next?, opened, cut]
      have whole := Text.append_of_cutAt opened
      have behind (place : Nat) :
          StandsAt closeMarker cs (before.length + openMarker.length + place) ↔
            StandsAt closeMarker tail place := by
        rw [← whole, ← List.length_append, Text.standsAt_append_left]
      rw [closed, Text.cutAt_eq_none]
      constructor
      · intro nowhere place stands later after
        have first := Text.le_of_cutAt opened stands
        obtain ⟨rest, rfl⟩ : ∃ rest, later = before.length + openMarker.length + rest :=
          Nat.exists_eq_add_of_le (by omega)
        exact fun there => nowhere rest ((behind rest).1 there)
      · intro unbound place there
        have here : StandsAt openMarker cs before.length := by
          rw [← whole]
          exact Text.standsAt_between before openMarker tail
        exact unbound _ here _ (Nat.le_add_right _ _) ((behind place).2 there)

/-! ## Segmentations -/

/-- A way to cut a text at bindings: the first opening marker of every part but the last is the one
that ends its literal, the first closing marker after it ends what is bound, and the last literal
has no opening marker that is closed. -/
structure IsSegmentation (text : String) (literals raws : List String) : Prop where
  count : literals.length = raws.length + 1
  whole : interleave literals (raws.map marked) = text
  opened : ∀ literal ∈ literals.dropLast, EndsBefore openMarker literal.toList
  closed : ∀ raw ∈ raws, EndsBefore closeMarker raw.toList
  ended : ∀ tail ∈ literals.getLast?, Unbound tail.toList

theorem isSegmentation_nil {text : String} {literals : List String} :
    IsSegmentation text literals [] ↔ literals = [text] ∧ Unbound text.toList := by
  constructor
  · rintro ⟨count, whole, -, -, ended⟩
    obtain ⟨tail, rfl⟩ := List.length_eq_one_iff.1 count
    obtain rfl : tail = text := whole
    exact ⟨rfl, ended tail rfl⟩
  · rintro ⟨rfl, unbound⟩
    exact ⟨rfl, rfl, by simp, by simp, by simpa using unbound⟩

theorem isSegmentation_cons {text raw : String} {literals raws : List String} :
    IsSegmentation text literals (raw :: raws) ↔
      ∃ literal others rest, literals = literal :: others ∧ literal ++ marked raw ++ rest = text ∧
        EndsBefore openMarker literal.toList ∧ EndsBefore closeMarker raw.toList ∧
        IsSegmentation rest others raws := by
  constructor
  · rintro ⟨count, whole, opened, closed, ended⟩
    obtain ⟨literal, others, rfl⟩ : ∃ literal others, literals = literal :: others :=
      List.exists_cons_of_length_eq_add_one count
    have some : others ≠ [] := by
      rintro rfl
      simp at count
    rw [List.dropLast_cons_of_ne_nil some] at opened
    rw [List.getLast?_cons_of_ne_nil some] at ended
    refine ⟨literal, others, _, rfl, whole, opened _ (List.mem_cons_self ..),
      closed _ (List.mem_cons_self ..), by simpa using count, rfl, ?_, ?_, ended⟩
    · exact fun other member => opened other (List.mem_cons_of_mem _ member)
    · exact fun other member => closed other (List.mem_cons_of_mem _ member)
  · rintro ⟨literal, others, rest, rfl, rfl, opened, closed, count, whole, opens, closes, ended⟩
    have some : others ≠ [] := by
      rintro rfl
      simp at count
    refine ⟨by simpa using count, by rw [← whole]; rfl, ?_, ?_, ?_⟩
    · rw [List.dropLast_cons_of_ne_nil some]
      exact List.forall_mem_cons.2 ⟨opened, opens⟩
    · exact List.forall_mem_cons.2 ⟨closed, closes⟩
    · rwa [List.getLast?_cons_of_ne_nil some]

/-- The first part of a segmentation is the first hit. -/
theorem isSegmentation_cons_iff {text raw : String} {literals raws : List String} :
    IsSegmentation text literals (raw :: raws) ↔
      ∃ hit others, next? text.toList = some hit ∧ raw = String.ofList hit.body ∧
        literals = String.ofList hit.before :: others ∧
        IsSegmentation (String.ofList hit.rest) others raws := by
  rw [isSegmentation_cons]
  constructor
  · rintro ⟨literal, others, rest, rfl, rfl, opened, closed, more⟩
    refine ⟨⟨literal.toList, raw.toList, rest.toList⟩, others, next?_eq_some_iff.2 ⟨?_, opened, closed⟩,
      String.ofList_toList.symm, by rw [String.ofList_toList], by rwa [String.ofList_toList]⟩
    simp [marked]
  · rintro ⟨hit, others, found, rfl, rfl, more⟩
    obtain ⟨whole, opened, closed⟩ := next?_eq_some_iff.1 found
    refine ⟨String.ofList hit.before, others, String.ofList hit.rest, rfl, ?_, ?_, ?_, more⟩
    · rw [← text.ofList_toList, ← whole]
      simp [marked, String.append_assoc]
    · rwa [String.toList_ofList]
    · rwa [String.toList_ofList]

@[simp] theorem raw_expr (hit : Hit) (offset : Nat) : (hit.expr offset).raw = String.ofList hit.body :=
  rfl

theorem isSegmentation_boundFrom (offset : Nat) (cs : List Char) (literals raws : List String) :
    IsSegmentation (String.ofList cs) literals raws ↔
      (boundFrom offset cs).1.map Prod.fst ++ [String.ofList (boundFrom offset cs).2] = literals ∧
        (boundFrom offset cs).1.map (Expr.raw ∘ Prod.snd) = raws := by
  fun_induction boundFrom offset cs generalizing literals raws with
  | case1 offset cs missed =>
      have unbound : Unbound cs := next?_eq_none_iff.1 missed
      cases raws with
      | nil => simp [isSegmentation_nil, unbound, eq_comm]
      | cons raw raws =>
          rw [isSegmentation_cons_iff, String.toList_ofList, missed]
          simp
  | case2 offset cs hit found more tail rest ih =>
      cases raws with
      | nil =>
          refine iff_of_false (fun cut => ?_) (by simp)
          have unbound := (isSegmentation_nil.1 cut).2
          rw [String.toList_ofList, ← next?_eq_none_iff, found] at unbound
          cases unbound
      | cons raw raws =>
          rw [isSegmentation_cons_iff, String.toList_ofList, found]
          rw [rest] at ih
          simp only [List.map_cons, List.cons_append, List.cons.injEq, Function.comp_apply,
            raw_expr, Option.some.injEq]
          constructor
          · rintro ⟨_, others, rfl, rfl, rfl, more⟩
            obtain ⟨literals, raws⟩ := (ih _ _).1 more
            exact ⟨by rw [← literals], rfl, raws⟩
          · rintro ⟨rfl, rfl, rfl⟩
            exact ⟨hit, _, rfl, rfl, rfl, (ih _ _).2 ⟨rfl, rfl⟩⟩

/-- A scan cuts the text in the one way in which it can be cut at bindings. -/
theorem isSegmentation_iff_scan (text : String) (literals raws : List String) :
    IsSegmentation text literals raws ↔
      (scan text).texts = literals ∧ (scan text).exprs.map Expr.raw = raws := by
  have cut := isSegmentation_boundFrom 0 text.toList literals raws
  rwa [String.ofList_toList, ← List.map_map] at cut

theorem interleave_scan (text : String) :
    interleave (scan text).texts ((scan text).exprs.map fun expr => String.ofList expr.source) =
      text := by
  have cut := (isSegmentation_boundFrom 0 text.toList _ _).2 ⟨rfl, rfl⟩
  have sources : (scan text).exprs.map (fun expr => String.ofList expr.source) =
      ((scan text).exprs.map Expr.raw).map marked := by
    rw [List.map_map]
    exact List.map_congr_left fun expr _ => ofList_source expr
  rw [String.ofList_toList, ← List.map_map] at cut
  rw [sources]
  exact cut.whole

/-! ## Lone expressions -/

/-- The text is one binding and nothing around it. -/
def IsLone (text : String) : Prop :=
  ∃ raw, text = marked raw ∧ EndsBefore closeMarker raw.toList

theorem isSegmentation_lone {text raw : String} :
    IsSegmentation text ["", ""] [raw] ↔ text = marked raw ∧ EndsBefore closeMarker raw.toList := by
  have start : EndsBefore openMarker [] := fun _ _ => Nat.zero_le _
  have stop : Unbound [] := next?_eq_none_iff.1 rfl
  rw [isSegmentation_cons]
  constructor
  · rintro ⟨literal, others, rest, same, rfl, -, closed, more⟩
    obtain ⟨rfl, rfl⟩ := List.cons.inj same
    obtain ⟨single, -⟩ := isSegmentation_nil.1 more
    obtain rfl : "" = rest := (List.cons.inj single).1
    exact ⟨by rw [String.empty_append, String.append_empty], closed⟩
  · rintro ⟨rfl, closed⟩
    exact ⟨"", [""], "", rfl, by rw [String.empty_append, String.append_empty], start, closed,
      isSegmentation_nil.2 ⟨rfl, stop⟩⟩

theorem Segments.single?_eq_some {s : Segments} {expr : Expr} :
    s.single? = some expr ↔ s.texts = ["", ""] ∧ s.exprs = [expr] := by
  obtain ⟨bound, tail⟩ := s
  rw [single?, texts, exprs]
  match bound with
  | [] => simp
  | [(before, found)] => simp [and_assoc]
  | _ :: _ :: _ => simp

theorem isLone_iff {text : String} : IsLone text ↔ ∃ expr, (scan text).single? = some expr := by
  simp only [Segments.single?_eq_some]
  constructor
  · rintro ⟨raw, lone⟩
    obtain ⟨texts, raws⟩ := (isSegmentation_iff_scan text _ _).1 (isSegmentation_lone.2 lone)
    obtain ⟨expr, single, -⟩ := List.map_eq_singleton_iff.1 raws
    exact ⟨expr, texts, single⟩
  · rintro ⟨expr, texts, single⟩
    refine ⟨expr.raw, isSegmentation_lone.1 ((isSegmentation_iff_scan text _ _).2 ⟨texts, ?_⟩)⟩
    rw [single, List.map_singleton]

/-! ## Bytes -/

theorem utf8ByteSize_marked (raw : String) :
    (marked raw).utf8ByteSize = 2 + raw.utf8ByteSize + 2 := by
  rw [marked, String.utf8ByteSize_append, String.utf8ByteSize_append]
  rfl

/-- Cutting the middle out of a text by its bytes. -/
theorem extract_between (lead middle rest : String) :
    (lead ++ middle ++ rest).toUTF8.extract lead.utf8ByteSize
      (lead.utf8ByteSize + middle.utf8ByteSize) = middle.toUTF8 := by
  simp only [String.toUTF8_eq_toByteArray, String.toByteArray_append]
  rw [ByteArray.extract_append, ByteArray.extract_append_eq_right String.size_toByteArray.symm
    (by rw [String.size_toByteArray, String.size_toByteArray])]
  simp [ByteArray.size_append, String.size_toByteArray]

/-- Where the expression before place `i` stops; the first of a list has `offset` before it. -/
def stopBefore (offset : Nat) (exprs : List Expr) (i : Nat) : Nat :=
  ((exprs.take i).getLast?.map Expr.stop).getD offset

/-- Every expression starts where the literal before it stops and is as long as its marked form. -/
def Chained : Nat → List (String × Expr) → Prop
  | _, [] => True
  | offset, (literal, expr) :: more =>
      expr.start = offset + literal.utf8ByteSize ∧
        expr.stop = expr.start + (marked expr.raw).utf8ByteSize ∧ Chained expr.stop more

theorem chained_boundFrom (offset : Nat) (cs : List Char) :
    Chained offset (boundFrom offset cs).1 := by
  fun_induction boundFrom offset cs with
  | case1 => trivial
  | case2 offset cs hit found more tail rest ih =>
      rw [rest] at ih
      refine ⟨?_, ?_, ih⟩
      · simp [Hit.expr, Expr.ofRaw, Hit.opening, Text.utf8ByteSize_eq]
      · simp [Hit.expr, Expr.ofRaw, Hit.closing, Text.utf8ByteSize_eq, marked,
          Text.byteLength_append]
        omega

namespace Chained
variable {offset : Nat} {bound : List (String × Expr)}

theorem start_eq (chained : Chained offset bound) {i : Nat} {literal : String} {expr : Expr}
    (found : bound[i]? = some (literal, expr)) :
    expr.start = stopBefore offset (bound.map Prod.snd) i + literal.utf8ByteSize := by
  induction bound generalizing offset i with
  | nil => simp at found
  | cons first more ih =>
      obtain ⟨starts, -, later⟩ := chained
      cases i with
      | zero =>
          obtain rfl : first = (literal, expr) := by simpa using found
          exact starts
      | succ i =>
          rw [ih later (by simpa using found)]
          simp [stopBefore, List.getLast?_cons]

/-- No expression starts before the one ahead of it stops. -/
theorem ordered (chained : Chained offset bound) :
    (∀ expr ∈ bound.map Prod.snd, offset ≤ expr.start ∧ expr.start < expr.stop) ∧
      (bound.map Prod.snd).Pairwise fun expr later => expr.stop ≤ later.start := by
  induction bound generalizing offset with
  | nil => exact ⟨by simp, .nil⟩
  | cons first more ih =>
      obtain ⟨starts, stops, later⟩ := chained
      obtain ⟨behind, apart⟩ := ih later
      have filled : first.2.start < first.2.stop := by
        rw [stops, utf8ByteSize_marked]
        omega
      refine ⟨?_, List.pairwise_cons.2 ⟨fun expr member => (behind expr member).1, apart⟩⟩
      intro expr member
      rcases List.mem_cons.1 member with rfl | member
      · exact ⟨by omega, filled⟩
      · have := behind expr member
        exact ⟨by omega, this.2⟩

/-- The bytes at which an expression says it stands are those of its marked form. -/
theorem bytes (lead : String) {tail text : String} (chained : Chained lead.utf8ByteSize bound)
    (whole : lead ++ interleave (bound.map Prod.fst ++ [tail])
      ((bound.map Prod.snd).map fun expr => String.ofList expr.source) = text) :
    ∀ expr ∈ bound.map Prod.snd, expr.stop ≤ text.utf8ByteSize ∧
      text.toUTF8.extract expr.start expr.stop = (String.ofList expr.source).toUTF8 := by
  induction bound generalizing lead with
  | nil => simp
  | cons first more ih =>
      obtain ⟨literal, expr⟩ := first
      obtain ⟨starts, stops, later⟩ := chained
      have start : expr.start = (lead ++ literal).utf8ByteSize := by
        rw [starts, String.utf8ByteSize_append]
      have stop : expr.stop = (lead ++ literal).utf8ByteSize + (marked expr.raw).utf8ByteSize := by
        rw [stops, start]
      simp only [List.map_cons, List.cons_append, interleave, ofList_source,
        ← String.append_assoc] at whole
      rw [List.map_cons, List.forall_mem_cons]
      refine ⟨⟨?_, ?_⟩, ih (lead ++ literal ++ marked expr.raw) ?_ ?_⟩
      · simp only [← whole, stop, String.utf8ByteSize_append]
        exact Nat.le_add_right _ _
      · rw [← whole, stop, start, extract_between, ofList_source]
      · rwa [String.utf8ByteSize_append, ← stop]
      · simpa only [ofList_source] using whole

end Chained

/-- What a text is cut into: literals with expressions between them, which are in the text where
they say, one behind the other. -/
structure Tiles (text : String) (literals : List String) (exprs : List Expr) : Prop where
  count : literals.length = exprs.length + 1
  whole : interleave literals (exprs.map fun expr => String.ofList expr.source) = text
  inside : ∀ expr ∈ exprs, expr.stop ≤ text.utf8ByteSize
  bytes : ∀ expr ∈ exprs,
    text.toUTF8.extract expr.start expr.stop = (String.ofList expr.source).toUTF8
  starts : ∀ i literal expr, literals[i]? = some literal → exprs[i]? = some expr →
    expr.start = stopBefore 0 exprs i + literal.utf8ByteSize
  filled : ∀ expr ∈ exprs, expr.start < expr.stop
  ordered : exprs.Pairwise fun expr later => expr.start < later.start ∧ expr.stop ≤ later.start

/-- A scan loses nothing, and its expressions say exactly where they stand. -/
theorem tiles_scan (text : String) : Tiles text (scan text).texts (scan text).exprs := by
  have whole := interleave_scan text
  have chained : Chained 0 (scan text).bound := chained_boundFrom 0 text.toList
  obtain ⟨filled, apart⟩ := chained.ordered
  have placed : ∀ expr ∈ (scan text).exprs, expr.stop ≤ text.utf8ByteSize ∧
      text.toUTF8.extract expr.start expr.stop = (String.ofList expr.source).toUTF8 :=
    Chained.bytes "" chained (by rw [String.empty_append]; exact whole)
  refine ⟨by simp [Segments.texts, Segments.exprs], whole, fun expr member => (placed expr member).1,
    fun expr member => (placed expr member).2, ?_, fun expr member => (filled expr member).2, ?_⟩
  · intro i literal expr atLiteral atExpr
    have early : i < (scan text).bound.length := by
      have := (List.getElem?_eq_some_iff.1 atExpr).1
      rwa [Segments.exprs, List.length_map] at this
    rw [Segments.texts, List.getElem?_append_left (by rwa [List.length_map]), List.getElem?_map]
      at atLiteral
    rw [Segments.exprs, List.getElem?_map] at atExpr
    rw [List.getElem?_eq_getElem early] at atLiteral atExpr
    refine chained.start_eq (i := i) ((List.getElem?_eq_getElem early).trans ?_)
    exact congrArg some (Prod.ext (Option.some.inj atLiteral) (Option.some.inj atExpr))
  · refine apart.imp_of_mem fun member _ behind => ⟨?_, behind⟩
    exact Nat.lt_of_lt_of_le (filled _ member).2 behind

end ComponentMarkup.Binding
