import ComponentMarkup.Binding.Cursor

/-!
A cursor goes through the segments of a scan. Whatever is asked of it in whatever order, it answers
as a machine that knows nothing but the segments and the point among them at which it stands.
-/

namespace ComponentMarkup.Binding

/-- What a cursor can be asked. -/
inductive Request where
  | advance
  | expr
  | literal
  /-- To add all that is left to what was collected elsewhere. -/
  | collect (exprs : List Expr) (texts : List String)
  | reset

inductive Answer where
  | onBinding (stands : Bool)
  | expr (result : Except Misuse Expr)
  | literal (result : Except Misuse String)
  | collected (exprs : List Expr) (texts : List String)
  | reset

/-- The answers to a list of requests. -/
def answers {σ : Type} (step : σ → Request → Answer × σ) : σ → List Request → List Answer
  | _, [] => []
  | s, request :: rest => (step s request).1 :: answers step (step s request).2 rest

def Cursor.step (c : Cursor) : Request → Answer × Cursor
  | .advance => (.onBinding c.advance.onBinding, c.advance)
  | .expr => (.expr c.expr, c)
  | .literal => (.literal c.literal, c)
  | .collect exprs texts =>
      (.collected (exprs ++ c.collect.1.exprs) (texts ++ c.collect.1.texts), c.collect.2)
  | .reset => (.reset, c.reset)

/-! ## The reference machine -/

theorem Segments.lt_length_texts (s : Segments) {k : Nat} (inside : k < s.exprs.length) :
    k < s.texts.length := by
  simpa [texts, exprs] using Nat.lt_succ_of_lt inside

theorem Segments.drop_exprs (s : Segments) (k : Nat) :
    s.exprs.drop k = (s.bound.drop k).map Prod.snd := by
  rw [exprs, List.map_drop]

theorem Segments.drop_texts (s : Segments) {k : Nat} (within : k ≤ s.exprs.length) :
    s.texts.drop k = (s.bound.drop k).map Prod.fst ++ [s.tail] := by
  rw [texts, List.drop_append_of_le_length (by simpa [exprs] using within), List.map_drop]

/-- A point among the segments of a text: before all bindings, on one of them, or behind all. -/
inductive Point (s : Segments) where
  | start
  | binding (k : Nat) (inside : k < s.exprs.length)
  | done

namespace Point

variable {s : Segments}

/-- The binding with the number, or the end when there are not so many. -/
def upTo (s : Segments) (k : Nat) : Point s :=
  if inside : k < s.exprs.length then .binding k inside else .done

def advance : Point s → Point s
  | .start => upTo s 0
  | .binding k _ => upTo s (k + 1)
  | .done => .done

def onBinding : Point s → Bool
  | .binding .. => true
  | _ => false

def expr : Point s → Except Misuse Expr
  | .start => .error .exprBeforeAdvance
  | .binding k _ => .ok s.exprs[k]
  | .done => .error .exprAfterLast

def literal : Point s → Except Misuse String
  | .start => .error .textBeforeAdvance
  | .binding k inside => have := s.lt_length_texts inside; .ok s.texts[k]
  | .done => .ok s.tail

/-- The number of bindings that a collection leaves out. -/
def passed : Point s → Nat
  | .start => 0
  | .binding k _ => k
  | .done => s.exprs.length

theorem passed_le (p : Point s) : p.passed ≤ s.exprs.length := by
  cases p with
  | start => exact Nat.zero_le _
  | binding k inside => exact Nat.le_of_lt inside
  | done => exact Nat.le_refl _

def step (p : Point s) : Request → Answer × Point s
  | .advance => (.onBinding p.advance.onBinding, p.advance)
  | .expr => (.expr p.expr, p)
  | .literal => (.literal p.literal, p)
  | .collect exprs texts =>
      (.collected (exprs ++ s.exprs.drop p.passed) (texts ++ s.texts.drop p.passed), .done)
  | .reset => (.reset, .start)

end Point

/-! ## Steps of a cursor -/

namespace Cursor

variable {c : Cursor}

theorem advance_of_some {hit : Hit} (running : ∀ tail, c.place ≠ .done tail)
    (found : next? c.rest = some hit) :
    c.advance = { c with
      rest := hit.rest
      offset := c.offset + hit.closing
      place := .binding (String.ofList hit.before) (hit.expr c.offset) } := by
  unfold advance
  split
  · next tail atEnd => exact absurd atEnd (running tail)
  · rw [found]

theorem advance_of_none (running : ∀ tail, c.place ≠ .done tail) (missed : next? c.rest = none) :
    c.advance = { c with
      rest := []
      offset := c.offset + Text.byteLength c.rest
      place := .done (String.ofList c.rest) } := by
  unfold advance
  split
  · next tail atEnd => exact absurd atEnd (running tail)
  · rw [missed]

theorem advance_of_done {tail : String} (atEnd : c.place = .done tail) : c.advance = c := by
  simp [advance, atEnd]

theorem remaining_of_binding {before : String} {expr : Expr}
    (hit : c.advance.place = .binding before expr) :
    c.remaining = ((before, expr) :: c.advance.remaining.1, c.advance.remaining.2) := by
  rw [remaining]
  split <;> simp_all

theorem remaining_of_done {tail : String} (atEnd : c.advance.place = .done tail) :
    c.remaining = ([], tail) := by
  rw [remaining]
  split <;> simp_all

/-- What is left for a cursor that is not at the end is what a scan finds from where it stands. -/
theorem remaining_eq (offset : Nat) (cs : List Char) (atOffset : c.offset = offset)
    (atRest : c.rest = cs) (running : ∀ tail, c.place ≠ .done tail) :
    c.remaining = ((boundFrom offset cs).1, String.ofList (boundFrom offset cs).2) := by
  fun_induction boundFrom offset cs generalizing c with
  | case1 offset cs missed =>
    have moved := advance_of_none running (by rw [atRest]; exact missed)
    rw [remaining_of_done (congrArg place moved), atRest]
  | case2 offset cs hit found more tail parts ih =>
    have moved := advance_of_some running (by rw [atRest]; exact found)
    rw [remaining_of_binding (congrArg place moved), ih (by rw [moved, atOffset]) (by rw [moved])
      (by rw [moved]; simp), parts, atOffset]

/-! ## A cursor at a point -/

/-- From where the cursor stands a scan finds all but the first `k` bindings. -/
def Ahead (c : Cursor) (s : Segments) (k : Nat) : Prop :=
  boundFrom c.offset c.rest = (s.bound.drop k, s.tail.toList)

/-- The cursor of the text stands at the point. Nothing is read any more behind the last binding. -/
inductive StandsAt (text : String) : Cursor → Point (scan text) → Prop where
  | start {c : Cursor} (whole : c.text = text) (place : c.place = .start)
      (ahead : c.Ahead (scan text) 0) : StandsAt text c .start
  | binding {c : Cursor} {k : Nat} {before : String} {expr : Expr}
      {inside : k < (scan text).exprs.length} (whole : c.text = text)
      (current : (scan text).bound.drop k = (before, expr) :: (scan text).bound.drop (k + 1))
      (place : c.place = .binding before expr) (ahead : c.Ahead (scan text) (k + 1)) :
      StandsAt text c (.binding k inside)
  | done {c : Cursor} (whole : c.text = text) (place : c.place = .done (scan text).tail) :
      StandsAt text c .done

theorem standsAt_new (text : String) : StandsAt text (new text) .start :=
  .start rfl rfl (by simp [Ahead, new, scan])

variable {text : String} {p : Point (scan text)}

theorem StandsAt.text_eq (stands : StandsAt text c p) : c.text = text := by
  cases stands <;> assumption

/-- A cursor that is not at the end moves to the next binding that a scan finds. -/
theorem standsAt_upTo {k : Nat} (whole : c.text = text) (running : ∀ tail, c.place ≠ .done tail)
    (ahead : c.Ahead (scan text) k) : StandsAt text c.advance (.upTo (scan text) k) := by
  rw [Ahead, boundFrom] at ahead
  split at ahead
  · next missed =>
      obtain ⟨none, tail⟩ := Prod.mk.inj ahead
      have outside : ¬ k < (scan text).exprs.length := by
        simpa [Segments.exprs] using List.drop_eq_nil_iff.1 none.symm
      rw [Point.upTo, dif_neg outside, advance_of_none running missed]
      exact .done whole (by simp [tail])
  · next hit found =>
      obtain ⟨some, tail⟩ := Prod.mk.inj ahead
      have inside : k < (scan text).exprs.length := by
        refine Nat.lt_of_not_le fun outside => ?_
        have none := List.drop_eq_nil_iff.2 outside
        simp [Segments.drop_exprs, ← some] at none
      have behind : (scan text).bound.drop (k + 1) =
          (boundFrom (c.offset + hit.closing) hit.rest).1 := by
        rw [← List.tail_drop, ← some, List.tail_cons]
      rw [Point.upTo, dif_pos inside, advance_of_some running found]
      refine .binding whole ?_ rfl (Prod.ext behind.symm tail)
      rw [behind, some]

theorem StandsAt.advance (stands : StandsAt text c p) : StandsAt text c.advance p.advance := by
  cases stands with
  | start whole place ahead => exact standsAt_upTo whole (by simp [place]) ahead
  | binding whole current place ahead => exact standsAt_upTo whole (by simp [place]) ahead
  | done whole place =>
    rw [advance_of_done place]
    exact .done whole place

theorem StandsAt.onBinding_eq (stands : StandsAt text c p) : c.onBinding = p.onBinding := by
  cases stands <;> simp [Cursor.onBinding, Point.onBinding, *]

theorem StandsAt.expr_eq (stands : StandsAt text c p) : c.expr = p.expr := by
  cases stands with
  | start whole place ahead => simp [Cursor.expr, Point.expr, place]
  | @binding k before expr inside whole current place ahead =>
    have there := List.drop_eq_getElem_cons inside
    rw [Segments.drop_exprs, current, List.map_cons] at there
    rw [Cursor.expr, place, Point.expr, ← (List.cons.inj there).1]
  | done whole place => simp [Cursor.expr, Point.expr, place]

theorem StandsAt.literal_eq (stands : StandsAt text c p) : c.literal = p.literal := by
  cases stands with
  | start whole place ahead => simp [Cursor.literal, Point.literal, place]
  | @binding k before expr inside whole current place ahead =>
    have there := List.drop_eq_getElem_cons ((scan text).lt_length_texts inside)
    rw [Segments.drop_texts _ (Nat.le_of_lt inside), current, List.map_cons, List.cons_append]
      at there
    rw [Cursor.literal, place, Point.literal, ← (List.cons.inj there).1]
  | done whole place => simp [Cursor.literal, Point.literal, place]

theorem remaining_of_ahead {k : Nat} (running : ∀ tail, c.place ≠ .done tail)
    (ahead : c.Ahead (scan text) k) :
    c.remaining = ((scan text).bound.drop k, (scan text).tail) := by
  rw [remaining_eq c.offset c.rest rfl rfl running, ahead, String.ofList_toList]

/-- A collection takes what a scan finds from the point on, and leaves the cursor at the end. -/
theorem StandsAt.collect_eq (stands : StandsAt text c p) :
    c.collect.1 = ⟨(scan text).bound.drop p.passed, (scan text).tail⟩ ∧
      StandsAt text c.collect.2 .done := by
  cases stands with
  | start whole place ahead =>
    have rest := remaining_of_ahead (by simp [place]) ahead
    exact ⟨by simp [collect, place, rest, Point.passed], .done whole (by simp [collect, rest])⟩
  | @binding k before expr inside whole current place ahead =>
    have rest := remaining_of_ahead (by simp [place]) ahead
    exact ⟨by simp [collect, place, rest, Point.passed, current],
      .done whole (by simp [collect, rest])⟩
  | done whole place =>
    have rest : c.remaining = ([], (scan text).tail) :=
      remaining_of_done (by rw [advance_of_done place, place])
    exact ⟨by simp [collect, place, rest, Point.passed, Segments.exprs],
      .done whole (by simp [collect, rest])⟩

theorem StandsAt.reset (stands : StandsAt text c p) : StandsAt text c.reset .start := by
  rw [Cursor.reset, stands.text_eq]
  exact standsAt_new text

theorem StandsAt.step (stands : StandsAt text c p) (request : Request) :
    (c.step request).1 = (p.step request).1 ∧
      StandsAt text (c.step request).2 (p.step request).2 := by
  cases request with
  | advance => exact ⟨congrArg _ stands.advance.onBinding_eq, stands.advance⟩
  | expr => exact ⟨congrArg _ stands.expr_eq, stands⟩
  | literal => exact ⟨congrArg _ stands.literal_eq, stands⟩
  | collect exprs texts =>
    obtain ⟨taken, atEnd⟩ := stands.collect_eq
    refine ⟨?_, atEnd⟩
    simp only [Cursor.step, Point.step, taken, Segments.drop_exprs, Segments.drop_texts _ p.passed_le]
    rfl
  | reset => exact ⟨rfl, stands.reset⟩

theorem StandsAt.answers_eq (stands : StandsAt text c p) (requests : List Request) :
    answers Cursor.step c requests = answers Point.step p requests := by
  induction requests generalizing c p with
  | nil => rfl
  | cons request requests ih =>
    obtain ⟨same, after⟩ := stands.step request
    rw [answers, answers, same, ih after]

/-- Whatever a new cursor is asked, it answers as the reference machine does from the start, which
always collects one more text than expressions. -/
theorem answers_new (text : String) (requests : List Request) :
    answers Cursor.step (new text) requests =
        answers Point.step (.start : Point (scan text)) requests ∧
      ∀ p : Point (scan text), ((scan text).texts.drop p.passed).length =
        ((scan text).exprs.drop p.passed).length + 1 := by
  refine ⟨(standsAt_new text).answers_eq requests, fun p => ?_⟩
  rw [Segments.drop_texts _ p.passed_le, Segments.drop_exprs]
  simp

end Cursor
end ComponentMarkup.Binding
