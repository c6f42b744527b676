import ComponentMarkup.Proofs.Binding.Segments

/-!
Compaction of texts. A text has blanks at its edges and a core between them in one way only. Compaction
shrinks the blanks, leaves the core as it is, and has nothing to do on a compacted text. The bindings
of a text are those of its core, so the blanks only decide at which bytes they stand.
-/

namespace ComponentMarkup

namespace Text
variable {cs lead core trail lead' core' trail' rest run : List Char}

/-- The blanks at the edges of a text, and what stands between them. They are all the blanks there are
at the edges. A text of nothing but blanks has them all in front. -/
structure Edged (cs lead core trail : List Char) : Prop where
  whole : lead ++ core ++ trail = cs
  leads : ∀ c ∈ lead, isMarkupBlank c = true
  trails : ∀ c ∈ trail, isMarkupBlank c = true
  first : ∀ c ∈ core.head?, isMarkupBlank c = false
  last : ∀ c ∈ core.getLast?, isMarkupBlank c = false
  bare : core = [] → trail = []

namespace Edged
variable (edged : Edged cs lead core trail)
include edged

/-- What stands behind the blanks in front is no blank. -/
theorem head?_append : ∀ c ∈ (core ++ trail).head?, isMarkupBlank c = false := by
  by_cases empty : core = []
  · rw [empty, edged.bare empty]
    exact nofun
  · rw [List.head?_append_of_ne_nil _ empty]
    exact edged.first

theorem lead_eq : cs.takeWhile isMarkupBlank = lead := by
  rw [← edged.whole, List.append_assoc]
  exact takeWhile_append edged.leads edged.head?_append

theorem rest_eq : cs.dropWhile isMarkupBlank = core ++ trail := by
  rw [← edged.whole, List.append_assoc]
  exact dropWhile_append edged.leads edged.head?_append

theorem trail_eq : ((cs.dropWhile isMarkupBlank).reverse.takeWhile isMarkupBlank).reverse = trail ∧
    ((cs.dropWhile isMarkupBlank).reverse.dropWhile isMarkupBlank).reverse = core := by
  have trails : ∀ c ∈ trail.reverse, isMarkupBlank c = true := fun c member =>
    edged.trails c (List.mem_reverse.1 member)
  have solid : ∀ c ∈ core.reverse.head?, isMarkupBlank c = false := by
    rw [List.head?_reverse]
    exact edged.last
  rw [edged.rest_eq, List.reverse_append, takeWhile_append trails solid,
    dropWhile_append trails solid, List.reverse_reverse, List.reverse_reverse]
  exact ⟨rfl, rfl⟩

/-- There is only one way to tell the edges of a text. -/
theorem unique (edged' : Edged cs lead' core' trail') :
    lead' = lead ∧ core' = core ∧ trail' = trail :=
  ⟨edged'.lead_eq.symm.trans edged.lead_eq, edged'.trail_eq.2.symm.trans edged.trail_eq.2,
    edged'.trail_eq.1.symm.trans edged.trail_eq.1⟩

end Edged

section Cuts
variable {marker before : List Char}

end Cuts

end Text

namespace Binding
variable {cs lead trail : List Char} {hit : Hit} {offset : Nat}

/-! ## Bindings and blanks -/

/-- The expression as it stands in a text that has so many bytes in front. -/
def Expr.behind (bytes : Nat) (e : Expr) : Expr :=
  { e with start := bytes + e.start, stop := bytes + e.stop }

end Binding

namespace Text
variable {s : String} {lead core trail : List Char}

end Text
end ComponentMarkup
