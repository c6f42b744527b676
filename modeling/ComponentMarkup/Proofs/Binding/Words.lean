import ComponentMarkup.Proofs.Binding.Segments

/-!
The words outside the bindings of a text. Put together with blanks they hold no complete binding:
before the last literal there is nothing that opens one, and the last literal has none that closes.
-/

namespace ComponentMarkup

namespace Text
variable {marker before rest word run cs : List Char} {c : Char} {separates : Char → Bool}

theorem infix_iff_standsAt : marker <:+: cs ↔ ∃ place, StandsAt marker cs place := by
  constructor
  · rintro ⟨before, rest, rfl⟩
    exact ⟨_, standsAt_between before marker rest⟩
  · rintro ⟨place, stands⟩
    exact stands.isInfix.trans (List.drop_suffix place cs).isInfix

/-- A character that a marker lacks keeps apart what is around it. -/
theorem infix_apart (lacks : c ∉ marker) :
    marker <:+: before ++ c :: rest ↔ marker <:+: before ∨ marker <:+: rest := by
  constructor
  · rw [List.infix_append_iff, List.infix_cons_iff]
    have here {part : List Char} (leads : part <+: c :: rest) (lacks : c ∉ part) : part = [] := by
      rcases List.prefix_cons_iff.1 leads with rfl | ⟨part, rfl, -⟩
      · rfl
      · exact absurd List.mem_cons_self lacks
    rintro (first | (leads | later) | ⟨front, back, rfl, ends, leads⟩)
    · exact .inl first
    · rw [here leads lacks]
      exact .inl List.nil_infix
    · exact .inr later
    · rw [here leads fun member => lacks (List.mem_append_right _ member), List.append_nil]
      exact .inl ends.isInfix
  · rintro (first | later)
    · exact first.trans (List.prefix_append _ _).isInfix
    · exact later.trans ((List.suffix_cons c rest).trans (List.suffix_append _ _)).isInfix

theorem exists_infix_of_intercalate {words : List (List Char)} (lacks : c ∉ marker)
    (nonempty : marker ≠ []) (inside : marker <:+: [c].intercalate words) :
    ∃ word ∈ words, marker <:+: word := by
  induction words with
  | nil => exact absurd (List.infix_nil.1 inside) nonempty
  | cons word words ih =>
      cases words with
      | nil => exact ⟨word, List.mem_cons_self, by simpa using inside⟩
      | cons next words =>
          rw [List.intercalate_cons_cons, List.append_assoc, List.singleton_append,
            infix_apart lacks] at inside
          rcases inside with first | later
          · exact ⟨word, List.mem_cons_self, first⟩
          · obtain ⟨other, member, inside⟩ := ih later
            exact ⟨other, List.mem_cons_of_mem _ member, inside⟩

/-- Runs are parts of the text. -/
theorem infix_of_mem_runsFrom (member : run ∈ runsFrom separates word cs) : run <:+: word ++ cs := by
  induction cs generalizing word with
  | nil =>
      rw [runsFrom] at member
      split at member
      · cases member
      · obtain rfl := List.mem_singleton.1 member
        exact (List.prefix_append _ _).isInfix
  | cons c rest ih =>
      have later (member : run ∈ runsFrom separates [] rest) : run <:+: word ++ c :: rest := by
        have inside : run <:+: rest := ih member
        exact inside.trans ((List.suffix_cons c rest).trans (List.suffix_append _ _)).isInfix
      rw [runsFrom] at member
      split at member
      · split at member
        · exact later member
        · rcases List.mem_cons.1 member with rfl | member
          · exact (List.prefix_append _ _).isInfix
          · exact later member
      · have inside := ih member
        rwa [List.append_assoc, List.singleton_append] at inside

end Text

namespace Binding
open Text (StandsAt)
variable {cs before rest inner : List Char} {front back : List (List Char)} {c : Char}

/-! ## Unbound texts -/

theorem unbound_iff_cut : Unbound cs ↔
    ∀ before rest, before ++ rest = cs → openMarker <:+: before → ¬ closeMarker <:+: rest := by
  constructor
  · rintro unbound before rest rfl opens closes
    obtain ⟨place, opened⟩ := Text.infix_iff_standsAt.1 opens
    obtain ⟨later, closed⟩ := Text.infix_iff_standsAt.1 closes
    have early : place + openMarker.length ≤ before.length := by
      have fits := opened.length_le
      rw [List.length_drop] at fits
      have : 0 < openMarker.length := by decide
      omega
    exact unbound place opened.append (before.length + later) (by omega)
      (Text.standsAt_append_left.2 closed)
  · intro uncut place opened later behind closed
    refine uncut (cs.take later) (cs.drop later) (List.take_append_drop later cs) ?_
      closed.isInfix
    have whole : StandsAt openMarker (cs.take later ++ cs.drop later) place := by
      rwa [List.take_append_drop]
    refine Text.infix_iff_standsAt.2 ⟨place, whole.of_append ?_⟩
    have fits := closed.length_le
    rw [List.length_drop] at fits
    have : 0 < closeMarker.length := by decide
    rw [List.length_take]
    omega

theorem Unbound.within (unbound : Unbound cs) (inside : inner <:+: cs) : Unbound inner := by
  rw [unbound_iff_cut] at unbound ⊢
  obtain ⟨lead, tail, rfl⟩ := inside
  rintro before rest rfl opens closes
  exact unbound (lead ++ before) (rest ++ tail) (by simp only [List.append_assoc])
    (opens.trans (List.suffix_append _ _).isInfix) (closes.trans (List.prefix_append _ _).isInfix)

theorem unbound_of_unopened (unopened : ¬ openMarker <:+: cs) : Unbound cs := by
  rw [unbound_iff_cut]
  rintro before rest rfl opens -
  exact unopened (opens.trans (List.prefix_append _ _).isInfix)

/-- A character of no marker between texts makes no binding of them. -/
theorem Unbound.apart (lacksOpen : c ∉ openMarker) (lacksClose : c ∉ closeMarker)
    (first : Unbound before) (later : Unbound rest)
    (unlinked : openMarker <:+: before → ¬ closeMarker <:+: rest) : Unbound (before ++ c :: rest) := by
  rw [unbound_iff_cut] at first later ⊢
  intro lead tail whole opens closes
  rcases List.append_eq_append_iff.1 whole with ⟨middle, rfl, rfl⟩ | ⟨middle, rfl, same⟩
  · rw [Text.infix_apart lacksClose] at closes
    rcases closes with closes | closes
    · exact first lead middle rfl opens closes
    · exact unlinked (opens.trans (List.prefix_append _ _).isInfix) closes
  · cases middle with
    | nil =>
        rw [List.nil_append] at same
        rw [List.append_nil] at opens
        rw [← same, ← List.nil_append (c :: rest), Text.infix_apart lacksClose] at closes
        rcases closes with closes | closes
        · exact absurd (List.infix_nil.1 closes) (by decide)
        · exact unlinked opens closes
    | cons c' middle =>
        obtain ⟨rfl, rfl⟩ := List.cons.inj same
        rw [Text.infix_apart lacksOpen] at opens
        rcases opens with opens | opens
        · exact unlinked opens (closes.trans (List.suffix_append _ _).isInfix)
        · exact later middle tail rfl opens closes

/-! ## Unbound words -/

/-- Words that make no binding: none is in one of them, and none that opens one has a later one
that closes it. -/
structure Unlinked (words : List (List Char)) : Prop where
  unbound : ∀ word ∈ words, Unbound word
  apart : words.Pairwise fun word later => openMarker <:+: word → ¬ closeMarker <:+: later

theorem Unlinked.nil : Unlinked [] := ⟨nofun, .nil⟩

theorem Unlinked.cons {word : List Char} {words : List (List Char)} (unbound : Unbound word)
    (unlinked : Unlinked words)
    (apart : ∀ later ∈ words, openMarker <:+: word → ¬ closeMarker <:+: later) :
    Unlinked (word :: words) :=
  ⟨List.forall_mem_cons.2 ⟨unbound, unlinked.unbound⟩,
    List.pairwise_cons.2 ⟨apart, unlinked.apart⟩⟩

/-- Words that open nothing may stand before unlinked ones. -/
theorem Unlinked.append (unopened : ∀ word ∈ front, ¬ openMarker <:+: word)
    (unlinked : Unlinked back) : Unlinked (front ++ back) := by
  induction front with
  | nil => exact unlinked
  | cons word front ih =>
      obtain ⟨first, later⟩ := List.forall_mem_cons.1 unopened
      exact .cons (unbound_of_unopened first) (ih later) fun _ _ opens => absurd opens first

theorem Unlinked.intercalate {words : List (List Char)} (unlinked : Unlinked words) :
    Unbound ([' '].intercalate words) := by
  have lacksOpen : ' ' ∉ openMarker := by decide
  have lacksClose : ' ' ∉ closeMarker := by decide
  induction words with
  | nil => exact unbound_of_unopened (by decide)
  | cons word words ih =>
      obtain ⟨unbound, apart⟩ := unlinked
      obtain ⟨first, later⟩ := List.forall_mem_cons.1 unbound
      obtain ⟨behind, apart⟩ := List.pairwise_cons.1 apart
      have rest := ih ⟨later, apart⟩
      cases words with
      | nil => simpa using first
      | cons next words =>
          rw [List.intercalate_cons_cons, List.append_assoc, List.singleton_append]
          refine first.apart lacksOpen lacksClose rest fun opens closes => ?_
          obtain ⟨other, member, closes⟩ :=
            Text.exists_infix_of_intercalate lacksClose (by decide) closes
          exact behind other member opens closes

/-- An unbound text has unlinked words. -/
theorem unlinked_runsFrom {separates : Char → Bool} {word : List Char}
    (unbound : Unbound (word ++ cs)) : Unlinked (Text.runsFrom separates word cs) := by
  induction cs generalizing word with
  | nil =>
      rw [List.append_nil] at unbound
      rw [Text.runsFrom]
      split
      · exact .nil
      · exact .cons unbound .nil nofun
  | cons c rest ih =>
      have behind : rest <:+ word ++ c :: rest :=
        (List.suffix_cons c rest).trans (List.suffix_append _ _)
      have later : Unlinked (Text.runsFrom separates [] rest) :=
        ih (unbound.within behind.isInfix)
      rw [Text.runsFrom]
      split
      · split
        · exact later
        · refine .cons (unbound.within (List.prefix_append _ _).isInfix) later ?_
          intro other member opens closes
          have inside := closes.trans (Text.infix_of_mem_runsFrom member)
          exact unbound_iff_cut.1 unbound word (c :: rest) rfl opens
            (inside.trans (List.suffix_cons c rest).isInfix)
      · refine ih ?_
        rwa [List.append_assoc, List.singleton_append]

/-! ## Words outside bindings -/

theorem EndsBefore.unopened (ends : EndsBefore openMarker cs) : ¬ openMarker <:+: cs := by
  intro opens
  obtain ⟨place, stands⟩ := Text.infix_iff_standsAt.1 opens
  have fits := stands.length_le
  have late := ends place stands.append
  rw [List.length_drop] at fits
  have : 0 < openMarker.length := by decide
  omega

/-- The words outside the bindings of a text make no binding. -/
theorem unbound_words_scan (text : String) : Unbound ([' '].intercalate
    ((scan text).texts.flatMap fun literal => Text.words literal.toList)) := by
  have cut := (isSegmentation_boundFrom 0 text.toList _ _).2 ⟨rfl, rfl⟩
  have opened := cut.opened
  have ended := cut.ended
  rw [List.dropLast_concat] at opened
  rw [List.getLast?_concat] at ended
  refine Unlinked.intercalate ?_
  rw [Segments.texts, List.flatMap_append, List.flatMap_singleton]
  refine .append (fun word member opens => ?_) (unlinked_runsFrom (ended _ rfl))
  obtain ⟨literal, isLiteral, member⟩ := List.mem_flatMap.1 member
  exact (opened literal isLiteral).unopened (opens.trans (Text.infix_of_mem_runsFrom member))

end Binding
end ComponentMarkup
