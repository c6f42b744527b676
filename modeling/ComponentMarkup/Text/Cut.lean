/-!
Cutting text at a given lead or marker.
-/

namespace ComponentMarkup.Text

/-- What follows `lead`, when the text starts with it. -/
def afterLead? : List Char → List Char → Option (List Char)
  | [], cs => some cs
  | _ :: _, [] => none
  | l :: lead, c :: cs => if l = c then afterLead? lead cs else none

theorem afterLead?_eq_some {lead cs rest : List Char} :
    afterLead? lead cs = some rest ↔ lead ++ rest = cs := by
  induction lead generalizing cs with
  | nil => simp [afterLead?, eq_comm]
  | cons l lead ih =>
      cases cs with
      | nil => simp [afterLead?]
      | cons c cs => by_cases same : l = c <;> simp [afterLead?, same, ih]

def after? (lead s : String) : Option String :=
  (afterLead? lead.toList s.toList).map String.ofList

def startsWith (s lead : String) : Bool := (after? lead s).isSome

/-- The text before and after the first occurrence of `marker`. -/
def cutAt (marker : List Char) : List Char → Option (List Char × List Char)
  | [] => (afterLead? marker []).map fun rest => ([], rest)
  | c :: cs =>
      match afterLead? marker (c :: cs) with
      | some rest => some ([], rest)
      | none => (cutAt marker cs).map fun (before, rest) => (c :: before, rest)

/-- A cut loses nothing: the text is what stands before the marker, the marker and the rest. -/
theorem append_of_cutAt {marker cs before rest : List Char}
    (cut : cutAt marker cs = some (before, rest)) : before ++ marker ++ rest = cs := by
  induction cs generalizing before with
  | nil =>
      obtain ⟨tail, found, same⟩ := Option.map_eq_some_iff.1 cut
      obtain ⟨rfl, rfl⟩ : [] = before ∧ tail = rest := by simpa using same
      simpa using afterLead?_eq_some.1 found
  | cons c cs ih =>
      simp only [cutAt] at cut
      split at cut
      · next tail found =>
          obtain ⟨rfl, rfl⟩ : [] = before ∧ tail = rest := by simpa using cut
          simpa using afterLead?_eq_some.1 found
      · obtain ⟨⟨head, tail⟩, found, same⟩ := Option.map_eq_some_iff.1 cut
        obtain ⟨rfl, rfl⟩ : c :: head = before ∧ tail = rest := by simpa using same
        simp [← ih found]

theorem length_lt_of_cutAt {marker cs before rest : List Char} (nonempty : marker ≠ [])
    (cut : cutAt marker cs = some (before, rest)) : rest.length < cs.length := by
  have positive := List.length_pos_iff.2 nonempty
  rw [← append_of_cutAt cut]
  simp only [List.length_append]
  omega

/-- The bytes a text takes in UTF-8. -/
def byteLength (cs : List Char) : Nat := cs.foldr (fun c length => c.utf8Size + length) 0

end ComponentMarkup.Text
