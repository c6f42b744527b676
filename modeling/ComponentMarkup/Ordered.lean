/-!
Maps and sets that remember the order in which their members first arrived. Writing a key again
keeps its place and its first spelling.
-/

namespace ComponentMarkup

/-- Adds `x` at the end unless an equal member is there. -/
def addNew {α : Type} [BEq α] (xs : List α) (x : α) : List α :=
  if xs.contains x then xs else xs ++ [x]

structure OrderedMap (κ υ : Type) where
  entries : List (κ × υ) := []

namespace OrderedMap
variable {κ υ : Type} [BEq κ]

def empty : OrderedMap κ υ := {}

def isEmpty (m : OrderedMap κ υ) : Bool := m.entries.isEmpty

def keys (m : OrderedMap κ υ) : List κ := m.entries.map Prod.fst

def find? (m : OrderedMap κ υ) (key : κ) : Option υ :=
  (m.entries.find? fun entry => entry.1 == key).map Prod.snd

def contains (m : OrderedMap κ υ) (key : κ) : Bool := (m.find? key).isSome

/-- Replaces the value of the first equal key, or adds the pair at the end. -/
def write (key : κ) (value : υ) : List (κ × υ) → List (κ × υ)
  | [] => [(key, value)]
  | (k, v) :: rest => if k == key then (k, value) :: rest else (k, v) :: write key value rest

def insert (m : OrderedMap κ υ) (key : κ) (value : υ) : OrderedMap κ υ :=
  ⟨write key value m.entries⟩

def erase (m : OrderedMap κ υ) (key : κ) : OrderedMap κ υ :=
  ⟨m.entries.filter fun entry => !(entry.1 == key)⟩

/-- Applies `f` to the value of `key`, if there is one. -/
def modify (m : OrderedMap κ υ) (key : κ) (f : υ → υ) : OrderedMap κ υ :=
  ⟨m.entries.map fun entry => if entry.1 == key then (entry.1, f entry.2) else entry⟩

theorem find?_write_self [ReflBEq κ] (key : κ) (value : υ) (entries : List (κ × υ)) :
    (mk (write key value entries)).find? key = some value := by
  induction entries with
  | nil => simp [write, find?]
  | cons entry rest ih =>
      by_cases same : entry.1 == key
      · simp [write, find?, same]
      · simpa [write, find?, same] using ih

@[simp] theorem find?_insert_self [ReflBEq κ] (m : OrderedMap κ υ) (key : κ) (value : υ) :
    (m.insert key value).find? key = some value :=
  find?_write_self key value m.entries

theorem find?_insert_of_ne [LawfulBEq κ] (m : OrderedMap κ υ) {key other : κ} (value : υ)
    (different : key ≠ other) : (m.insert key value).find? other = m.find? other := by
  obtain ⟨entries⟩ := m
  simp only [find?, insert]
  induction entries with
  | nil => simp [write, different]
  | cons entry rest ih =>
      by_cases same : entry.1 == key
      · have : (entry.1 == other) = false := by
          rw [eq_of_beq same]; simpa using different
        simp [write, same, this]
      · by_cases hit : entry.1 == other <;> simp_all [write]

/-- An insertion adds the key at the end when it is new and moves no other key. -/
theorem keys_insert [LawfulBEq κ] (m : OrderedMap κ υ) (key : κ) (value : υ) :
    (m.insert key value).keys = addNew m.keys key := by
  obtain ⟨entries⟩ := m
  simp only [keys, insert, addNew]
  induction entries with
  | nil => simp [write]
  | cons entry rest ih =>
      by_cases same : entry.1 = key
      · simp [write, same]
      · have : ¬ key = entry.1 := fun h => same h.symm
        simp only [write, beq_iff_eq, same, if_false, List.map_cons, ih, List.contains_cons,
          beq_eq_false_iff_ne.2 this, Bool.false_or]
        by_cases listed : (rest.map Prod.fst).contains key = true <;> simp only [listed] <;> rfl

end OrderedMap
end ComponentMarkup
