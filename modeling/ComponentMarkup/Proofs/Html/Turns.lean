import ComponentMarkup.Proofs.Html.Growth
import ComponentMarkup.Proofs.Html.Suffix

/-!
The tokens that the tree of a source is built from, which of them opens an element, and where it
stands in the source.
-/

namespace ComponentMarkup.Html
open Document

/-- A token that is read, with the tree before it and the text that was left. -/
structure Turn where
  builder : Builder
  text : List Char
  token : Token

namespace Turn

/-- The tree behind the token. -/
def after (t : Turn) : Builder := t.builder.feed t.token

/-- The text from the markup on. -/
def markup (t : Turn) : List Char := (readRun t.builder.textMode t.text).2

/-- Whether a start tag opens elements of this name. Foreign names have capitals, and an `image` is
read as an `img`. -/
def fits (tag : Tag) (name : String) : Bool :=
  Text.lowered name == tag.name || (tag.name == "image" && name == "img")

/-- The element that a start tag opens. What the tag implies or reopens is added in front of it, so
it is the last node that is added. -/
def opened? (t : Turn) : Option NodeId :=
  match t.token with
  | .start tag =>
      let last := t.after.document.size - 1
      if t.builder.document.size ≤ last ∧ (t.after.document.tag? last).any (fits tag) then some last
      else none
  | _ => none

variable {t : Turn} {id : NodeId}

end Turn

namespace Builder

/-- The tree that a turn at the front of a text begins with. -/
def atFront (b : Builder) (cs : List Char) : Builder :=
  { b with skipsBreak := b.skipsBreak && !isFaulty b.textMode cs }

/-- The next token of a text, and what follows it. -/
def nextOf (b : Builder) (cs : List Char) : Token × List Char :=
  nextToken b.textMode (b.current?.any (·.space ≠ .html)) cs

/-- The turns in which a text is read. -/
def turns : Nat → Builder → List Char → List Turn
  | 0, _, _ => []
  | fuel + 1, b, cs =>
      match b.nextOf cs with
      | (.done, _) => [⟨b.atFront cs, cs, .done⟩]
      | (token, rest) =>
          ⟨b.atFront cs, cs, token⟩ :: turns fuel ((b.atFront cs).feed token) rest

variable {b : Builder} {cs rest : List Char} {t : Turn} {fuel : Nat} {token : Token}

theorem readAll_succ (fuel : Nat) (b : Builder) (cs : List Char) : readAll (fuel + 1) b cs =
    match b.nextOf cs with
    | (.done, _) => (b.atFront cs).feed .done
    | (token, rest) => readAll fuel ((b.atFront cs).feed token) rest := rfl

theorem turns_next (more : token ≠ .done) (read : b.nextOf cs = (token, rest)) :
    turns (fuel + 1) b cs =
        ⟨b.atFront cs, cs, token⟩ :: turns fuel ((b.atFront cs).feed token) rest ∧
      readAll (fuel + 1) b cs = readAll fuel ((b.atFront cs).feed token) rest := by
  rw [turns, readAll_succ, read]
  cases token <;> first | exact absurd rfl more | exact ⟨rfl, rfl⟩

theorem turns_last (read : b.nextOf cs = (.done, rest)) :
    turns (fuel + 1) b cs = [⟨b.atFront cs, cs, .done⟩] ∧
      readAll (fuel + 1) b cs = (b.atFront cs).feed .done := by
  rw [turns, readAll_succ, read]
  exact ⟨rfl, rfl⟩

/-- What holds of the turns from one tree to another: each goes on from where the one before it
ends, and none undoes what an earlier one has added. -/
structure Run (b final : Builder) (ts : List Turn) : Prop where
  ends : final = (ts.getLast?.map Turn.after).getD b
  grows : b.document.Grows final.document
  later : ∀ t ∈ ts, b.document.Grows t.builder.document
  kept : ∀ t ∈ ts, t.after.document.Grows final.document
  apart : ts.Pairwise fun t t' => t.after.document.Grows t'.builder.document

theorem Run.nil (b : Builder) : Run b b [] where
  ends := rfl
  grows := .refl _
  later _ member := absurd member List.not_mem_nil
  kept _ member := absurd member List.not_mem_nil
  apart := .nil

theorem Run.cons {final : Builder} {ts : List Turn} (begins : t.builder.document = b.document)
    (run : Run t.after final ts) : Run b final (t :: ts) where
  ends := by
    rw [run.ends, List.getLast?_cons]
    cases ts.getLast? <;> rfl
  grows := begins ▸ (grows_feed t.builder t.token).trans run.grows
  later := by
    intro t' member
    rw [← begins]
    rcases List.mem_cons.1 member with rfl | inside
    · exact .refl _
    · exact (grows_feed t.builder t.token).trans (run.later t' inside)
  kept := by
    intro t' member
    rcases List.mem_cons.1 member with rfl | inside
    · exact run.grows
    · exact run.kept t' inside
  apart := List.pairwise_cons.2 ⟨run.later, run.apart⟩

theorem run_turns (fuel : Nat) (b : Builder) (cs : List Char) :
    Run b (readAll fuel b cs) (turns fuel b cs) := by
  induction fuel generalizing b cs with
  | zero => exact .nil b
  | succ fuel ih =>
      cases read : b.nextOf cs with
      | mk token rest =>
          by_cases last : token = .done
          · subst last
            rw [(turns_last read).1, (turns_last read).2]
            exact .cons rfl (.nil _)
          · rw [(turns_next last read).1, (turns_next last read).2]
            exact .cons rfl (ih _ rest)

end Builder

/-! ## Line breaks -/

section Breaks
variable {cs rest : List Char}

end Breaks

/-! ## Start tags in a source -/

/-- The text that the tree of a source is read from. -/
def textOf (source : String) : List Char :=
  let cs := normalizeBreaks source.toList
  match cs with
  | '\ufeff' :: rest => rest
  | _ => cs

/-- The turns in which a source is read. -/
def turnsOf (source : String) : List Turn :=
  Builder.turns ((textOf source).length + 1) {} (textOf source)

/-- The number of the character that the start tag of an element begins with. -/
def startTag? (source : String) (id : NodeId) : Option Nat :=
  ((turnsOf source).find? (·.opened? == some id)).bind fun t =>
    (List.range source.toList.length).find? fun k =>
      normalizeBreaks (source.toList.drop k) == t.markup

section Source
variable {source : String} {t t' : Turn} {id k : Nat}

end Source

end ComponentMarkup.Html
