import LayoutBinding.Proofs.Template.PieceForms
import LayoutBinding.Template.Builder

/-!
# Pieces of a template

The two runs cut the source of a template into pieces, one after the other and without a
gap.  The pieces give the events of the template in order.
-/

namespace LayoutBinding

namespace Piece

/-- The text that pieces were read from. -/
def source (pieces : List Piece) : List Char :=
  pieces.flatMap written

/-- The events of pieces. -/
def events (pieces : List Piece) : List Event :=
  pieces.filterMap event

/-- Every piece has one of the forms, with the pieces and the text after it. -/
def AreFormed (after : List Char) : List Piece → Prop
  | [] => True
  | p :: pieces => p.Form (source pieces ++ after) ∧ AreFormed after pieces

@[simp]
theorem source_cons (p : Piece) (pieces : List Piece) :
    source (p :: pieces) = p.written ++ source pieces :=
  rfl

@[simp]
theorem source_append (first second : List Piece) :
    source (first ++ second) = source first ++ source second :=
  List.flatMap_append

@[simp]
theorem events_append (first second : List Piece) :
    events (first ++ second) = events first ++ events second :=
  List.filterMap_append

theorem areFormed_append {after : List Char} {first second : List Piece}
    (formed : AreFormed (source second ++ after) first) (others : AreFormed after second) :
    AreFormed after (first ++ second) := by
  induction first with
  | nil => exact others
  | cons p first ih =>
      refine ⟨?_, ih formed.2⟩
      change p.Form (source (first ++ second) ++ after)
      rw [source_append, List.append_assoc]
      exact formed.1

end Piece

namespace Events

open Piece

/-- The pieces that a run reads. -/
def pieces (final : Bool) (raw : Option String) (place : Place) (cs : List Char) :
    List Piece :=
  match cs with
  | [] => []
  | c :: tail =>
      match move final raw place (c :: tail) with
      | .fail _ => []
      | .halt event length => if length = 0 then [] else [⟨event, (c :: tail).take length⟩]
      | .advance event length =>
          ⟨event, (c :: tail).take length⟩ ::
            pieces final (rawAfter raw event) (place.advance ((c :: tail).take length))
              (tail.drop (length - 1))
termination_by cs.length
decreasing_by
  simp only [List.length_drop, List.length_cons]
  omega

/-- The piece that is left when both runs have stopped. -/
def lastPiece (second : Run) : List Piece :=
  if second.rest = [] then []
  else [⟨if second.raw.isSome then none else text second.rest, second.rest⟩]

def piecesOf (cs : List Char) : List Piece :=
  match run false none .start cs with
  | .error _ => []
  | .ok first =>
      match run true first.raw first.place first.rest with
      | .error _ => []
      | .ok second =>
          pieces false none .start cs ++
            (pieces true first.raw first.place first.rest ++ lastPiece second)

/-- The pieces of a run give its events, they are what it has read, and each has one of
the forms. -/
theorem pieces_of_run {final : Bool} {raw : Option String} {place : Place} {cs : List Char}
    {result : Run} (ran : run final raw place cs = .ok result) :
    events (pieces final raw place cs) = result.events ∧
      source (pieces final raw place cs) ++ result.rest = cs ∧
      AreFormed result.rest (pieces final raw place cs) := by
  fun_induction pieces final raw place cs generalizing result with
  | case1 raw place =>
      rw [run] at ran
      cases ran
      exact ⟨rfl, rfl, trivial⟩
  | case2 raw place c tail fault moved =>
      rw [run, moved] at ran
      cases ran
  | case3 raw place c tail event moved =>
      have sound := isSound_move final raw place (List.cons_ne_nil c tail)
      rw [moved] at sound
      rw [run, moved] at ran
      cases ran
      rcases sound with nothing | taken
      · rw [nothing.2]
        exact ⟨rfl, rfl, trivial⟩
      · exact absurd taken.1 (by decide)
  | case4 raw place c tail event length moved something =>
      have sound := isSound_move final raw place (List.cons_ne_nil c tail)
      rw [moved] at sound
      rw [run, moved] at ran
      cases ran
      rcases sound with nothing | taken
      · exact absurd nothing.1 something
      · refine ⟨?_, ?_, taken.2, trivial⟩
        · cases event <;> rfl
        · simp [source]
  | case5 raw place c tail event length moved ih =>
      have sound := isSound_move final raw place (List.cons_ne_nil c tail)
      rw [moved] at sound
      have behind : tail.drop (length - 1) = (c :: tail).drop length := Takes.drop_tail sound
      rw [run, moved] at ran
      dsimp only at ran
      split at ran
      · cases ran
      next later ranLater =>
        cases ran
        obtain ⟨sameEvents, whole, formed⟩ := ih ranLater
        have whole := whole.trans behind
        refine ⟨?_, ?_, ?_, formed⟩
        · cases event with
          | none => exact sameEvents
          | some event => exact congrArg (event :: ·) sameEvents
        · rw [source_cons, List.append_assoc]
          exact (congrArg (_ ++ ·) whole).trans (List.take_append_drop length (c :: tail))
        · dsimp only
          rw [whole]
          exact sound.2

/-- The pieces of a template give its events, they are its source from the first to the
last character, and each has one of the forms. -/
theorem pieces_of_ofChars {cs : List Char} {read : List Event} (parsed : ofChars cs = .ok read) :
    events (piecesOf cs) = read ∧ source (piecesOf cs) = cs ∧ AreFormed [] (piecesOf cs) := by
  obtain ⟨first, ranFirst, parsed⟩ := bind_eq_ok_iff.mp parsed
  obtain ⟨second, ranSecond, parsed⟩ := bind_eq_ok_iff.mp parsed
  obtain ⟨firstEvents, firstWhole, firstFormed⟩ := pieces_of_run ranFirst
  obtain ⟨secondEvents, secondWhole, secondFormed⟩ := pieces_of_run ranSecond
  have lastSource : source (lastPiece second) = second.rest := by
    unfold lastPiece
    split
    next nothing => rw [nothing]; rfl
    next => simp [source]
  have lastEvents : events (lastPiece second) =
      if second.rest = [] ∨ second.raw.isSome then [] else (text second.rest).toList := by
    unfold lastPiece
    split
    next nothing => simp [nothing, events]
    next given => cases second.raw <;> simp [given, events, text]
  have lastFormed : AreFormed [] (lastPiece second) := by
    unfold lastPiece
    split
    · trivial
    next given =>
      refine ⟨?_, trivial⟩
      split
      · exact .lost given
      · exact .data given
  have behind : source (pieces true first.raw first.place first.rest ++ lastPiece second) =
      first.rest := by
    rw [source_append, lastSource, secondWhole]
  have cut : piecesOf cs = pieces false none .start cs ++
      (pieces true first.raw first.place first.rest ++ lastPiece second) := by
    rw [piecesOf, ranFirst]
    dsimp only
    rw [ranSecond]
  rw [cut]
  refine ⟨?_, ?_, ?_⟩
  · cases parsed
    rw [events_append, events_append, firstEvents, secondEvents, lastEvents, List.append_assoc]
  · rw [source_append, behind, firstWhole]
  · refine areFormed_append ?_ (areFormed_append ?_ lastFormed)
    · rwa [behind, List.append_nil]
    · rwa [lastSource, List.append_nil]

end Events

end LayoutBinding
