import LayoutBinding.Forest
import LayoutBinding.Page.Forest

/-!
# Walking a forest of pages

A forest of pages is walked with a stack of the pages that are still to come, and the walk stops
at the first visit that fails.  It visits the pages in document order.
-/

namespace LayoutBinding

instance : Branching Page where
  below := Page.children
  sizeOf_below_lt page := by
    cases page
    simp only [Page.mk.sizeOf_spec]
    omega

namespace Page

abbrev at? (pages : List Page) (position : List Nat) : Option Page :=
  Forest.at? pages position

abbrev IsDocumentOrder (pages : List Page) (visits : List (List Nat × Page)) : Prop :=
  Forest.IsDocumentOrder pages visits

/-- Take pages from a stack, whose first page is the topmost one.  Each page is visited, and the
pages below it are put on the stack. -/
abbrev walk {σ : Type} (visit : σ → Page → Outcome σ) (state : σ) (stack : List Page) : Outcome σ :=
  Forest.walk visit state stack

theorem allVisited_eq_inOrder (pages : List Page) : allVisited pages = Forest.inOrder pages := by
  induction pages using Forest.induction_on_below with
  | nil => simp
  | cons page pages inside after =>
      rw [allVisited_cons, Forest.inOrder_cons, after]
      exact congrArg (fun visited => page :: (visited ++ _)) inside

theorem walk_eq_foldlM {σ : Type} (visit : σ → Page → Outcome σ) (state : σ)
    (stack : List Page) : walk visit state stack = (allVisited stack).foldlM visit state := by
  rw [allVisited_eq_inOrder, walk, Forest.walk_eq_foldlM]

theorem exists_isDocumentOrder (pages : List Page) :
    ∃ visits, IsDocumentOrder pages visits ∧ visits.map Prod.snd = allVisited pages := by
  rw [allVisited_eq_inOrder]
  exact Forest.exists_isDocumentOrder pages

end Page

end LayoutBinding
