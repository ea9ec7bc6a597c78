import LayoutBinding.Value.Basic

/-!
# Forests of pages

The pages of a site form a forest.  They are visited in document order: each
page before the pages below it, and those before the pages after it.
-/

namespace LayoutBinding

namespace Page

mutual

/-- A page and the pages below it in document order. -/
def visited : Page → List Page
  | ⟨path, title, day, author, tags, layout, params, anchors, source, body, children⟩ =>
      ⟨path, title, day, author, tags, layout, params, anchors, source, body, children⟩ ::
        allVisited children
termination_by structural page => page

def allVisited : List Page → List Page
  | [] => []
  | page :: pages => visited page ++ allVisited pages
termination_by structural pages => pages

end

theorem visited_eq (page : Page) : visited page = page :: allVisited page.children := by
  cases page
  rfl

@[simp]
theorem allVisited_nil : allVisited [] = [] :=
  rfl

@[simp]
theorem allVisited_cons (page : Page) (pages : List Page) :
    allVisited (page :: pages) = page :: (allVisited page.children ++ allVisited pages) := by
  rw [allVisited, visited_eq, List.cons_append]

end Page

end LayoutBinding
