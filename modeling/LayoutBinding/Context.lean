import LayoutBinding.Config
import LayoutBinding.Value.Basic

/-!
# Contexts

A context binds namespaces to values.  Entering a loop gives a new context with
a frame of its own, which stands before the frame around it.
-/

namespace LayoutBinding

/-- What the expressions of a template are evaluated in. -/
structure Context where
  namespaces : List (String × Value)
  /-- The frame of the innermost loop. -/
  frame : Option LoopFrame
  config : Config

namespace Context

/-- The context that binds the given namespaces outside of any loop. -/
def ofNamespaces (namespaces : List (String × Value)) (config : Config) : Context :=
  ⟨Entries.putAll [] namespaces, none, config⟩

/-- The hints that blocks of a body may carry. -/
def blockHints : List (String × ValueType) :=
  [("collapsible", .truth)]

/-- The context in which a value is rendered as the page.  Links are bound only
if there is an index of them. -/
def ofPage (value : Value) (index : Option LinkIndex) (config : Config)
    (extra : List (String × Value)) : Context :=
  let current :=
    match value with
    | .page p => some p
    | _ => none
  let links :=
    match index with
    | some index => [("link", Value.links index current)]
    | none => []
  ofNamespaces
    ([("page", value), ("block", .blocks blockHints), ("section", .sections)] ++ links ++ extra)
    config

/-- The value of a namespace.  The loop namespace is the frame, whatever else is
bound to its name. -/
def lookup (context : Context) (name : String) : Outcome Value :=
  if name = "loop" then
    match context.frame with
    | some frame => .ok (.loop frame)
    | none => .refuse .outsideLoop
  else
    match Entries.get? context.namespaces name with
    | some value => .ok value
    | none => .refuse (.unbound name)

def enterLoop (context : Context) (item : Value) (index count : Int) : Context :=
  { context with frame := some ⟨item, index, count, context.frame⟩ }

/-- The name that the context itself goes by. -/
def ownName : String :=
  "self"

/-- The context with further namespaces, none of which may have the name that the
context itself goes by. -/
def withNamespaces (context : Context) (extra : List (String × Value)) : Outcome Context :=
  if Entries.contains extra ownName then
    .stop .wrongSort
  else
    .ok { context with namespaces := Entries.putAll context.namespaces extra }

/-- The zone that moments are written in. -/
def zone? (context : Context) : Option Zone :=
  context.config.timezone.map TimeZone.zone

/-- The namespace of sections is bound for a page, unless something else has its name. -/
theorem lookup_section_ofPage (value : Value) (index : Option LinkIndex) (config : Config)
    {extra : List (String × Value)} (free : Entries.contains extra "section" = false) :
    (ofPage value index config extra).lookup "section" = .ok .sections := by
  have given : Entries.get? (ofPage value index config extra).namespaces "section" =
      some .sections := by
    unfold ofPage ofNamespaces
    dsimp only
    rw [Entries.putAll, List.foldl_append, List.foldl_append]
    refine (Entries.get?_putAll_of_contains_eq_false free _).trans ?_
    cases index with
    | none => rfl
    | some index => rfl
  rw [lookup, if_neg (by decide), given]

end Context

end LayoutBinding
