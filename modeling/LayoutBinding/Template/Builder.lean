import LayoutBinding.Template.Events

/-!
# Trees from events

The elements that are open form a stack.  An end tag closes the innermost open
element of its name together with those inside it, which stay without an end
tag; where no such element is open it is text.  Neighbouring texts are joined.
-/

namespace LayoutBinding

/-- An element whose end has not been reached. -/
structure OpenElement where
  start : StartTag
  place : Place
  /-- The nodes inside, the last one first. -/
  children : List Node

/-- Add a node to nodes of which the last one comes first; text joins text. -/
def Node.addTo (node : Node) (nodes : List Node) : List Node :=
  match node, nodes with
  | .raw text, .raw before :: rest => .raw (before ++ text) :: rest
  | node, nodes => node :: nodes

/-- The element with the nodes that have been read. -/
def OpenElement.build (e : OpenElement) (closed : Bool) : Element :=
  ⟨e.start, e.place, e.children.reverse, closed⟩

/-- A tree that is being built. -/
structure Builder where
  /-- The nodes at the top, the last one first. -/
  top : List Node
  /-- The open elements, the innermost one first. -/
  stack : List OpenElement

namespace Builder

/-- Nothing has been read. -/
def empty : Builder :=
  ⟨[], []⟩

def add (b : Builder) (node : Node) : Builder :=
  match b.stack with
  | [] => { b with top := node.addTo b.top }
  | e :: outer => { b with stack := { e with children := node.addTo e.children } :: outer }

def closeInnermost (b : Builder) (closed : Bool) : Builder :=
  match b.stack with
  | [] => b
  | e :: outer => add { b with stack := outer } (.element (e.build closed))

/-- Close open elements, the innermost ones first, up to one of the name. -/
def closeThrough (name : String) (top : List Node) : List OpenElement → Builder
  | [] => ⟨top, []⟩
  | e :: outer =>
      let found := e.start.name = name
      let node := Node.element (e.build found)
      match outer with
      | [] => ⟨node.addTo top, []⟩
      | parent :: rest =>
          let stack := { parent with children := node.addTo parent.children } :: rest
          if found then ⟨top, stack⟩ else closeThrough name top stack
termination_by stack => stack.length

def isOpen (b : Builder) (name : String) : Bool :=
  b.stack.any fun e => e.start.name = name

def handle (b : Builder) (event : Event) : Builder :=
  match event with
  | .startTag tag place =>
      if tag.selfClosing || isVoidName tag.name then
        b.add (.element ⟨tag, place, [], false⟩)
      else
        { b with stack := ⟨tag, place, []⟩ :: b.stack }
  | .endTag name =>
      if b.isOpen name then
        closeThrough name b.top b.stack
      else
        b.add (.raw ("</" ++ name ++ ">"))
  | other =>
      match other.rawText? with
      | some text => b.add (.raw text)
      | none => b

/-- Close open elements, the innermost ones first, until none is open. -/
def closeAll (top : List Node) : List OpenElement → List Node
  | [] => top
  | [e] => (Node.element (e.build false)).addTo top
  | e :: parent :: outer =>
      closeAll top
        ({ parent with children := (Node.element (e.build false)).addTo parent.children } :: outer)
termination_by stack => stack.length

/-- The nodes of the finished tree. -/
def finish (b : Builder) : List Node :=
  (closeAll b.top b.stack).reverse

end Builder

namespace Template

/-- The tree that events make up. -/
def ofEvents (events : List Event) : List Node :=
  (events.foldl Builder.handle .empty).finish

def parse (source : String) (name : Option String) : Except Fault Template :=
  (Events.ofChars source.toList).map fun events => ⟨ofEvents events, name⟩

end Template

end LayoutBinding
