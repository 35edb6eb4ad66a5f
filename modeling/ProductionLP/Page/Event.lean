import ProductionLP.Frame.Basic
import ProductionLP.Page.Sheet

/- What the page shows.

   A visit to the page is told as the list of what it puts on the screen, in order. -/
namespace ProductionLP.Page

/-- The style of a text on the page. -/
inductive Style where
  | title
  | header
  | subheader
  | success
  | warning
  | error
  | info
  | markdown
  | caption
  deriving Repr, DecidableEq

/-- Something that the page shows. -/
inductive Event where
  | say (style : Style) (text : String)
  | numberInput (label : String) (least greatest value : Int)
  | selectBox (label : String) (options : List String) (index : Nat)
  | editor (key : String) (sheet : Sheet)
  | metric (label : String) (value : Cell)
  | table (frame : Frame)
  /-- A line chart of a frame; the axes are named for what they show. -/
  | chart (frame : Frame) (x y : String)
  | expander (label : String) (expanded : Bool)
  /-- The visit starts anew. -/
  | rerun

/-- Events in order, and why there are no more if something failed. -/
abbrev Shown := List Event × Option Error

/-- Events that cannot fail. -/
def shown (events : List Event) : Shown := (events, none)

/-- What is shown when a step that may fail yields events. -/
def attempt (r : Except Error (List Event)) : Shown :=
  match r with
  | .ok events => (events, none)
  | .error e => ([], some e)

/-- One part of the page after the other, up to the first that fails. -/
def inOrder : List Shown → Shown
  | [] => ([], none)
  | (events, some e) :: _ => (events, some e)
  | (events, none) :: rest =>
    let r := inOrder rest
    (events ++ r.1, r.2)

end ProductionLP.Page
