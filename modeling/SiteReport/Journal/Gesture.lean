import SiteReport.Autosave
import SiteReport.Gesture
import SiteReport.Journal.Edit

/-!
Pointers, drags and the saving timer as JSON, for those who record an editing session or play one
back. Times are milliseconds under `t`.
-/

namespace SiteReport

def Pointer.ofJson? (v : Json) : Option Pointer := do
  match ← v.toText? with
  | "mouse" => some .mouse
  | "touch" => some .touch
  | _ => none

/-- Two coordinates. -/
def Point.ofJson? : Json → Option Point
  | .array [.number x, .number y] => do
    some ⟨← (Json.number x).toInt32?, ← (Json.number y).toInt32?⟩
  | _ => none

namespace DragSource

def toJson : DragSource → Json
  | .wholeSection id => .record [("section", id.toJson)]
  | .photo list index => .record [("list", list.toJson), ("index", .ofNat index)]

def ofJson? (v : Json) : Option DragSource :=
  match v.fieldAs? "list" PhotoList.ofJson? with
  | some list => (v.natAt? "index").map (.photo list)
  | none => (v.fieldAs? "section" SectionId.ofJson?).map .wholeSection

end DragSource

namespace DropTarget

def toJson : DropTarget → Json
  | .wholeSection id => .record [("section", id.toJson)]
  | .photo place index => .record [("list", place.toJson), ("index", .ofNat index)]
  | .list place => .record [("list", place.toJson)]

def ofJson? (v : Json) : Option DropTarget :=
  match v.fieldAs? "list" PhotoList.ofJson?, v.natAt? "index" with
  | some place, some index => some (.photo place index)
  | some place, none => some (.list place)
  | none, _ => (v.fieldAs? "section" SectionId.ofJson?).map .wholeSection

end DropTarget

def Reorder.toJson : Reorder → Json
  | .moveSection id stop => .record
      [("command", .ofText "move_section"), ("id", id.toJson), ("to_index", .ofNat stop)]
  | .moveWithin list start stop => .record
      [("command", .ofText "move_image_within"), ("list", list.toJson), ("from", .ofNat start),
        ("to", .ofNat stop)]
  | .moveAcross source index target => .record
      [("command", .ofText "move_image_across"), ("from", source.toJson), ("index", .ofNat index),
        ("to", target.toJson)]

/-- What a pointer does is named under `do`. -/
def PointerEvent.ofJson? (v : Json) : Option PointerEvent := do
  match ← v.textAt? "do" with
  | "down" =>
    some (.down (← v.fieldAs? "source" DragSource.ofJson?) (← v.fieldAs? "input" Pointer.ofJson?)
      (← v.fieldAs? "at" Point.ofJson?) (← v.intAt? "t"))
  | "move" =>
    some (.move (← v.fieldAs? "at" Point.ofJson?) (v.fieldAs? "hit" DropTarget.ofJson?)
      (← v.intAt? "t"))
  | "tick" => (v.intAt? "t").map .tick
  | "cancel" => some .cancel
  | "up" => (v.intAt? "t").map .up
  | _ => none

def Gesture.toFields (g : Gesture) : List (String × Json) :=
  [("dragging", .bool g.isDragging), ("pending", .bool g.isPending),
    ("source", .ofOption DragSource.toJson g.source?),
    ("target", .ofOption DropTarget.toJson g.target?)]

def TimerEvent.ofJson? (v : Json) : Option TimerEvent := do
  match ← v.textAt? "do" with
  | "mark_dirty" => (v.intAt? "t").map .markDirty
  | "take_due" => (v.intAt? "t").map .takeDue
  | "cancel" => some .cancel
  | _ => none

end SiteReport
