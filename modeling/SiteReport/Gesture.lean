import SiteReport.Document.Body

/-!
Dragging sections and photos. A press is pending until it has been held long enough or, for a
mouse, has travelled beyond a threshold; then the drag is armed and follows what lies under the
pointer. A touch that travels before it is held long enough is a scroll and ends the gesture. A
drag that ends over a fitting target gives a command; the gesture itself never touches the body.
-/

namespace SiteReport

inductive Pointer where
  | mouse
  | touch
  deriving DecidableEq

structure Point where
  x : Int32
  y : Int32
  deriving DecidableEq

namespace Point

/-- Farther from `origin` than the threshold, along one of the axes, as 32 bits tell it: what does not
fit them wraps around. -/
def exceeds (p origin : Point) (threshold : Int32) : Bool :=
  threshold < (p.x - origin.x).abs || threshold < (p.y - origin.y).abs

/-- The distance of two coordinates fits 32 bits. -/
def fits (a b : Int32) : Bool := (a.toInt - b.toInt).natAbs < 2147483648

/-- A distance that is computed for `exceeds` does not fit. The second axis counts only if the first
one does not decide. -/
def overflows (p origin : Point) (threshold : Int32) : Bool :=
  !fits p.x origin.x || (!(threshold < (p.x - origin.x).abs : Bool) && !fits p.y origin.y)

end Point

/-- What is picked up. -/
inductive DragSource where
  | wholeSection (id : SectionId)
  | photo (list : PhotoList) (index : Nat)
  deriving DecidableEq

/-- What lies under the pointer; the last is the empty space of a list. -/
inductive DropTarget where
  | wholeSection (id : SectionId)
  | photo (list : PhotoList) (index : Nat)
  | list (list : PhotoList)
  deriving DecidableEq

/-- The edit that a finished drag asks for. -/
inductive Reorder where
  | moveSection (id : SectionId) (stop : Nat)
  | moveWithin (list : PhotoList) (start stop : Nat)
  | moveAcross (source : PhotoList) (index : Nat) (target : PhotoList)
  deriving DecidableEq

namespace Reorder

def edit : Reorder → Edit
  | .moveSection id stop => .move id stop
  | .moveWithin list start stop => .moveWithin list start stop
  | .moveAcross source index target => .moveAcross source index target

def apply (r : Reorder) (b : Body) : Except EditError (Body × Change) :=
  match r with
  | .moveSection id stop => b.move id stop
  | .moveWithin list start stop => b.moveWithin list start stop
  | .moveAcross source index target => b.moveAcross source index target

/-- The command for a drag from a source to a target. A drop onto itself asks for nothing, and
sections and photos do not mix. -/
def ofDrop? (b : Body) : DragSource → DropTarget → Option Reorder
  | .wholeSection id, .wholeSection target =>
    match b.indexOf? id, b.indexOf? target with
    | some start, some stop => if start = stop then none else some (.moveSection id stop)
    | _, _ => none
  | .photo list index, .photo target stop =>
    if list = target then
      if index = stop then none else some (.moveWithin list index stop)
    else some (.moveAcross list index target)
  | .photo list index, .list target =>
    if list = target then
      match b.photos list with
      | .ok photos =>
        if photos.isEmpty || index == photos.length - 1 then none
        else some (.moveWithin list index (photos.length - 1))
      | .error _ => none
    else some (.moveAcross list index target)
  | _, _ => none

end Reorder

inductive GesturePhase where
  | idle
  | pending (source : DragSource) (pointer : Pointer) (origin : Point) (since : Int)
  | armed (source : DragSource) (target : Option DropTarget)
  deriving DecidableEq

/-- A gesture with its settings: milliseconds to hold, and pixels to travel. -/
structure Gesture where
  holdDelay : Nat
  threshold : Int32
  phase : GesturePhase := .idle
  deriving DecidableEq

namespace Gesture

def isDragging (g : Gesture) : Bool :=
  match g.phase with
  | .armed _ _ => true
  | _ => false

def isPending (g : Gesture) : Bool :=
  match g.phase with
  | .pending _ _ _ _ => true
  | _ => false

def source? (g : Gesture) : Option DragSource :=
  match g.phase with
  | .idle => none
  | .pending source _ _ _ => some source
  | .armed source _ => some source

/-- What the drag is over, while it is armed. -/
def target? (g : Gesture) : Option DropTarget :=
  match g.phase with
  | .armed _ target => target
  | _ => none

/-- Time that runs backwards counts as no time. -/
def isHeld (g : Gesture) (since now : Int) : Bool := g.holdDelay ≤ (now - since).toNat

def down (g : Gesture) (source : DragSource) (pointer : Pointer) (origin : Point) (now : Int) :
    Gesture :=
  { g with phase := .pending source pointer origin now }

/-- The pointer moved and is over `hit`. -/
def move (g : Gesture) (point : Point) (hit : Option DropTarget) (now : Int) : Gesture :=
  match g.phase with
  | .idle => g
  | .armed source _ => { g with phase := .armed source hit }
  | .pending source pointer origin since =>
    if g.isHeld since now then { g with phase := .armed source hit }
    else if point.exceeds origin g.threshold then
      match pointer with
      | .mouse => { g with phase := .armed source hit }
      | .touch => { g with phase := .idle }
    else g

/-- A distance that the move computes does not fit 32 bits. -/
def overflows (g : Gesture) (point : Point) : Bool :=
  match g.phase with
  | .pending _ _ origin _ => point.overflows origin g.threshold
  | _ => false

/-- Time passes; a pending gesture that has been held long enough is armed. -/
def tick (g : Gesture) (now : Int) : Gesture :=
  match g.phase with
  | .pending source _ _ since =>
    if g.isHeld since now then { g with phase := .armed source none } else g
  | _ => g

def cancel (g : Gesture) : Gesture := { g with phase := .idle }

/-- The pointer is released, which ends the gesture. -/
def up (g : Gesture) (now : Int) (b : Body) : Option Reorder × Gesture :=
  let command :=
    match (g.tick now).phase with
    | .armed source (some target) => Reorder.ofDrop? b source target
    | _ => none
  (command, g.cancel)

end Gesture

/-- What a pointer can do. -/
inductive PointerEvent where
  | down (source : DragSource) (pointer : Pointer) (origin : Point) (now : Int)
  | move (point : Point) (hit : Option DropTarget) (now : Int)
  | tick (now : Int)
  | cancel
  | up (now : Int)

/-- The gesture after an event, and the command if the event gives one. -/
def Gesture.step (g : Gesture) (b : Body) : PointerEvent → Option Reorder × Gesture
  | .down source pointer origin now => (none, g.down source pointer origin now)
  | .move point hit now => (none, g.move point hit now)
  | .tick now => (none, g.tick now)
  | .cancel => (none, g.cancel)
  | .up now => g.up now b

end SiteReport
