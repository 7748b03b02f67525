import FleetArena.Battle.State

/-! Drawing: a frame tells the drawer which objects are new, which have moved and which are gone. -/
namespace FleetArena.Battle
variable {α π δ : Type}

/-- All objects: control points, asteroids, ships, projectiles. -/
def drawables (b : Battle α π δ) : List (Drawable α) :=
  b.controlPoints.map (fun p => .of p.body "control_point") ++
    b.asteroids.map (fun a => .of a.body a.texture) ++
    b.ships.map (fun s => .of s.body "ship") ++
    b.projectiles.map (fun p => .of p.body "projectile")

variable [Scalar α]

/-- The frame that tells a drawer what has changed since the last one. -/
def frame (b : Battle α π δ) : Frame α :=
  let (updated, new) := b.drawables.partition fun d => b.drawn.contains d.id
  { tick := b.tick, time := b.time, scores := b.scores, new, updated, deleted := b.deleted }

/-- Draws a frame, if there is a drawer. -/
def emitFrame [Drawer α δ] (b : Battle α π δ) : Battle α π δ :=
  match b.drawer with
  | none => b
  | some drawer =>
    let frame := b.frame
    { b with
      drawer := some (Drawer.draw frame drawer)
      drawn := b.drawn ++ frame.new.map (·.id)
      deleted := [] }

end FleetArena.Battle
