import FleetArena.Body

/-! Contact of two moving spheres within one tick. The time of contact is exact, so a fast body
cannot pass through another; both bodies move to the contact before they exchange momentum. -/
namespace FleetArena
namespace Body
variable {α : Type} [Scalar α]

/-- Displacements up to this length count as rest. -/
@[inline] def restEpsilon : α := 1e-12

/-- Health lost for each unit of impulse that a collision absorbs. -/
@[inline] def damagePerImpulse : α := 0.25

/-- The first contact of two bodies in a tick of length `dt`, as a fraction of the tick. Bodies
that touch at the start are in contact at once unless they move apart or stay `restEpsilon` close
to where they are; bodies that only graze each other are not. -/
@[specialize] def contact? (a b : Body α) (dt : α) : Option α :=
  let path := (a.velocity - b.velocity) * dt
  let range := path.length
  let offset := b.position - a.position
  let distance := offset.length
  let reach := a.radius + b.radius
  let gap := distance - reach
  if gap ≤ 0.0 then
    if range ≤ restEpsilon then some 0.0
    else if path.dot offset ≤ 0.0 then none
    else some 0.0
  else if range < gap then none
  else
    let closing := (path / range).dot offset
    if closing ≤ 0.0 then none
    else
      -- the squared distance of closest approach
      let miss := distance * distance - closing * closing
      let reachSquared := reach * reach
      if reachSquared ≤ miss then none
      else
        let travel := closing - Scalar.sqrt (reachSquared - miss)
        if range < travel then none else some (Scalar.max (travel / range) 0.0)

/-- Two bodies after an exchange of momentum, and the health that each of them has lost. -/
structure Rebound (α : Type) where
  first : Body α
  second : Body α
  damage : α

/-- Exchanges momentum along the line of centres with restitution `cor`. The damage is
proportional to the impulse that a perfectly elastic collision would have added, so a restitution
of one does no damage. Bodies that do not approach each other are left as they are. -/
@[specialize] def rebound (a b : Body α) (cor : α) : Rebound α :=
  let normal := (a.position - b.position).normalize?.getD .unitX
  let ima := a.inverseMass
  let imb := b.inverseMass
  let inverseSum := ima + imb
  if inverseSum == 0.0 then ⟨a, b, 0.0⟩
  else
    let approach := (a.velocity - b.velocity).dot normal
    if 0.0 ≤ approach then ⟨a, b, 0.0⟩
    else
      let actual := -(1.0 + cor) * approach / inverseSum
      let elastic := -2.0 * approach / inverseSum
      let damage := damagePerImpulse * (elastic - actual)
      { first := { a with
          velocity := a.velocity + normal * (actual * ima)
          health := a.health - damage }
        second := { b with
          velocity := b.velocity - normal * (actual * imb)
          health := b.health - damage }
        damage }

/-- A collision: the fraction of the tick at which it happened, and what came of it. -/
structure Collision (α : Type) extends Rebound α where
  ratio : α

/-- The collision of two bodies in a tick of length `dt`, if there is one. A body does not
collide with itself. -/
@[specialize] def collide? (a b : Body α) (dt cor : α) : Option (Collision α) :=
  if a.id = b.id then none
  else
    (contact? a b dt).map fun ratio =>
      { rebound (a.integrate (ratio * dt)) (b.integrate (ratio * dt)) cor with ratio }

end Body
end FleetArena
