import FleetArena.Proofs.Lists
import FleetArena.Proofs.Vessel.Handling

/-! What a vessel can know of the world. A plan learns of it by its scans alone, and a scan shows
what the sensor detects from where the vessel is, which no call can change. So two worlds of which
the sensors detect the same lead a plan to the same end. -/
namespace FleetArena
variable {α β γ : Type}

/-- All scans of a plan are of sensors at the places `S`, whatever the replies are. -/
inductive Plan.ScansOnly (S : Nat → Prop) : Plan α β → Prop
  | done (result : β) : ScansOnly S (.done result)
  | look {next : Cockpit α → Plan α β} (h : ∀ cockpit, ScansOnly S (next cockpit)) :
      ScansOnly S (.look next)
  | act {action : Action α} {next : Except (ActionError α) Unit → Plan α β}
      (h : ∀ reply, ScansOnly S (next reply)) : ScansOnly S (.act action next)
  | scan {i : Nat} {next : Except (ActionError α) (Reading α) → Plan α β} (hi : S i)
      (h : ∀ reply, ScansOnly S (next reply)) : ScansOnly S (.scan i next)

namespace Plan.ScansOnly
variable {S : Nat → Prop} {plan : Plan α β} {f : β → Plan α γ}

theorem andThen (h : plan.ScansOnly S) (hf : ∀ x, (f x).ScansOnly S) :
    (plan.andThen f).ScansOnly S := by
  induction h with
  | done result => exact hf result
  | look _ ih => exact .look ih
  | act _ ih => exact .act ih
  | scan hi _ ih => exact .scan hi ih

theorem bind (h : plan.ScansOnly S) (hf : ∀ x, (f x).ScansOnly S) : (plan >>= f).ScansOnly S :=
  h.andThen hf

theorem perform (action : Action α) : (Plan.perform action).ScansOnly S :=
  .act fun reply => .done reply

theorem cockpit : (Plan.cockpit : Plan α (Cockpit α)).ScansOnly S :=
  .look fun cockpit => .done cockpit

theorem scanWith {i : Nat} (hi : S i) : (Plan.scanWith i : Plan α _).ScansOnly S :=
  .scan hi fun reply => .done reply

theorem tryAll (actions : List (Action α)) : (Plan.tryAll actions).ScansOnly S := by
  induction actions with
  | nil => exact .done _
  | cons action rest ih => exact .act fun reply => ih.andThen fun later => .done _

theorem powerAll (fraction : α) : (Plan.powerAll fraction).ScansOnly S :=
  .look fun _ => tryAll _

end Plan.ScansOnly

variable [Scalar α] {w w' : World α}

/-- Whether what is at `position` is bright enough to be seen from `origin`. -/
def isBright (intensity : α → α) (origin position : Vec3 α) : Bool :=
  decide (intensity (position.distance origin) > detectionThreshold)

/-- What of a world is bright enough to be seen from `origin`. The ship `id` that looks is left
out. -/
def World.seen (world : World α) (intensity : α → α) (id : ObjectId) (origin : Vec3 α) :
    World α where
  ships := world.ships.filter fun i ship => i != id && isBright intensity origin ship.position
  controlPoints := world.controlPoints.filter fun _ point =>
    isBright intensity origin point.position

/-- A reading shows what is seen, and the state of the ship itself. -/
theorem World.scan_congr {h : Hull α} {intensity : α → α}
    (hseen : w.seen intensity h.body.id h.body.position =
      w'.seen intensity h.body.id h.body.position) :
    w.scan h intensity = w'.scan h intensity := by
  have hreading (world : World α) : world.scan h intensity =
      { id := h.body.id
        position := h.body.position
        velocity := h.body.velocity
        radius := h.body.radius
        health := h.body.health
        energy := h.energy
        ships := (world.seen intensity h.body.id h.body.position).ships
        controlPoints := (world.seen intensity h.body.id h.body.position).controlPoints } := rfl
  rw [hreading w, hreading w', hseen]

theorem Sensor.scan_congr {s : Sensor α} {h : Hull α}
    (hseen : w.seen s.intensity h.body.id h.body.position =
      w'.seen s.intensity h.body.id h.body.position) :
    s.scan h w = s.scan h w' := by
  rw [scan, scan]
  split
  · rfl
  have hbody := h.body_spend s.energy
  dsimp only
  split
  · rfl
  · rename_i hull hpaid
    -- the price of the scan leaves the body where it is
    rw [hpaid] at hbody
    have hreading : w.scan hull s.intensity = w'.scan hull s.intensity := by
      apply World.scan_congr
      rw [show hull.body = h.body from hbody]
      exact hseen
    exact congrArg (fun reading => (_, hull, Except.ok reading)) hreading

namespace Vessel

/-- What the sensor at a place detects of a world, if there is one. -/
def detected (v : Vessel α) (i : Nat) (world : World α) : Option (World α) :=
  v.loadout.sensors[i]?.map fun s => world.seen s.intensity v.hull.body.id v.hull.body.position

theorem scan_congr {v : Vessel α} {i : Nat} (h : v.detected i w = v.detected i w') :
    v.scan w i = v.scan w' i := by
  rw [detected, detected] at h
  rw [scan, scan]
  split
  · rfl
  · rename_i s hs
    rw [hs] at h
    have hscan : s.scan v.hull w = s.scan v.hull w' := Sensor.scan_congr (Option.some.inj h)
    rw [hscan]

/-- What is detected depends on the place of the vessel and on the power of the sensor. -/
theorem detected_congr {u v : Vessel α} (hid : u.hull.body.id = v.hull.body.id)
    (hposition : u.hull.body.position = v.hull.body.position)
    (hpower : u.loadout.sensors.map (·.power) = v.loadout.sensors.map (·.power)) (i : Nat)
    (world : World α) : u.detected i world = v.detected i world := by
  have hmap (u : Vessel α) : u.detected i world =
      (u.loadout.sensors.map (·.power))[i]?.map fun power =>
        world.seen (power / Scalar.sphereArea ·) u.hull.body.id u.hull.body.position := by
    rw [List.getElem?_map, Option.map_map]
    rfl
  rw [hmap u, hmap v, hid, hposition, hpower]

theorem power_call (v : Vessel α) (tick : Nat) (world : World α) (c : Call α) :
    (v.call tick world c).1.loadout.sensors.map (·.power) =
      v.loadout.sensors.map (·.power) := by
  have hhandled := v.handled_call tick world c
  generalize (v.call tick world c).1.loadout = loadout at hhandled ⊢
  generalize (v.call tick world c).1.hull.body.mass = mass at hhandled
  cases hhandled with
  | sensor hs => exact map_set_of_fixed hs rfl
  | untouched | engine | thruster | weapon | shot => rfl

theorem detected_call (v : Vessel α) (tick : Nat) (world : World α) (c : Call α) (i : Nat) :
    (v.call tick world c).1.detected i w = v.detected i w := by
  have hkeeps := v.keeps_call tick world c
  exact detected_congr hkeeps.id hkeeps.position (v.power_call tick world c) i w

theorem detected_begin (v : Vessel α) (i : Nat) : v.begin.detected i w = v.detected i w := by
  have hpower : v.begin.loadout.sensors.map (·.power) = v.loadout.sensors.map (·.power) := by
    change (v.loadout.sensors.map Sensor.release).map (·.power) = _
    rw [List.map_map]
    rfl
  exact detected_congr (u := v.begin) (v := v) rfl rfl hpower i w

theorem follow_congr {S : Nat → Prop} {plan : Plan α β} (hplan : plan.ScansOnly S) (tick : Nat)
    {v : Vessel α} (h : ∀ i, S i → v.detected i w = v.detected i w') :
    v.follow tick w plan = v.follow tick w' plan := by
  -- the invariant of the induction is that the sensors detect the same in both worlds
  induction hplan generalizing v with
  | done result => rfl
  | look _ ih => exact ih _ h
  | @act action next _ ih =>
    apply ih
    intro i hi
    have hact (world : World α) := v.detected_call (w := world) tick w (.act action) i
    exact (hact w).trans ((h i hi).trans (hact w').symm)
  | @scan j next hj _ ih =>
    have hscan : v.scan w j = v.scan w' j := scan_congr (h j hj)
    rw [follow, follow, hscan]
    apply ih
    intro i hi
    have hcall (world : World α) := v.detected_call (w := world) tick w' (.scan j) i
    exact (hcall w).trans ((h i hi).trans (hcall w').symm)

end Vessel

/-- A ship decides the same in two worlds of which the sensors that its pilot may use detect the
same. -/
theorem Ship.decide_congr {π : Type} [Pilot α π] {s : Ship α π} {S : Nat → Prop} {tick : Nat}
    (hplan : (Pilot.tick tick s.pilot : Plan α π).ScansOnly S)
    (h : ∀ i, S i → s.toVessel.detected i w = s.toVessel.detected i w') :
    s.decide tick w = s.decide tick w' := by
  have hbegin (i : Nat) (hi : S i) :
      s.toVessel.begin.detected i w = s.toVessel.begin.detected i w' := by
    rw [Vessel.detected_begin, Vessel.detected_begin]
    exact h i hi
  have hfollow := Vessel.follow_congr hplan tick hbegin
  rw [decide, decide, hfollow]

end FleetArena
