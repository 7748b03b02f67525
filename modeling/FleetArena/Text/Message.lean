import FleetArena.Battle.Motion
import FleetArena.Battle.Outcome
import FleetArena.Decimal.Layout
import FleetArena.Pilot.Registry
import FleetArena.Text.Quoted

/-! The words in which errors, outcomes and states are told. -/
namespace FleetArena

open Text Decimal

/-- A vector as a list of its components. -/
def Vec3.text (v : Vec3 Float) : String :=
  bracketed (v.toList.map plain.text)

/-- The number of an object behind a hash sign. -/
def ObjectId.text (id : ObjectId) : String :=
  "#" ++ toString id

def Motion.name : Motion → String
  | .position => "position"
  | .velocity => "velocity"

def ActionError.message : ActionError Float → String
  | .outOfEnergy => "out of energy"
  | .outOfAmmo => "out of ammunition"
  | .alreadyUsed kind => kind.name ++ " already used this tick"
  | .coolingDown remaining => "weapon cooling down, " ++ toString remaining ++ " ticks remaining"
  | .invalidDirection direction => "invalid direction " ++ direction.text
  | .invalidPower fraction => "power must be between 0 and 1, got " ++ plain.text fraction
  | .noSuchPart kind index => "no " ++ kind.name ++ " at index " ++ toString index

def PartFault.message : PartFault Float → String
  | .position v => "part position " ++ v.text ++ " is not finite"
  | .mass x => "part mass must be positive, got " ++ plain.text x
  | .radius x => "part radius must be non-negative, got " ++ plain.text x
  | .force x => "thruster force must be positive, got " ++ plain.text x
  | .ammoMass x => "ammo mass must be positive, got " ++ plain.text x
  | .ammoVelocityOrRadius => "ammo velocity and radius must be finite"
  | .cooldown x => "weapon cooldown must be non-negative, got " ++ plain.text x

def ShipFault.message : ShipFault Float → String
  | .noParts => "ship has no parts"
  | .part fault => fault.message

def MapObject.name : MapObject → String
  | .controlPoint => "control point"
  | .asteroid => "asteroid"

def ConfigFault.message : ConfigFault Float → String
  | .tickSeconds dt => "tick duration must be positive, got " ++ plain.text dt
  | .frameRate => "frame rate must be at least 1"
  | .maxTicks => "max ticks must be at least 1"
  | .arenaRadius x => "arena radius must be positive, got " ++ plain.text x
  | .mass object x => object.name ++ " mass must be positive, got " ++ plain.text x
  | .radius object x => object.name ++ " radius must be non-negative, got " ++ plain.text x
  | .scoring influence points =>
    "control point influence " ++ plain.text influence ++ " or points " ++ plain.text points ++
      " out of range"
  | .duplicateFleet name => "duplicate fleet name '" ++ name ++ "'"

def SetupError.message : SetupError Float → String
  | .invalidPosition coordinates =>
    "invalid position list, must have exactly 3 finite items: " ++
      bracketed (coordinates.map exact.text)
  | .unknownPilot name => "unknown pilot '" ++ name ++ "'"
  | .partNotAvailable kind name =>
    kind.name ++ " '" ++ name ++ "' is not available in the part catalog"
  | .overlappingParts fleet first second =>
    "ship in fleet '" ++ fleet ++ "' has overlapping parts at " ++ first.text ++ " and " ++
      second.text
  | .invalidShip fleet fault => "invalid ship in fleet '" ++ fleet ++ "': " ++ fault.message
  | .fleetTooHeavy fleet mass limit =>
    "mass for fleet '" ++ fleet ++ "' is too large " ++ plain.text mass ++ " > " ++
      plain.text limit
  | .tooManyFleets limit =>
    "too many fleets for the map, only " ++ toString limit ++ " fleets allowed"
  | .invalidConfig fault => "invalid configuration: " ++ fault.message

def StepError.message : StepError → String
  | .nonFinite id motion tick =>
    "non-finite " ++ motion.name ++ " on object " ++ ObjectId.text id ++ " at tick " ++
      toString tick
  | .halted => "simulation halted after an invariant violation"

def EndReason.message : EndReason → String
  | .maxTicks => "max ticks reached"
  | .noShips => "no ships remain"
  | .scoreLimit => "score limit reached"
  | .lastFleetStanding => "last fleet standing"

def Outcome.message (o : Outcome Float) : String :=
  o.reason.message ++ " after " ++ toString o.tick ++ " ticks: " ++ ", ".intercalate o.winners ++
    " with " ++ hundredths o.score ++ " points"

/-- The names of a registry in order. -/
def Registry.summary {m : Type → Type} {π : Type} (r : Registry m π) : String :=
  bracketed (r.names.map quote)

/-- A name and a value. -/
def Text.field (name value : String) : String :=
  name ++ ": " ++ value

/-- Values between braces. -/
def Text.braced (fields : List String) : String :=
  "\x7b" ++ ", ".intercalate fields ++ "\x7d"

/-- The size of a battle and its scores. -/
def Battle.summary {π δ : Type} (b : Battle Float π δ) : String :=
  let scores := b.scores.entries.map fun e => field (quote e.1) (exact.text e.2)
  "Simulation \x7b " ++
    ", ".intercalate [
      field "tick" (toString b.tick),
      field "ships" (toString b.ships.length),
      field "projectiles" (toString b.projectiles.length),
      field "control_points" (toString b.controlPoints.length),
      field "asteroids" (toString b.asteroids.length),
      field "scores" (braced scores),
      field "halted" (toString b.halted)] ++ " \x7d"

end FleetArena
