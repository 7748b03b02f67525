import FleetArena.Json.Decode
import FleetArena.Json.Encode
import FleetArena.Roster

/-! Part specifications, catalogs and rosters in JSON. -/
namespace FleetArena
open Json

instance : Decode PartKind := ⟨decodeName? PartKind.ofName?⟩
instance : Encode PartKind := ⟨fun kind => encode kind.name⟩

instance : Decode (EngineSpec Float) where
  decode? := Record.decode? do
    let mass ← .required "mass"
    let radius ← .required "radius"
    let energy ← .required "energy"
    let health ← .withDefault "health" none
    return { mass, radius, energy, health }

instance : Encode (EngineSpec Float) where
  encode x := .object [
    member "mass" x.mass, member "radius" x.radius, member "energy" x.energy,
    member "health" x.health]

instance : Decode (ThrusterSpec Float) where
  decode? := Record.decode? do
    let mass ← .required "mass"
    let radius ← .required "radius"
    let force ← .required "force"
    let energy ← .required "energy"
    let health ← .withDefault "health" none
    return { mass, radius, force, energy, health }

instance : Encode (ThrusterSpec Float) where
  encode x := .object [
    member "mass" x.mass, member "radius" x.radius, member "force" x.force,
    member "energy" x.energy, member "health" x.health]

instance : Decode (WeaponSpec Float) where
  decode? := Record.decode? do
    let mass ← .required "mass"
    let radius ← .required "radius"
    let energy ← .required "energy"
    let ammoVelocity ← .required "ammo_velocity"
    let ammoMass ← .required "ammo_mass"
    let ammoRadius ← .required "ammo_radius"
    let ammoCapacity ← .required "ammo_capacity"
    let cooldown ← .required "cooldown"
    let health ← .withDefault "health" none
    return {
      mass, radius, energy, ammoVelocity,
      ammoMass, ammoRadius, ammoCapacity, cooldown, health }

instance : Encode (WeaponSpec Float) where
  encode x := .object [
    member "mass" x.mass, member "radius" x.radius, member "energy" x.energy,
    member "ammo_velocity" x.ammoVelocity, member "ammo_mass" x.ammoMass,
    member "ammo_radius" x.ammoRadius, member "ammo_capacity" x.ammoCapacity,
    member "cooldown" x.cooldown, member "health" x.health]

instance : Decode (SensorSpec Float) where
  decode? := Record.decode? do
    let mass ← .required "mass"
    let radius ← .required "radius"
    let energy ← .required "energy"
    let power ← .required "power"
    let health ← .withDefault "health" none
    return { mass, radius, energy, power, health }

instance : Encode (SensorSpec Float) where
  encode x := .object [
    member "mass" x.mass, member "radius" x.radius, member "energy" x.energy,
    member "power" x.power, member "health" x.health]

instance : Decode (Catalog Float) where
  decode? := Record.decode? do
    let engines ← .withDefault "engines" ∅
    let thrusters ← .withDefault "thrusters" ∅
    let weapons ← .withDefault "weapons" ∅
    let sensors ← .withDefault "sensors" ∅
    return { engines, thrusters, weapons, sensors }

instance : Encode (Catalog Float) where
  encode x := .object [
    member "engines" x.engines, member "thrusters" x.thrusters, member "weapons" x.weapons,
    member "sensors" x.sensors]

instance : Decode (RosterPart Float) where
  decode? := Record.decode? do
    let kind ← .required "type"
    let name ← .required "name"
    let position ← .required "position"
    return { kind, name, position }

instance : Encode (RosterPart Float) where
  encode x := .object [
    member "type" x.kind, member "name" x.name, member "position" x.position]

instance : Decode (RosterShip Float) where
  decode? := Record.decode? do
    let pilot ← .required "pilot"
    let position ← .required "position"
    let parts ← .withDefault "parts" []
    return { pilot, position, parts }

instance : Encode (RosterShip Float) where
  encode x := .object [
    member "pilot" x.pilot, member "position" x.position, member "parts" x.parts]

instance : Decode (RosterFleet Float) where
  decode? := Record.decode? do
    let name ← .required "name"
    let ships ← .withDefault "ships" []
    return { name, ships }

instance : Encode (RosterFleet Float) where
  encode x := .object [
    member "name" x.name, member "ships" x.ships]

end FleetArena
