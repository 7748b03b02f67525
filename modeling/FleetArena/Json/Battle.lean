import FleetArena.Battle.Outcome
import FleetArena.Json.Decode
import FleetArena.Json.Encode

/-! Objects, frames, readings and outcomes in JSON. -/
namespace FleetArena
open Json

/-- The name of an end reason in a record. -/
def EndReason.name : EndReason → String
  | .maxTicks => "MaxTicks"
  | .noShips => "NoShips"
  | .scoreLimit => "ScoreLimit"
  | .lastFleetStanding => "LastFleetStanding"

/-- The end reason of a given name. -/
def EndReason.ofName? : String → Option EndReason
  | "MaxTicks" => some .maxTicks
  | "NoShips" => some .noShips
  | "ScoreLimit" => some .scoreLimit
  | "LastFleetStanding" => some .lastFleetStanding
  | _ => none

instance : Decode EndReason := ⟨decodeName? EndReason.ofName?⟩
instance : Encode EndReason := ⟨fun reason => encode reason.name⟩

instance : Decode (Body Float) where
  decode? := Record.decode? do
    let id ← .required "id"
    let position ← .required "position"
    let velocity ← .required "velocity"
    let radius ← .required "radius"
    let mass ← .required "mass"
    let health ← .required "health"
    return { id, position, velocity, radius, mass, health }

instance : Encode (Body Float) where
  encode x := .object [
    member "id" x.id, member "position" x.position, member "velocity" x.velocity,
    member "radius" x.radius, member "mass" x.mass, member "health" x.health]

instance : Decode (Projectile Float) where
  decode? := Record.decode? do
    let body ← .required "body"
    let spent ← .required "spent"
    return { body, spent }

instance : Encode (Projectile Float) where
  encode x := .object [
    member "body" x.body, member "spent" x.spent]

instance : Decode (ControlPoint Float) where
  decode? := Record.decode? do
    let body ← .required "body"
    let points ← .required "points"
    let influence ← .required "influence"
    return { body, points, influence }

instance : Encode (ControlPoint Float) where
  encode x := .object [
    member "body" x.body, member "points" x.points, member "influence" x.influence]

instance : Decode (Asteroid Float) where
  decode? := Record.decode? do
    let body ← .required "body"
    let texture ← .required "texture"
    return { body, texture }

instance : Encode (Asteroid Float) where
  encode x := .object [
    member "body" x.body, member "texture" x.texture]

instance : Decode (Outcome Float) where
  decode? := Record.decode? do
    let winners ← .required "winners"
    let score ← .required "score"
    let reason ← .required "reason"
    let tick ← .required "tick"
    return { winners, score, reason, tick }

instance : Encode (Outcome Float) where
  encode x := .object [
    member "winners" x.winners, member "score" x.score, member "reason" x.reason,
    member "tick" x.tick]

instance : Decode (Drawable Float) where
  decode? := Record.decode? do
    let id ← .required "id"
    let position ← .required "position"
    let radius ← .required "radius"
    let texture ← .required "texture"
    return { id, position, radius, texture }

instance : Encode (Drawable Float) where
  encode x := .object [
    member "id" x.id, member "position" x.position, member "radius" x.radius,
    member "texture" x.texture]

instance : Decode (Frame Float) where
  decode? := Record.decode? do
    let tick ← .required "tick"
    let time ← .required "sim_time"
    let scores ← .required "scores"
    let new ← .required "new"
    let updated ← .required "updated"
    let deleted ← .required "deleted"
    return { tick, time, scores, new, updated, deleted }

instance : Encode (Frame Float) where
  encode x := .object [
    member "tick" x.tick, member "sim_time" x.time, member "scores" x.scores, member "new" x.new,
    member "updated" x.updated, member "deleted" x.deleted]

instance : Decode (ShipSighting Float) where
  decode? := Record.decode? do
    let fleet ← .required "fleet"
    let position ← .required "position"
    let velocity ← .required "velocity"
    let radius ← .required "radius"
    let health ← .required "health"
    return { fleet, position, velocity, radius, health }

instance : Encode (ShipSighting Float) where
  encode x := .object [
    member "fleet" x.fleet, member "position" x.position, member "velocity" x.velocity,
    member "radius" x.radius, member "health" x.health]

instance : Decode (PointSighting Float) where
  decode? := Record.decode? do
    let position ← .required "position"
    let velocity ← .required "velocity"
    let radius ← .required "radius"
    let health ← .required "health"
    let points ← .required "points"
    let influence ← .required "influence"
    return { position, velocity, radius, health, points, influence }

instance : Encode (PointSighting Float) where
  encode x := .object [
    member "position" x.position, member "velocity" x.velocity, member "radius" x.radius,
    member "health" x.health, member "points" x.points, member "influence" x.influence]

instance : Decode (Reading Float) where
  decode? := Record.decode? do
    let id ← .required "id"
    let position ← .required "position"
    let velocity ← .required "velocity"
    let radius ← .required "radius"
    let health ← .required "health"
    let energy ← .required "energy"
    let ships ← .required "ships"
    let controlPoints ← .required "control_points"
    return { id, position, velocity, radius, health, energy, ships, controlPoints }

instance : Encode (Reading Float) where
  encode x := .object [
    member "id" x.id, member "position" x.position, member "velocity" x.velocity,
    member "radius" x.radius, member "health" x.health, member "energy" x.energy,
    member "ships" x.ships, member "control_points" x.controlPoints]

end FleetArena
