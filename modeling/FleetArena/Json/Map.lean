import FleetArena.ArenaMap
import FleetArena.Json.Decode
import FleetArena.Json.Encode
import FleetArena.Settings

/-! Maps and settings in JSON. -/
namespace FleetArena
open Json

instance : Decode (PointSite Float) where
  decode? := Record.decode? do
    let mass ← .required "mass"
    let radius ← .required "radius"
    let position ← .required "position"
    let points ← .required "points"
    let influence ← .required "influence"
    return { mass, radius, position, points, influence }

instance : Encode (PointSite Float) where
  encode x := .object [
    member "mass" x.mass, member "radius" x.radius, member "position" x.position,
    member "points" x.points, member "influence" x.influence]

instance : Decode (AsteroidSite Float) where
  decode? := Record.decode? do
    let mass ← .required "mass"
    let radius ← .required "radius"
    let position ← .required "position"
    let texture ← .withDefault "texture" none
    return { mass, radius, position, texture }

instance : Encode (AsteroidSite Float) where
  encode x := .object [
    member "mass" x.mass, member "radius" x.radius, member "position" x.position,
    member "texture" x.texture]

instance : Decode (Rules Float) where
  decode? := Record.decode? do
    let score ← .withDefault "score" none
    let maxFleetMass ← .required "max_fleet_mass"
    return { score, maxFleetMass }

instance : Encode (Rules Float) where
  encode x := .object [
    member "score" x.score, member "max_fleet_mass" x.maxFleetMass]

instance : Decode (ArenaMap Float) where
  decode? := Record.decode? do
    let radius ← .required "radius"
    let rules ← .required "rules"
    let startingPoints ← .withDefault "starting_points" []
    let controlPoints ← .withDefault "control_points" []
    let asteroids ← .withDefault "asteroids" []
    return { radius, rules, startingPoints, controlPoints, asteroids }

instance : Encode (ArenaMap Float) where
  encode x := .object [
    member "radius" x.radius, member "rules" x.rules, member "starting_points" x.startingPoints,
    member "control_points" x.controlPoints, member "asteroids" x.asteroids]

instance : Decode (Settings Float) where
  decode? := Record.decode? do
    let tickSeconds ← .withDefault "tick_seconds" (Settings.standard : Settings Float).tickSeconds
    let maxTicks ← .withDefault "max_ticks" (Settings.standard : Settings Float).maxTicks
    let frameRate ← .withDefault "frame_rate" (Settings.standard : Settings Float).frameRate
    let parallel ← .withDefault "parallel" (Settings.standard : Settings Float).parallel
    let frameBuffer ← .withDefault "frame_buffer" (Settings.standard : Settings Float).frameBuffer
    return { tickSeconds, maxTicks, frameRate, parallel, frameBuffer }

instance : Encode (Settings Float) where
  encode x := .object [
    member "tick_seconds" x.tickSeconds, member "max_ticks" x.maxTicks,
    member "frame_rate" x.frameRate, member "parallel" x.parallel,
    member "frame_buffer" x.frameBuffer]

end FleetArena
