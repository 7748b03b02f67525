import FleetArena.Battle.Step
import FleetArena.Channel
import FleetArena.Json.Map
import FleetArena.Json.Roster
import FleetArena.Report
import FleetArena.Setup

/-! The command line. Without arguments a generated match is played; with a map, a catalog and
fleets, each in a JSON file, a match of those. -/
namespace FleetArena

/-- A match that nobody wins ends after this many ticks. -/
def matchLength : Nat := 12000

/-- A fleet of three ships with the standard parts. -/
def demoFleet (name pilot : String) : RosterFleet Float where
  name
  ships := (List.range 3).map fun i =>
    .standard pilot ⟨0.0, (Float.ofNat i - 1.0) * 30.0, 0.0⟩

abbrev Entrants := ArenaMap Float × Catalog Float × List (RosterFleet Float)

/-- A generated map with a fleet of hunters and a fleet of wanderers. -/
def demo? (seed : UInt64) : Option Entrants :=
  ((MapShape.standard : MapShape Float).generate? seed).map fun map =>
    (map, .standard, [demoFleet "hunters" "hunter", demoFleet "drifters" "wanderer"])

/-- The value in a JSON file. -/
def readFile (β : Type) [Json.Decode β] (path : String) : IO β := do
  match Json.parse? (← IO.FS.readFile path) with
  | some x => return x
  | none => throw (IO.userError ("failed to parse configuration: " ++ path))

/-- What the arguments ask for. -/
def entrants : List String → IO Entrants
  | [] => do
    let seed := ((← IO.getEnv "FLEET_ARENA_SEED").bind String.toNat?).getD 1
    match demo? (.ofNat seed) with
    | some x => return x
    | none => throw (IO.userError "no map")
  | map :: catalog :: fleets => do
    let fleets ← fleets.mapM (readFile (RosterFleet Float))
    return (← readFile (ArenaMap Float) map, ← readFile (Catalog Float) catalog, fleets)
  | _ => throw (IO.userError "usage: fleet-arena [map.json parts.json fleet.json...]")

abbrev Match := Battle Float (StockPilot Float) (Channel Float)

/-- The battle of the given entrants. -/
def setUp (x : Entrants) : Except (SetupError Float) Match :=
  let settings := { (Settings.standard : Settings Float) with maxTicks := some matchLength }
  let setup : Setup Float Id (StockPilot Float) (Channel Float) :=
    ⟨x.1, x.2.1, x.2.2, .stock id, settings, some (.ofCapacity settings.frameBuffer)⟩
  setup.build.run

/-- Prints the frames that wait and counts them. -/
def printFrames (b : Match) (count : Nat) : IO (Match × Nat) := do
  match b.drawer with
  | none => return (b, count)
  | some channel =>
    let (frames, channel) := channel.drain
    for f in frames do
      if f.isReported then IO.println f.report
    return ({ b with drawer := some channel }, count + frames.length)

/-- Plays a match to its end, or at most for a number of steps. -/
def play : Nat → Match → Nat → IO UInt32
  | 0, _, _ => return 0
  | steps + 1, b, count => do
    let s := b.step
    let (b, count) ← printFrames s.battle count
    match s.result with
    | .error e =>
      IO.eprintln e.message
      return 1
    | .ok none => play steps b count
    | .ok (some outcome) =>
      IO.println outcome.message
      IO.println (toString count ++ " frames received")
      return 0

end FleetArena

open FleetArena in
def main (args : List String) : IO UInt32 := do
  match setUp (← entrants args) with
  | .error e =>
    IO.eprintln e.message
    return 1
  | .ok b => play b.stepsLeft b 0
