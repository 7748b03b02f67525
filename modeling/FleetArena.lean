import FleetArena.Main
import FleetArena.Json.Battle
import FleetArena.Proofs.Lists
import FleetArena.Proofs.Exact
import FleetArena.Proofs.Space
import FleetArena.Proofs.Grid.Cover
import FleetArena.Proofs.Contact.Candidates
import FleetArena.Proofs.Contact.Exchange
import FleetArena.Proofs.Vessel.Calls
import FleetArena.Proofs.Battle.Operation
import FleetArena.Proofs.Vessel.Build
import FleetArena.Proofs.Battle.Objects
import FleetArena.Proofs.Drawing.ChangeLog
import FleetArena.Proofs.Drawing.Tracked
import FleetArena.Proofs.Battle.Stepping
import FleetArena.Proofs.Battle.Collisions
import FleetArena.Proofs.Drawing.Frames
import FleetArena.Proofs.Drawing.Stream
import FleetArena.Proofs.Setup.Edits
import FleetArena.Proofs.Energy.Tally
import FleetArena.Proofs.Vessel.Handling
import FleetArena.Proofs.Vessel.Weight
import FleetArena.Proofs.Vessel.Ending
import FleetArena.Proofs.Vessel.Attempts
import FleetArena.Proofs.Energy.Sound
import FleetArena.Proofs.Energy.Built
import FleetArena.Proofs.Energy.Balance
import FleetArena.Proofs.Energy.Ledger
import FleetArena.Proofs.Scoring.Entries
import FleetArena.Proofs.Scoring.Phases
import FleetArena.Proofs.Battle.Rest
import FleetArena.Proofs.Scoring.Winners
import FleetArena.Proofs.Contact.Conservation
import FleetArena.Proofs.Battle.Moves
import FleetArena.Proofs.Vessel.Shots
import FleetArena.Proofs.Battle.WellFormed
import FleetArena.Proofs.Setup.WellFormed
import FleetArena.Proofs.Drawing.Delivery
import FleetArena.Proofs.Drawing.Session
import FleetArena.Proofs.Battle.Launching
import FleetArena.Proofs.Battle.Run
import FleetArena.Proofs.Battle.Ships
import FleetArena.Proofs.Battle.Identity
import FleetArena.Proofs.Contact.Strikes
import FleetArena.Proofs.Battle.Flight
import FleetArena.Proofs.Vessel.Volley
import FleetArena.Proofs.Battle.Ammunition
import FleetArena.Proofs.Battle.Mass
import FleetArena.Proofs.Battle.Halting
import FleetArena.Proofs.Battle.Interleaving
import FleetArena.Proofs.Setup.Vetting
import FleetArena.Proofs.Setup.Faults
import FleetArena.Proofs.Setup.Arena
import FleetArena.Proofs.Setup.Acceptance
import FleetArena.Proofs.Vessel.Addressing
import FleetArena.Proofs.Setup.Layout
import FleetArena.Proofs.Battle.Playing
import FleetArena.Proofs.Scoring.Gains
import FleetArena.Proofs.Scoring.Stalemate
import FleetArena.Proofs.Vessel.Steering
import FleetArena.Proofs.Battle.Footprint
import FleetArena.Proofs.Pilot.Hidden
import FleetArena.Proofs.Contact.FirstTouch
import FleetArena.Proofs.Contact.Restitution
import FleetArena.Proofs.Contact.Repeat
import FleetArena.Proofs.Contact.Symmetry
import FleetArena.Proofs.Vessel.Cooldown
import FleetArena.Proofs.Vessel.Thrust
import FleetArena.Proofs.Pilot.Cruise
import FleetArena.Proofs.Contact.Departure
import FleetArena.Proofs.Energy.Throttle
import FleetArena.Proofs.Vessel.Conduct
import FleetArena.Proofs.Pilot.Discipline
import FleetArena.Proofs.Vessel.Visibility
import FleetArena.Proofs.Pilot.Itinerary
import FleetArena.Proofs.Drawing.Handoff
import FleetArena.Proofs.Vessel.Rejection
import FleetArena.Proofs.Vessel.Shape
import FleetArena.Proofs.Random
import FleetArena.Proofs.Setup.Generated
import FleetArena.Proofs.Pilot.Registration
import FleetArena.Proofs.Grid.Sharing
import FleetArena.Proofs.Contact.Bookkeeping
import FleetArena.Proofs.Random.Directions
