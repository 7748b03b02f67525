import FleetArena.Vec3
import Std.Data.HashMap

/-! A grid of cubic sectors. Objects are filed under the sectors that their bounding cubes touch,
and only objects that share a sector can be in contact. -/
namespace FleetArena

/-- The whole coordinates of a sector. -/
abbrev Sector := Int × Int × Int

structure Grid (α : Type) where
  /-- The edge length of a sector. -/
  size : α
  cells : Std.HashMap Sector (List Nat)

/-- Puts pairs in lexicographic order. -/
def pairLE (p q : Nat × Nat) : Bool :=
  p.1 < q.1 || (p.1 == q.1 && p.2 ≤ q.2)

/-- Keeps one of equal neighbours. -/
def dropRepeats : List (Nat × Nat) → List (Nat × Nat)
  | p :: q :: rest => if p = q then dropRepeats (q :: rest) else p :: dropRepeats (q :: rest)
  | short => short

/-- The distinct pairs of a list in lexicographic order. -/
def distinctPairs (l : List (Nat × Nat)) : List (Nat × Nat) :=
  dropRepeats (l.mergeSort pairLE)

/-- Every pair of different members of a list that stand at two places of it, the lower first. -/
def unorderedPairs : List Nat → List (Nat × Nat)
  | [] => []
  | a :: rest =>
    (rest.filter (· ≠ a)).map (fun b => (min a b, max a b)) ++ unorderedPairs rest

namespace Grid
variable {α : Type} [Scalar α]

/-- The least edge length of a sector. -/
@[inline] def leastSize : α := 100.0

/-- The edge length for objects that extend at most `maxExtent` from their centres: twice the
extent, so that no object touches more than two sectors along an axis. -/
@[inline] def sizeFor (maxExtent : α) : α :=
  Scalar.max (2.0 * maxExtent) leastSize

def empty (size : α) : Grid α := ⟨size, ∅⟩

/-- The sector coordinate of a point on an axis. -/
@[inline] def coordinate (g : Grid α) (x : α) : Int :=
  Scalar.floor (x / g.size)

/-- The sector that holds a point. -/
@[inline] def sector (g : Grid α) (p : Vec3 α) : Sector :=
  (g.coordinate p.x, g.coordinate p.y, g.coordinate p.z)

/-- The sector coordinates of the two ends and the middle of an interval on an axis. -/
@[specialize] def span (g : Grid α) (center extent : α) : List Int :=
  [g.coordinate (center + -1.0 * extent), g.coordinate (center + 0.0 * extent),
    g.coordinate (center + 1.0 * extent)].eraseDups

/-- The sectors that the cube about `center` touches. -/
@[specialize] def cover (g : Grid α) (center : Vec3 α) (extent : α) : List Sector :=
  (g.span center.x extent).flatMap fun x =>
    (g.span center.y extent).flatMap fun y =>
      (g.span center.z extent).map fun z => (x, y, z)

/-- Files an object under one sector, behind the objects that are there. -/
def file (cells : Std.HashMap Sector (List Nat)) (index : Nat) (s : Sector) :
    Std.HashMap Sector (List Nat) :=
  cells.alter s fun members => some (members.getD [] ++ [index])

/-- Files an object under every sector that its cube touches. -/
@[specialize] def insert (g : Grid α) (index : Nat) (center : Vec3 α) (extent : α) : Grid α :=
  { g with cells := (g.cover center extent).foldl (fun cells s => file cells index s) g.cells }

/-- The objects filed under a sector, in the order in which they came. -/
def members (g : Grid α) (s : Sector) : List Nat :=
  g.cells.getD s []

/-- The number of sectors that hold an object. -/
def occupied (g : Grid α) : Nat :=
  g.cells.size

/-- The pairs of different objects that share a sector, in lexicographic order. -/
def pairs (g : Grid α) : List (Nat × Nat) :=
  distinctPairs (g.cells.toList.flatMap fun cell => unorderedPairs cell.2)

/-- The pairs of an object of `g` and an object of `h` filed under one sector, in lexicographic
order. -/
def pairsWith (g h : Grid α) : List (Nat × Nat) :=
  distinctPairs (g.cells.toList.flatMap fun cell =>
    cell.2.flatMap fun a => (h.members cell.1).map fun b => (a, b))

end Grid
end FleetArena
