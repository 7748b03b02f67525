import FleetArena.Pilot.Stock

/-! Registries: pilot factories by name, in the order of registration. A factory makes a pilot from
a seed, with an effect of the monad `m`. -/
namespace FleetArena

structure Registry (m : Type → Type) (π : Type) where
  entries : List (String × (Nat → m π))

namespace Registry
variable {m : Type → Type} {π : Type}

def empty : Registry m π := ⟨[]⟩

/-- Puts a factory in the place of the entry of that name, or behind all entries. -/
def registerEntry (name : String) (factory : Nat → m π) :
    List (String × (Nat → m π)) → List (String × (Nat → m π))
  | [] => [(name, factory)]
  | (n, f) :: rest =>
    if n = name then (n, factory) :: rest else (n, f) :: registerEntry name factory rest

/-- Registers a factory. A name that is registered already keeps its place. -/
def register (r : Registry m π) (name : String) (factory : Nat → m π) : Registry m π :=
  ⟨registerEntry name factory r.entries⟩

def factory? (r : Registry m π) (name : String) : Option (Nat → m π) :=
  (r.entries.find? (·.1 == name)).map (·.2)

def contains (r : Registry m π) (name : String) : Bool :=
  r.entries.any (·.1 == name)

def names (r : Registry m π) : List String :=
  r.entries.map (·.1)

def size (r : Registry m π) : Nat :=
  r.entries.length

/-- Makes a pilot with the factory of a name. -/
def create {α : Type} [Monad m] (r : Registry m π) (name : String) (seed : Nat) :
    ExceptT (SetupError α) m π :=
  match r.factory? name with
  | some factory => ExceptT.lift (factory seed)
  | none => throw (.unknownPilot name)

/-- A registry of the stock pilots, which `embed` makes pilots of the kind `π`. -/
def stock {α : Type} [Scalar α] [Monad m] (embed : StockPilot α → π) : Registry m π :=
  empty
    |>.register "idle" (fun _ => return embed (.idle ⟨⟩))
    |>.register "wanderer" (fun seed => return embed (.wanderer (.ofSeed seed)))
    |>.register "hunter" (fun _ => return embed (.hunter .standard))

end Registry
end FleetArena
