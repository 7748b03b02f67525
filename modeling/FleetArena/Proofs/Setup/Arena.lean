import FleetArena.Proofs.Setup.Faults

/-! The arena of a setup before the fleets come: the control points and the asteroids of the map, in
its order and with the first numbers. -/
namespace FleetArena
variable {α π δ : Type} [Scalar α]

/-- A control point as the map has it, with the number `id`. -/
def PointSite.Stands (site : PointSite α) (id : ObjectId) (p : ControlPoint α) : Prop :=
  ∃ position, Vec3.ofCoordinates site.position = .ok position ∧
    p = ⟨.atRest id position site.radius site.mass site.mass, site.points, site.influence⟩

/-- An asteroid as the map has it, with the number `id`. -/
def AsteroidSite.Stands (site : AsteroidSite α) (id : ObjectId) (a : Asteroid α) : Prop :=
  ∃ position, Vec3.ofCoordinates site.position = .ok position ∧
    a = ⟨.atRest id position site.radius site.mass site.mass, site.texture.getD "asteroid"⟩

namespace Setup
variable {m : Type → Type} (s : Setup α m π δ)

/-- The number of the first ship. -/
def firstShip : ObjectId :=
  s.map.controlPoints.length + s.map.asteroids.length + 1

/-- The arena with the control points and the asteroids of the map and with nothing else. -/
structure IsArena (b : Battle α π δ) : Prop where
  controlPoints : List.Forall₂ (fun e p => e.1.Stands e.2 p) (s.map.controlPoints.zipIdx 1)
    b.controlPoints
  asteroids : List.Forall₂ (fun e a => e.1.Stands e.2 a)
    (s.map.asteroids.zipIdx (s.map.controlPoints.length + 1)) b.asteroids
  rest : b = { Battle.empty s.map.radius s.settings with
    scoreLimit := s.map.rules.score
    controlPoints := b.controlPoints
    asteroids := b.asteroids
    nextId := s.firstShip }

omit [Scalar α] in
/-- A loop that adds one object for every site adds them in order, under ascending numbers. -/
theorem vets_foldlM_of_sites {β γ : Type} {stands : γ → ObjectId → β → Prop}
    {f : Battle α π δ → γ → Except (SetupError α) (Battle α π δ)}
    {faultsOf : γ → List (SetupError α)} (put : List β → ObjectId → Battle α π δ)
    (hf : ∀ placed n site, Vets (f (put placed n) site) (faultsOf site) fun b =>
      ∃ x, stands site n x ∧ b = put (placed ++ [x]) (n + 1))
    (sites : List γ) (n : ObjectId) :
    Vets (sites.foldlM f (put [] n)) (sites.flatMap faultsOf) fun b => ∃ placed,
      List.Forall₂ (fun e x => stands e.1 e.2 x) (sites.zipIdx n) placed ∧
        b = put placed (n + sites.length) := by
  refine Vets.foldlM (I := fun before b => ∃ placed,
    List.Forall₂ (fun e x => stands e.1 e.2 x) (before.zipIdx n) placed ∧
      b = put placed (n + before.length)) ?_ sites ⟨[], .nil, rfl⟩
  rintro before b site ⟨placed, hplaced, rfl⟩
  apply (hf placed (n + before.length) site).mono
  rintro c ⟨x, hx, rfl⟩
  refine ⟨placed ++ [x], ?_, ?_⟩
  · rw [List.zipIdx_append]
    exact List.rel_append hplaced (.cons hx .nil)
  · rw [List.length_append, List.length_singleton, Nat.add_assoc]

theorem vets_layout : Vets s.layout
    (s.map.controlPoints.flatMap (fun p => placeFaults p.position) ++
      s.map.asteroids.flatMap fun a => placeFaults a.position) s.IsArena := by
  let b : Battle α π δ := { Battle.empty s.map.radius s.settings with
    scoreLimit := s.map.rules.score }
  have hpoint (placed : List (ControlPoint α)) (n : ObjectId) (p : PointSite α) :
      Vets (placePoint { b with controlPoints := placed, nextId := n } p) (placeFaults p.position)
        fun c => ∃ x, p.Stands n x ∧
          c = { b with controlPoints := placed ++ [x], nextId := n + 1 } :=
    (vets_ofCoordinates p.position).answers.finish fun position h =>
      .pure ⟨_, ⟨position, h, rfl⟩, rfl⟩
  apply (vets_foldlM_of_sites (fun placed n => { b with controlPoints := placed, nextId := n })
    hpoint s.map.controlPoints 1).bind
  rintro c ⟨points, hpoints, rfl⟩
  have hrock (placed : List (Asteroid α)) (n : ObjectId) (a : AsteroidSite α) :
      Vets (placeAsteroid { b with controlPoints := points, asteroids := placed, nextId := n } a)
        (placeFaults a.position) fun c => ∃ x, a.Stands n x ∧
          c = { b with controlPoints := points, asteroids := placed ++ [x], nextId := n + 1 } :=
    (vets_ofCoordinates a.position).answers.finish fun position h =>
      .pure ⟨_, ⟨position, h, rfl⟩, rfl⟩
  have hnext : 1 + s.map.controlPoints.length = s.map.controlPoints.length + 1 := Nat.add_comm _ _
  rw [hnext]
  apply (vets_foldlM_of_sites
    (fun placed n => { b with controlPoints := points, asteroids := placed, nextId := n })
    hrock s.map.asteroids (s.map.controlPoints.length + 1)).mono
  rintro c ⟨rocks, hrocks, rfl⟩
  have hfirst : s.map.controlPoints.length + 1 + s.map.asteroids.length = s.firstShip :=
    Nat.add_right_comm _ _ _
  refine ⟨hpoints, hrocks, ?_⟩
  rw [hfirst]

end Setup
end FleetArena
