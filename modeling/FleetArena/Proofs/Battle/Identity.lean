import FleetArena.Proofs.Battle.Moves
import FleetArena.Proofs.Battle.Run
import FleetArena.Proofs.Scoring.Phases

/-! The identity of objects over a run. A new object takes the next number, no number comes back,
and under its number an object keeps all that neither motion nor damage changes. -/
namespace FleetArena
open scoped List
variable {α π δ β : Type}

/-- The number of a ship, and what stays as it is under that number. -/
def Ship.tag (s : Ship α π) : ObjectId × String :=
  (s.id, s.fleet)

def ControlPoint.tag (p : ControlPoint α) : ObjectId × α × α × α × α :=
  (p.body.id, p.body.mass, p.body.radius, p.points, p.influence)

def Asteroid.tag (a : Asteroid α) : ObjectId × α × α × String :=
  (a.body.id, a.body.mass, a.body.radius, a.texture)

def Projectile.tag (p : Projectile α) : ObjectId × α × α :=
  (p.body.id, p.body.mass, p.body.radius)

/-- Some of the old tags are kept in order, and behind them are those of new objects, with ascending
numbers from `n` on and below `m`. -/
def Renewed (n m : ObjectId) (old new : List (ObjectId × β)) : Prop :=
  ∃ kept fresh, new = kept ++ fresh ∧ kept <+ old ∧ (fresh.map (·.1)).Pairwise (· < ·) ∧
    ∀ e ∈ fresh, n ≤ e.1 ∧ e.1 < m

namespace Renewed
variable {n m k : ObjectId} {old new newer fresh : List (ObjectId × β)}

theorem of_sublist (h : new <+ old) (n m : ObjectId) : Renewed n m old new :=
  ⟨new, [], (List.append_nil _).symm, h, .nil, List.forall_mem_nil _⟩

theorem refl (n m : ObjectId) (old : List (ObjectId × β)) : Renewed n m old old :=
  .of_sublist (.refl _) n m

theorem append_of_sublist {count : Nat} (old : List (ObjectId × β))
    (hids : fresh.map (·.1) <+ List.range' n count) :
    Renewed n (n + count) old (old ++ fresh) := by
  have hsorted : (fresh.map (·.1)).Pairwise (· < ·) :=
    List.Pairwise.sublist hids List.pairwise_lt_range'
  refine ⟨old, fresh, rfl, .refl _, hsorted, fun e he => ?_⟩
  exact List.mem_range'_1.mp (hids.subset (List.mem_map_of_mem he))

theorem trans (h : Renewed n m old new) (h' : Renewed m k new newer) (hnm : n ≤ m) (hmk : m ≤ k) :
    Renewed n k old newer := by
  obtain ⟨kept, fresh, rfl, hkept, hids, hrange⟩ := h
  obtain ⟨kept', fresh', rfl, hkept', hids', hrange'⟩ := h'
  -- what is kept is partly old and partly new, and both is older than what comes behind it
  obtain ⟨stays, recent, rfl, hstays, hrecent⟩ := List.sublist_append_iff.mp hkept'
  refine ⟨stays, recent ++ fresh', List.append_assoc _ _ _, hstays.trans hkept, ?_, ?_⟩
  · rw [List.map_append, List.pairwise_append]
    refine ⟨hids.sublist (hrecent.map _), hids', ?_⟩
    simp only [List.forall_mem_map]
    intro e he e' he'
    exact (hrange e (hrecent.subset he)).2.trans_le (hrange' e' he').1
  · rw [List.forall_mem_append]
    refine ⟨fun e he => ?_, fun e he => ?_⟩
    · obtain ⟨hlow, hhigh⟩ := hrange e (hrecent.subset he)
      exact ⟨hlow, hhigh.trans_le hmk⟩
    · obtain ⟨hlow, hhigh⟩ := hrange' e he
      exact ⟨hnm.trans hlow, hhigh⟩

theorem pairwise (h : Renewed n m old new) (hids : (old.map (·.1)).Pairwise (· < ·))
    (hold : ∀ e ∈ old, e.1 < n) : (new.map (·.1)).Pairwise (· < ·) := by
  obtain ⟨kept, fresh, rfl, hkept, hfresh, hrange⟩ := h
  rw [List.map_append, List.pairwise_append]
  refine ⟨hids.sublist (hkept.map _), hfresh, ?_⟩
  simp only [List.forall_mem_map]
  intro e he e' he'
  exact (hold e (hkept.subset he)).trans_le (hrange e' he').1

/-- What has an old number is an old object. -/
theorem mem_of_lt (h : Renewed n m old new) : ∀ e ∈ new, e.1 < n → e ∈ old := by
  obtain ⟨kept, fresh, rfl, hkept, -, hrange⟩ := h
  rw [List.forall_mem_append]
  refine ⟨fun e he _ => hkept.subset he, fun e he hlt => ?_⟩
  exact absurd (hrange e he).1 (Nat.not_le.mpr hlt)

end Renewed

namespace Battle

/-- The fleet of every ship has a score. -/
def Registered (b : Battle α π δ) : Prop :=
  ∀ s ∈ b.ships, s.fleet ∈ b.scores.keys

/-- What `c` has of `b`, when new objects have taken the numbers `taken` in between. -/
structure Renews (b c : Battle α π δ) (taken : List ObjectId) : Prop where
  numbers : taken = List.range' b.nextId taken.length
  nextId : c.nextId = b.nextId + taken.length
  ids : c.ids <+~ taken ++ b.ids
  ships : Renewed b.nextId c.nextId (b.ships.map Ship.tag) (c.ships.map Ship.tag)
  controlPoints : Renewed b.nextId c.nextId (b.controlPoints.map ControlPoint.tag)
    (c.controlPoints.map ControlPoint.tag)
  asteroids : Renewed b.nextId c.nextId (b.asteroids.map Asteroid.tag)
    (c.asteroids.map Asteroid.tag)
  projectiles : Renewed b.nextId c.nextId (b.projectiles.map Projectile.tag)
    (c.projectiles.map Projectile.tag)
  pointsStay : b.controlPoints.map ControlPoint.tag <+: c.controlPoints.map ControlPoint.tag
  rocksStay : b.asteroids.map Asteroid.tag <+: c.asteroids.map Asteroid.tag
  scores : b.scores.keys ⊆ c.scores.keys
  registered : b.Registered → c.Registered

theorem ids_eq_tags (b : Battle α π δ) : b.ids =
    (b.ships.map Ship.tag).map (·.1) ++ (b.controlPoints.map ControlPoint.tag).map (·.1) ++
      (b.asteroids.map Asteroid.tag).map (·.1) ++ (b.projectiles.map Projectile.tag).map (·.1) := by
  simp only [ids_eq, List.map_map]
  rfl

variable {b c d : Battle α π δ} {taken taken' : List ObjectId}

/-- Ships and projectiles may be gone, and nothing is new. -/
theorem renews_of_sublist (hships : c.ships.map Ship.tag <+ b.ships.map Ship.tag)
    (hpoints : c.controlPoints.map ControlPoint.tag = b.controlPoints.map ControlPoint.tag)
    (hrocks : c.asteroids.map Asteroid.tag = b.asteroids.map Asteroid.tag)
    (hshots : c.projectiles.map Projectile.tag <+ b.projectiles.map Projectile.tag)
    (hnext : c.nextId = b.nextId) (hscores : b.scores.keys ⊆ c.scores.keys) : b.Renews c [] where
  numbers := rfl
  nextId := hnext
  ids := by
    rw [ids_eq_tags, ids_eq_tags, hpoints, hrocks]
    exact (((hships.map _).append_right _ |>.append_right _).append (hshots.map _)).subperm
  ships := .of_sublist hships _ _
  controlPoints := hpoints ▸ .refl _ _ _
  asteroids := hrocks ▸ .refl _ _ _
  projectiles := .of_sublist hshots _ _
  pointsStay := hpoints ▸ List.prefix_rfl
  rocksStay := hrocks ▸ List.prefix_rfl
  scores := hscores
  registered h s hs := by
    obtain ⟨r, hr, htag⟩ := List.mem_map.mp (hships.subset (List.mem_map_of_mem hs))
    have hfleet : r.fleet = s.fleet := congrArg Prod.snd htag
    exact hfleet ▸ hscores (h r hr)

/-- Behind the objects that were there are new ones, which have the next numbers in the order of the
bodies. -/
theorem renews_of_append {count : Nat} {ships : List (ObjectId × String)}
    {points : List (ObjectId × α × α × α × α)} {rocks : List (ObjectId × α × α × String)}
    {shots : List (ObjectId × α × α)}
    (hships : c.ships.map Ship.tag = b.ships.map Ship.tag ++ ships)
    (hpoints : c.controlPoints.map ControlPoint.tag =
      b.controlPoints.map ControlPoint.tag ++ points)
    (hrocks : c.asteroids.map Asteroid.tag = b.asteroids.map Asteroid.tag ++ rocks)
    (hshots : c.projectiles.map Projectile.tag = b.projectiles.map Projectile.tag ++ shots)
    (hnumbers : ships.map (·.1) ++ points.map (·.1) ++ rocks.map (·.1) ++ shots.map (·.1) =
      List.range' b.nextId count)
    (hnext : c.nextId = b.nextId + count) (hscores : b.scores.keys ⊆ c.scores.keys)
    (hfleets : ∀ e ∈ ships, e.2 ∈ c.scores.keys) : b.Renews c (List.range' b.nextId count) where
  numbers := by rw [List.length_range']
  nextId := by rw [hnext, List.length_range']
  ids := by
    apply List.Perm.subperm
    rw [ids_eq_tags, ids_eq_tags, hships, hpoints, hrocks, hshots, ← hnumbers]
    apply List.perm_iff_count.mpr
    intro id
    simp only [List.map_append, List.count_append]
    omega
  ships := by
    rw [hships, hnext]
    refine .append_of_sublist _ (hnumbers ▸ ?_)
    simp only [List.append_assoc]
    exact List.sublist_append_left _ _
  controlPoints := by
    rw [hpoints, hnext]
    refine .append_of_sublist _ (hnumbers ▸ ?_)
    simp only [List.append_assoc]
    exact (List.sublist_append_left _ _).trans (List.sublist_append_right _ _)
  asteroids := by
    rw [hrocks, hnext]
    refine .append_of_sublist _ (hnumbers ▸ ?_)
    exact (List.sublist_append_right _ _).trans (List.sublist_append_left _ _)
  projectiles := by
    rw [hshots, hnext]
    exact .append_of_sublist _ (hnumbers ▸ List.sublist_append_right _ _)
  pointsStay := hpoints ▸ List.prefix_append _ _
  rocksStay := hrocks ▸ List.prefix_append _ _
  scores := hscores
  registered h s hs := by
    have htag : s.tag ∈ b.ships.map Ship.tag ++ ships := hships ▸ List.mem_map_of_mem hs
    rcases List.mem_append.mp htag with hold | hnew
    · obtain ⟨r, hr, htag⟩ := List.mem_map.mp hold
      have hfleet : r.fleet = s.fleet := congrArg Prod.snd htag
      exact hfleet ▸ hscores (h r hr)
    · exact hfleets _ hnew

theorem Renews.refl (b : Battle α π δ) : b.Renews b [] :=
  renews_of_sublist (.refl _) rfl rfl (.refl _) rfl (List.Subset.refl _)

theorem Renews.trans (h : b.Renews c taken) (h' : c.Renews d taken') :
    b.Renews d (taken ++ taken') := by
  have hbc : b.nextId ≤ c.nextId := h.nextId ▸ Nat.le_add_right _ _
  have hcd : c.nextId ≤ d.nextId := h'.nextId ▸ Nat.le_add_right _ _
  exact {
    numbers := by
      rw [List.length_append, ← List.range'_append_1, ← h.numbers, ← h.nextId, ← h'.numbers]
    nextId := by rw [h'.nextId, h.nextId, List.length_append, Nat.add_assoc]
    ids := by
      have hc : taken' ++ c.ids <+~ taken' ++ (taken ++ b.ids) :=
        (List.subperm_append_left _).mpr h.ids
      have hcomm : taken' ++ (taken ++ b.ids) ~ taken ++ taken' ++ b.ids := by
        rw [← List.append_assoc]
        exact List.perm_append_comm.append_right _
      exact (h'.ids.trans hc).trans hcomm.subperm
    ships := h.ships.trans h'.ships hbc hcd
    controlPoints := h.controlPoints.trans h'.controlPoints hbc hcd
    asteroids := h.asteroids.trans h'.asteroids hbc hcd
    projectiles := h.projectiles.trans h'.projectiles hbc hcd
    pointsStay := h.pointsStay.trans h'.pointsStay
    rocksStay := h.rocksStay.trans h'.rocksStay
    scores := List.Subset.trans h.scores h'.scores
    registered := fun hb => h'.registered (h.registered hb) }

/-- In a run that begins with an empty arena the numbers ascend in every list. -/
theorem Renews.ascending [Scalar α] {arenaRadius : α} {settings : Settings α}
    (h : (empty arenaRadius settings : Battle α π δ).Renews c taken) :
    (c.ships.map Ship.id).Pairwise (· < ·) ∧ (c.controlPoints.map (·.body.id)).Pairwise (· < ·) ∧
      (c.asteroids.map (·.body.id)).Pairwise (· < ·) ∧
      (c.projectiles.map (·.body.id)).Pairwise (· < ·) := by
  have hships := h.ships.pairwise .nil (List.forall_mem_nil _)
  have hpoints := h.controlPoints.pairwise .nil (List.forall_mem_nil _)
  have hrocks := h.asteroids.pairwise .nil (List.forall_mem_nil _)
  have hshots := h.projectiles.pairwise .nil (List.forall_mem_nil _)
  rw [List.map_map] at hships hpoints hrocks hshots
  exact ⟨hships, hpoints, hrocks, hshots⟩

/-- In such a run the objects have different numbers, which have all been given. -/
theorem Renews.numbered [Scalar α] {arenaRadius : α} {settings : Settings α}
    (h : (empty arenaRadius settings : Battle α π δ).Renews c taken) :
    c.ids.Nodup ∧ ∀ id ∈ c.ids, id < c.nextId := by
  have hids : c.ids <+~ List.range' 1 taken.length := by
    have hids := h.ids
    rwa [h.numbers, show (empty arenaRadius settings : Battle α π δ).ids = [] from rfl,
      List.append_nil] at hids
  refine ⟨?_, fun id hid => ?_⟩
  · obtain ⟨l, hl, hsub⟩ := hids
    exact hl.nodup_iff.mp (List.Nodup.sublist hsub List.nodup_range')
  · rw [h.nextId]
    exact (List.mem_range'_1.mp (hids.subset hid)).2

theorem Moves.map_tag_projectiles (h : b.Moves c) :
    c.projectiles.map Projectile.tag = b.projectiles.map Projectile.tag := by
  refine map_eq_of_forall₂ h.projectiles ?_
  rintro p q ⟨y, spent, hy, rfl⟩
  simp only [Projectile.tag, hy.id, hy.mass, hy.radius]

theorem Moves.renews (h : b.Moves c) (hnext : c.nextId = b.nextId) (hscores : c.scores = b.scores) :
    b.Renews c [] := by
  have hships : c.ships.map Ship.tag = b.ships.map Ship.tag := by
    refine map_eq_of_forall₂ h.ships ?_
    rintro s t ⟨y, hy, rfl⟩
    exact Prod.ext hy.id rfl
  have hpoints : c.controlPoints.map ControlPoint.tag = b.controlPoints.map ControlPoint.tag := by
    refine map_eq_of_forall₂ h.controlPoints ?_
    rintro p q ⟨y, hy, rfl⟩
    simp only [ControlPoint.tag, hy.id, hy.mass, hy.radius]
  have hrocks : c.asteroids.map Asteroid.tag = b.asteroids.map Asteroid.tag := by
    refine map_eq_of_forall₂ h.asteroids ?_
    rintro a r ⟨y, hy, rfl⟩
    simp only [Asteroid.tag, hy.id, hy.mass, hy.radius]
  exact renews_of_sublist (hships ▸ .refl _) hpoints hrocks (h.map_tag_projectiles ▸ .refl _) hnext
    (hscores ▸ List.Subset.refl _)

variable [Scalar α]

theorem renews_score (b : Battle α π δ) : b.Renews b.score [] :=
  renews_of_sublist (.refl _) rfl rfl (.refl _) rfl b.subset_keys_score

theorem renews_decide [Pilot α π] (b : Battle α π δ) : b.Renews b.decide [] := by
  have hships : b.decide.ships.map Ship.tag = b.ships.map Ship.tag := by
    rw [decide, List.map_map]
    exact List.map_congr_left fun s _ => Prod.ext (s.id_decide _ _) (s.fleet_decide _ _)
  exact renews_of_sublist (hships ▸ .refl _) rfl rfl (.refl _) rfl (List.Subset.refl _)

theorem renews_launch (b : Battle α π δ) :
    b.Renews b.launch (List.range' b.nextId (b.ships.flatMap (·.shots)).length) := by
  have hships : b.launch.ships.map Ship.tag = b.ships.map Ship.tag := by
    rw [launch_eq, List.map_map]
    rfl
  have hshots : b.launch.projectiles.map Projectile.tag = b.projectiles.map Projectile.tag ++
      ((b.ships.flatMap (·.shots)).zipIdx b.nextId).map fun e => (e.2, e.1.mass, e.1.radius) := by
    rw [launch_eq, List.map_append, List.map_map]
    rfl
  rw [launch_eq] at hships hshots ⊢
  refine renews_of_append (hships.trans (List.append_nil _).symm) (List.append_nil _).symm
    (List.append_nil _).symm hshots ?_ rfl (List.Subset.refl _) (List.forall_mem_nil _)
  simp only [List.map_nil, List.nil_append, List.map_map]
  exact List.zipIdx_map_snd _ _

theorem renews_cull (b : Battle α π δ) : b.Renews b.cull.1 [] := by
  obtain ⟨hships, hshots⟩ := b.sublist_cull
  exact renews_of_sublist (hships.map _) rfl rfl (hshots.map _) rfl (List.Subset.refl _)

variable [Drawer α δ]

theorem renews_start (b : Battle α π δ) : b.Renews b.start [] := by
  obtain ⟨drawer, drawn, deleted, h⟩ := b.exists_start_eq
  rw [h]
  exact renews_of_sublist (.refl _) rfl rfl (.refl _) rfl (List.Subset.refl _)

variable [Pilot α π]

/-- The numbers that an edit gives to new objects. -/
def editNumbers (b : Battle α π δ) : Edit α π → List ObjectId
  | .fleet _ | .scoreLimit _ => []
  | .ship fleet position pilot parts =>
    (b.enlist fleet position pilot parts).2.toOption.toList
  | .controlPoint position radius mass points influence =>
    [(b.addControlPoint position radius mass points influence).1]
  | .asteroid position radius mass texture => [(b.addAsteroid position radius mass texture).1]

/-- The numbers that an event gives to new objects. -/
def numbers (b : Battle α π δ) : Event α π δ → List ObjectId
  | .operation (.edit e) => b.editNumbers e
  | .operation .step => b.salvo.map (·.body.id)
  | .drawer _ => []

/-- All numbers that are given to new objects in a run, in this order. -/
def allNumbers : List (Event α π δ) → Battle α π δ → List ObjectId
  | [], _ => []
  | e :: rest, b => b.numbers e ++ allNumbers rest (b.handle e)

theorem allNumbers_append (events later : List (Event α π δ)) (b : Battle α π δ) :
    b.allNumbers (events ++ later) =
      b.allNumbers events ++ (b.handleAll events).allNumbers later := by
  induction events generalizing b with
  | nil => rfl
  | cons e rest ih =>
    rw [List.cons_append, allNumbers, ih, allNumbers, List.append_assoc]
    rfl

omit [Drawer α δ] [Pilot α π] in
theorem renews_edit (b : Battle α π δ) (e : Edit α π) :
    b.Renews (b.edit e) (b.editNumbers e) := by
  cases e with
  | fleet name =>
    exact renews_of_sublist (.refl _) rfl rfl (.refl _) rfl (Table.subset_keys_alter _ _ _)
  | scoreLimit limit => exact renews_of_sublist (.refl _) rfl rfl (.refl _) rfl (List.Subset.refl _)
  | ship fleet position pilot parts =>
    rw [edit, editNumbers]
    rcases b.enlist_cases fleet position pilot parts with ⟨e, -, hrefused⟩ | ⟨-, hadded⟩
    · rw [hrefused]
      exact .refl b
    · rw [hadded]
      have hkeys : b.scores.keys ⊆ (b.addFleet fleet).scores.keys :=
        Table.subset_keys_alter _ _ _
      have hfleet : ∀ e ∈ [(b.nextId, fleet)], e.2 ∈ (b.addFleet fleet).scores.keys :=
        List.forall_mem_singleton.mpr (Table.mem_keys_alter _ _ _)
      change b.Renews _ (List.range' b.nextId 1)
      exact renews_of_append List.map_append (List.append_nil _).symm
        (List.append_nil _).symm (List.append_nil _).symm rfl rfl hkeys hfleet
  | controlPoint position radius mass points influence =>
    change b.Renews _ (List.range' b.nextId 1)
    exact renews_of_append (List.append_nil _).symm List.map_append
      (List.append_nil _).symm (List.append_nil _).symm rfl rfl (List.Subset.refl _)
      (List.forall_mem_nil _)
  | asteroid position radius mass texture =>
    change b.Renews _ (List.range' b.nextId 1)
    exact renews_of_append (List.append_nil _).symm (List.append_nil _).symm
      List.map_append (List.append_nil _).symm rfl rfl (List.Subset.refl _) (List.forall_mem_nil _)

theorem renews_launched (b : Battle α π δ) :
    b.Renews b.launched (List.range' b.nextId b.fired.length) := by
  have hnext : b.start.score.decide.nextId = b.nextId := by
    obtain ⟨drawer, drawn, deleted, hstart⟩ := b.exists_start_eq
    rw [hstart]
    rfl
  have hlaunch := renews_launch b.start.score.decide
  rw [hnext] at hlaunch
  exact ((b.renews_start.trans (renews_score _)).trans (renews_decide _)).trans hlaunch

theorem renews_move (b : Battle α π δ) :
    b.Renews b.start.move (List.range' b.nextId b.fired.length) := by
  have h := b.renews_launched.trans ((moves_integrate b.launched).renews rfl rfl)
  rwa [List.append_nil] at h

theorem renews_step (b : Battle α π δ) : b.Renews b.step.battle (b.salvo.map (·.body.id)) := by
  cases hh : b.halted with
  | true =>
    rw [step_of_halted hh, salvo_of_halted hh]
    exact .refl b
  | false =>
    -- wherever a step ends, its projectiles are in the arena by then
    have hquiet {c d : Battle α π δ} {taken : List ObjectId} (h : b.Renews c taken)
        (h' : c.Renews d []) : b.Renews d taken := by
      have := h.trans h'
      rwa [List.append_nil] at this
    have hmove : b.Renews b.start.move (b.salvo.map (·.body.id)) := by
      rw [map_id_salvo, length_salvo hh]
      exact b.renews_move
    have hcollide := hquiet hmove ((moves_collide _).renews rfl rfl)
    refine step_induction (P := fun c => b.Renews c (b.salvo.map (·.body.id))) hh hmove hcollide
      (hquiet hcollide (renews_cull _)) fun c _ _ _ _ _ h => hquiet h ?_
    exact renews_of_sublist (.refl _) rfl rfl (.refl _) rfl (List.Subset.refl _)

theorem renews_handle (b : Battle α π δ) (e : Event α π δ) :
    b.Renews (b.handle e) (b.numbers e) := by
  match e with
  | .operation (.edit e) => exact b.renews_edit e
  | .operation .step => exact b.renews_step
  | .drawer drawer => exact renews_of_sublist (.refl _) rfl rfl (.refl _) rfl (List.Subset.refl _)

theorem renews_handleAll (events : List (Event α π δ)) (b : Battle α π δ) :
    b.Renews (b.handleAll events) (b.allNumbers events) := by
  induction events generalizing b with
  | nil => exact .refl b
  | cons e rest ih => exact (b.renews_handle e).trans (ih _)

/-- In a run that begins with an empty arena no number is given twice, and the objects in the arena
have different ones of those that were given, in ascending order in each list. What has an old
number is an old object; control points, asteroids and the fleets of the scores stay. A ship that is
refused leaves nothing behind. -/
theorem identity_handleAll (arenaRadius : α) (settings : Settings α)
    (events later : List (Event α π δ)) :
    let origin : Battle α π δ := empty arenaRadius settings
    let b := origin.handleAll events
    let c := b.handleAll later
    (origin.allNumbers (events ++ later)).Nodup ∧ c.ids.Nodup ∧
      (∀ id ∈ c.ids, id < c.nextId ∧ id ∈ origin.allNumbers (events ++ later)) ∧
      (c.ships.map Ship.id).Pairwise (· < ·) ∧
      (c.controlPoints.map (·.body.id)).Pairwise (· < ·) ∧
      (c.asteroids.map (·.body.id)).Pairwise (· < ·) ∧
      (c.projectiles.map (·.body.id)).Pairwise (· < ·) ∧
      (∀ id ∈ b.allNumbers later, b.nextId ≤ id) ∧
      (∀ s ∈ c.ships, s.id < b.nextId → ∃ r ∈ b.ships, r.tag = s.tag) ∧
      (∀ p ∈ c.projectiles, p.body.id < b.nextId → ∃ q ∈ b.projectiles, q.tag = p.tag) ∧
      b.controlPoints.map ControlPoint.tag <+: c.controlPoints.map ControlPoint.tag ∧
      b.asteroids.map Asteroid.tag <+: c.asteroids.map Asteroid.tag ∧
      (∀ s ∈ c.ships, s.fleet ∈ c.scores.keys) ∧ b.scores.keys ⊆ c.scores.keys ∧
      ∀ fleet position pilot parts e, (c.enlist fleet position pilot parts).2 = .error e →
        (c.enlist fleet position pilot parts).1 = c ∧
          c.edit (.ship fleet position pilot parts) = c ∧
          c.editNumbers (.ship fleet position pilot parts) = [] := by
  intro origin b c
  have hlater : b.Renews c (b.allNumbers later) := renews_handleAll later b
  have hall : origin.Renews c (origin.allNumbers (events ++ later)) := by
    rw [allNumbers_append]
    exact (renews_handleAll events origin).trans hlater
  have hnodup : (origin.allNumbers (events ++ later)).Nodup := by
    rw [hall.numbers]
    exact List.nodup_range'
  have hids : c.ids <+~ origin.allNumbers (events ++ later) := by
    have h := hall.ids
    rwa [show origin.ids = [] from rfl, List.append_nil] at h
  obtain ⟨hships, hpoints, hrocks, hshots⟩ := hall.ascending
  have hregistered := hall.registered (List.forall_mem_nil _)
  refine ⟨hnodup, ?_, fun id hid => ⟨?_, hids.subset hid⟩, hships, hpoints, hrocks, hshots,
    fun id hid => ?_, ?_, ?_, hlater.pointsStay, hlater.rocksStay, hregistered, hlater.scores, ?_⟩
  · obtain ⟨l, hl, hsub⟩ := hids
    exact hl.nodup_iff.mp (hnodup.sublist hsub)
  · have hgiven := hids.subset hid
    rw [hall.numbers] at hgiven
    rw [hall.nextId]
    exact (List.mem_range'_1.mp hgiven).2
  · rw [hlater.numbers] at hid
    exact (List.mem_range'_1.mp hid).1
  · intro s hs hlt
    exact List.mem_map.mp (hlater.ships.mem_of_lt s.tag (List.mem_map_of_mem hs) hlt)
  · intro p hp hlt
    exact List.mem_map.mp (hlater.projectiles.mem_of_lt p.tag (List.mem_map_of_mem hp) hlt)
  · intro fleet position pilot parts e herror
    rcases c.enlist_cases fleet position pilot parts with ⟨_, -, hrefused⟩ | ⟨-, hadded⟩
    · rw [edit, editNumbers, hrefused]
      exact ⟨rfl, rfl, rfl⟩
    · rw [hadded] at herror
      cases herror

end Battle
end FleetArena
