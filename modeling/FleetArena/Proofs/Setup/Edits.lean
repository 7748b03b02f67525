import FleetArena.Proofs.Battle.Operation
import FleetArena.Proofs.Vessel.Build
import FleetArena.Setup

/-! A battle that is built from a setup is an empty arena with edits, and the setup has passed its
checks. Nothing depends on what state the pilot factories keep. -/
namespace FleetArena
variable {α σ π δ ε β γ : Type}

/-- A computation with a state may end in a result. -/
def Yields (x : ExceptT ε (StateM σ) β) (b : β) : Prop :=
  ∃ t t', x.run.run t = (.ok b, t')

theorem run_bind (x : ExceptT ε (StateM σ) β) (f : β → ExceptT ε (StateM σ) γ) (t : σ) :
    (x >>= f).run.run t =
      match x.run.run t with
      | (.ok b, u) => (f b).run.run u
      | (.error e, u) => (.error e, u) := by
  change (fun p : Except ε β × σ => ExceptT.bindCont f p.1 p.2) (x.run.run t) = _
  generalize x.run.run t = p
  obtain ⟨r, u⟩ := p
  cases r <;> rfl

section
variable {t u v : σ} {c : γ}

theorem run_ok_of_bind {x : ExceptT ε (StateM σ) β} {f : β → ExceptT ε (StateM σ) γ}
    (h : (x >>= f).run.run t = (.ok c, v)) :
    ∃ b u, x.run.run t = (.ok b, u) ∧ (f b).run.run u = (.ok c, v) := by
  rw [run_bind] at h
  cases hx : x.run.run t with
  | mk r u =>
    rw [hx] at h
    cases r with
    | error e => cases h
    | ok b => exact ⟨b, u, rfl, h⟩

theorem run_ok_of_ofExcept_bind {x : Except ε β} {f : β → ExceptT ε (StateM σ) γ}
    (h : (MonadExcept.ofExcept x >>= f).run.run t = (.ok c, v)) :
    ∃ b, x = .ok b ∧ (f b).run.run t = (.ok c, v) := by
  cases x with
  | error e => cases h
  | ok b => exact ⟨b, rfl, h⟩

theorem run_mapM_append {f : β → ExceptT ε (StateM σ) γ} {xs ys : List β} {bs cs : List γ}
    (hx : (xs.mapM f).run.run t = (.ok bs, u)) (hy : (ys.mapM f).run.run u = (.ok cs, v)) :
    ((xs ++ ys).mapM f).run.run t = (.ok (bs ++ cs), v) := by
  rw [List.mapM_append, run_bind, hx]
  dsimp only
  rw [run_bind, hy]
  rfl

/-- What every step of a loop makes of the members before and of its own holds at the end of all
members. -/
theorem run_foldlM_induction {f : β → γ → ExceptT ε (StateM σ) β} {l : List γ} {b c : β}
    (h : (l.foldlM f b).run.run t = (.ok c, u)) (motive : List γ → β → σ → Prop)
    (hstart : motive [] b t)
    (hstep : ∀ before g b b' t t', motive before b t → (f b g).run.run t = (.ok b', t') →
      motive (before ++ [g]) b' t') : motive l c u := by
  have hrest (rest before : List γ) (b : β) (t : σ) (hb : motive before b t)
      (h : (rest.foldlM f b).run.run t = (.ok c, u)) : motive (before ++ rest) c u := by
    induction rest generalizing before b t with
    | nil =>
      cases h
      rw [List.append_nil]
      exact hb
    | cons g rest ih =>
      rw [List.foldlM_cons] at h
      obtain ⟨b', t', hg, h⟩ := run_ok_of_bind h
      rw [List.append_cons]
      exact ih _ b' t' (hstep before g b b' t t' hb hg) h
  exact hrest l [] b t hstart h

end

theorem Yields.of_bind {x : ExceptT ε (StateM σ) β} {f : β → ExceptT ε (StateM σ) γ} {c : γ}
    (h : Yields (x >>= f) c) : ∃ b, Yields x b ∧ Yields (f b) c := by
  obtain ⟨t, t', h⟩ := h
  obtain ⟨b, u, hx, hf⟩ := run_ok_of_bind h
  exact ⟨b, ⟨t, u, hx⟩, ⟨u, t', hf⟩⟩

/-- Without a state to remember a computation goes on from any result it may have. -/
theorem Yields.bind {x : ExceptT ε (StateM Unit) β} {f : β → ExceptT ε (StateM Unit) γ} {b : β}
    {c : γ} (h : Yields x b) (h' : Yields (f b) c) : Yields (x >>= f) c := by
  obtain ⟨t, u, h⟩ := h
  obtain ⟨t', u', h'⟩ := h'
  refine ⟨t, u', ?_⟩
  rw [run_bind, h]
  exact h'

theorem yields_pure [Inhabited σ] (b : β) : Yields (pure b : ExceptT ε (StateM σ) β) b :=
  ⟨default, default, rfl⟩

theorem yields_ofExcept [Inhabited σ] {x : Except ε β} {b : β} (h : x = .ok b) :
    Yields (MonadExcept.ofExcept x : ExceptT ε (StateM σ) β) b := by
  rw [h]
  exact yields_pure b

theorem Yields.of_pure {b c : β} (h : Yields (pure b : ExceptT ε (StateM σ) β) c) : b = c := by
  obtain ⟨t, t', h⟩ := h
  cases h
  rfl

theorem not_yields_throw {e : ε} {b : β} : ¬Yields (throw e : ExceptT ε (StateM σ) β) b := by
  rintro ⟨t, t', h⟩
  cases h

theorem Yields.of_ofExcept {x : Except ε β} {b : β}
    (h : Yields (MonadExcept.ofExcept x : ExceptT ε (StateM σ) β) b) : x = .ok b := by
  cases x with
  | error e => exact absurd h not_yields_throw
  | ok c => exact congrArg _ h.of_pure

/-- What every step of a loop preserves holds at its end. -/
theorem Yields.foldlM_induction {f : β → γ → ExceptT ε (StateM σ) β} {l : List γ} {b c : β}
    (h : Yields (l.foldlM f b) c) (motive : List γ → β → Prop) (hend : motive [] c)
    (hstep : ∀ g rest b b', Yields (f b g) b' → motive rest b' → motive (g :: rest) b) :
    motive l b := by
  induction l generalizing b with
  | nil => exact h.of_pure ▸ hend
  | cons g rest ih =>
    rw [List.foldlM_cons] at h
    obtain ⟨b', hb', hrest⟩ := h.of_bind
    exact hstep g rest b b' hb' (ih hrest)

theorem ok_of_bind {x : Except ε β} {f : β → Except ε γ} {c : γ} (h : (x >>= f) = .ok c) :
    ∃ b, x = .ok b ∧ f b = .ok c := by
  cases x with
  | error e => cases h
  | ok b => exact ⟨b, rfl, h⟩

theorem ok_of_forM {f : β → Except ε PUnit} {l : List β} {u : PUnit} (h : l.forM f = .ok u) :
    ∀ b ∈ l, f b = .ok () := by
  induction l with
  | nil => simp
  | cons b rest ih =>
    obtain ⟨u', hb, hrest⟩ := ok_of_bind h
    exact List.forall_mem_cons.mpr ⟨hb, ih hrest⟩

namespace Setup
variable [Scalar α] {m : Type → Type}

omit [Scalar α] in
theorem not_of_failIf {bad : Bool} {fault : ConfigFault α} {u : Unit}
    (h : failIf bad fault = .ok u) : bad = false := by
  cases bad with
  | true => cases h
  | false => rfl

/-- What the check of a setup has made sure of as to its clock and its control points. -/
theorem sound_of_check {s : Setup α m π δ} (h : s.check = .ok ()) :
    Part.isPositive s.settings.tickSeconds = true ∧
      (∀ p ∈ s.map.controlPoints, Scalar.isFinite p.points = true) ∧
      s.fleets.length ≤ s.map.startingPoints.length := by
  -- the clock, the frames, the tick limit, the arena, the control points and the asteroids in turn
  obtain ⟨_, hdt, h⟩ := ok_of_bind h
  obtain ⟨_, _, h⟩ := ok_of_bind h
  obtain ⟨_, _, h⟩ := ok_of_bind h
  obtain ⟨_, _, h⟩ := ok_of_bind h
  obtain ⟨_, hpoints, h⟩ := ok_of_bind h
  obtain ⟨_, _, h⟩ := ok_of_bind h
  refine ⟨by simpa using not_of_failIf hdt, fun p hp => ?_, ?_⟩
  · obtain ⟨_, _, hscoring⟩ := ok_of_bind (ok_of_forM hpoints p hp)
    have := not_of_failIf hscoring
    simp only [Bool.or_eq_false_iff, Bool.not_eq_false'] at this
    exact this.2
  · split at h
    · cases h
    · split at h
      · cases h
      · omega

theorem sound_of_checkBody {object : MapObject} {radius mass : α} {u : Unit}
    (h : checkBody object radius mass = .ok u) :
    Scalar.isNaN mass = false ∧ ¬mass ≤ 0.0 ∧ Part.isNonNegative radius = true := by
  obtain ⟨_, hmass, hradius⟩ := ok_of_bind h
  have hmass' := not_of_failIf hmass
  simp only [Bool.or_eq_false_iff, decide_eq_false_iff_not] at hmass'
  have hradius' := not_of_failIf hradius
  rw [Bool.not_eq_false'] at hradius'
  exact ⟨hmass'.1, hmass'.2, hradius'⟩

/-- What the check has made sure of as to the bodies of the map. -/
theorem bodies_of_check {s : Setup α m π δ} (h : s.check = .ok ()) :
    (∀ p ∈ s.map.controlPoints, checkBody .controlPoint p.radius p.mass = .ok ()) ∧
      ∀ a ∈ s.map.asteroids, checkBody .asteroid a.radius a.mass = .ok () := by
  obtain ⟨_, _, h⟩ := ok_of_bind h
  obtain ⟨_, _, h⟩ := ok_of_bind h
  obtain ⟨_, _, h⟩ := ok_of_bind h
  obtain ⟨_, _, h⟩ := ok_of_bind h
  obtain ⟨_, hpoints, h⟩ := ok_of_bind h
  obtain ⟨_, hrocks, h⟩ := ok_of_bind h
  refine ⟨?_, ok_of_forM hrocks⟩
  intro p hp
  obtain ⟨_, hbody, _⟩ := ok_of_bind (ok_of_forM hpoints p hp)
  exact hbody

/-- Whether an edit may come of a setup: control points and asteroids are those of its map. -/
def Admits (s : Setup α m π δ) : Edit α π → Prop
  | .controlPoint _ radius mass points influence => ∃ p ∈ s.map.controlPoints,
    p.radius = radius ∧ p.mass = mass ∧ p.points = points ∧ p.influence = influence
  | .asteroid _ radius mass _ => ∃ a ∈ s.map.asteroids, a.radius = radius ∧ a.mass = mass
  | _ => True

variable {s : Setup α (StateM σ) π δ} {b c : Battle α π δ}

/-- `c` is `b` with edits that may come of a setup. -/
def Edits (s : Setup α (StateM σ) π δ) (b : Battle α π δ) (es : List (Edit α π))
    (c : Battle α π δ) : Prop :=
  c = b.editAll es ∧ ∀ e ∈ es, s.Admits e

theorem Edits.nil : s.Edits b [] b :=
  ⟨rfl, by simp⟩

theorem Edits.cons {e : Edit α π} {es : List (Edit α π)} (he : s.Admits e)
    (h : s.Edits (b.edit e) es c) : s.Edits b (e :: es) c :=
  ⟨h.1, List.forall_mem_cons.mpr ⟨he, h.2⟩⟩

theorem Edits.append {d : Battle α π δ} {es fs : List (Edit α π)} (h : s.Edits b es c)
    (h' : s.Edits c fs d) : s.Edits b (es ++ fs) d := by
  refine ⟨?_, ?_⟩
  · rw [h'.1, h.1, Battle.editAll, Battle.editAll, Battle.editAll, List.foldl_append]
  · rw [List.forall_mem_append]
    exact ⟨h.2, h'.2⟩

theorem exists_edits_of_foldlM {f : Battle α π δ → γ → Except (SetupError α) (Battle α π δ)}
    {l : List γ} (hf : ∀ g ∈ l, ∀ b c, f b g = .ok c → ∃ e, s.Admits e ∧ c = b.edit e)
    (h : l.foldlM f b = .ok c) : ∃ es, s.Edits b es c := by
  induction l generalizing b with
  | nil =>
    obtain rfl : b = c := Except.ok.inj h
    exact ⟨[], .nil⟩
  | cons g rest ih =>
    obtain ⟨hg, hrest⟩ := List.forall_mem_cons.mp hf
    rw [List.foldlM_cons] at h
    obtain ⟨b', hb', h⟩ := ok_of_bind h
    obtain ⟨e, he, rfl⟩ := hg b b' hb'
    obtain ⟨es, hes⟩ := ih hrest h
    exact ⟨e :: es, hes.cons he⟩

theorem exists_edits_of_layout (h : s.layout = .ok c) :
    ∃ es, s.Edits (.empty s.map.radius s.settings) es c := by
  obtain ⟨b, hpoints, hrocks⟩ := ok_of_bind h
  have hpoint : ∀ p ∈ s.map.controlPoints, ∀ b c : Battle α π δ, placePoint b p = .ok c →
      ∃ e, s.Admits e ∧ c = b.edit e := by
    intro p hp b c h
    obtain ⟨position, _, h⟩ := ok_of_bind h
    obtain rfl := Except.ok.inj h
    exact ⟨.controlPoint position p.radius p.mass p.points p.influence,
      ⟨p, hp, rfl, rfl, rfl, rfl⟩, rfl⟩
  have hrock : ∀ a ∈ s.map.asteroids, ∀ b c : Battle α π δ, placeAsteroid b a = .ok c →
      ∃ e, s.Admits e ∧ c = b.edit e := by
    intro a ha b c h
    obtain ⟨position, _, h⟩ := ok_of_bind h
    obtain rfl := Except.ok.inj h
    exact ⟨.asteroid position a.radius a.mass (a.texture.getD "asteroid"), ⟨a, ha, rfl, rfl⟩, rfl⟩
  obtain ⟨es, hes⟩ := exists_edits_of_foldlM hpoint hpoints
  obtain ⟨fs, hfs⟩ := exists_edits_of_foldlM hrock hrocks
  exact ⟨.scoreLimit s.map.rules.score :: (es ++ fs), .cons trivial (hes.append hfs)⟩

variable [Pilot α π]

theorem exists_edit_of_deploy {fleet : String} {origin : Vec3 α} {state state' : Battle α π δ × α}
    {ship : RosterShip α} (h : Yields (s.deploy fleet origin state ship) state') :
    ∃ e, s.Admits e ∧ state'.1 = state.1.edit e := by
  obtain ⟨pilot, _, h⟩ := h.of_bind
  obtain ⟨⟨parts, pilot'⟩, _, h⟩ := h.of_bind
  obtain ⟨offset, _, h⟩ := h.of_bind
  obtain ⟨⟨id, b⟩, hadd, h⟩ := h.of_bind
  obtain rfl := h.of_pure
  refine ⟨.ship fleet (origin + offset) pilot' parts, trivial, ?_⟩
  obtain ⟨hcheck, -, rfl⟩ := Battle.addShip_eq_ok_iff.mp hadd.of_ofExcept
  rw [Battle.edit, Battle.enlist_eq_of_fit hcheck]

/-- A fleet is registered before its ships come. -/
theorem exists_edits_of_muster {entry : RosterFleet α × List α}
    (h : Yields (s.muster b entry) c) : ∃ es, s.Edits b (.fleet entry.1.name :: es) c := by
  obtain ⟨origin, _, h⟩ := h.of_bind
  obtain ⟨⟨b', mass⟩, hships, h⟩ := h.of_bind
  -- every ship that is deployed is one more edit
  have hedits : ∃ es, s.Edits (b.addFleet entry.1.name) es b' := by
    refine hships.foldlM_induction (fun _ state => ∃ es, s.Edits state.1 es b') ⟨[], .nil⟩ ?_
    intro ship rest state state' hdeploy hrest
    obtain ⟨e, he, hstate⟩ := exists_edit_of_deploy hdeploy
    obtain ⟨es, hes⟩ := hrest
    rw [hstate] at hes
    exact ⟨e :: es, hes.cons he⟩
  obtain ⟨es, hes⟩ := hedits
  dsimp only at h
  split at h
  · exact absurd h not_yields_throw
  · obtain rfl := h.of_pure
    exact ⟨es, .cons trivial hes⟩

/-- A battle that is built is an empty arena with edits, and every fleet of the setup is
registered. -/
theorem exists_edits_of_build (h : Yields s.build b) :
    s.check = .ok () ∧ ∃ es : List (Edit α π), (∀ e ∈ es, s.Admits e) ∧
      (∀ f ∈ s.fleets, .fleet f.name ∈ es) ∧
      b = { (Battle.empty s.map.radius s.settings : Battle α π δ).editAll es with
        drawer := s.drawer } := by
  obtain ⟨u, hcheck, h⟩ := h.of_bind
  obtain ⟨c, hlayout, h⟩ := h.of_bind
  obtain ⟨d, hmuster, h⟩ := h.of_bind
  obtain rfl := h.of_pure
  obtain ⟨es, hes⟩ := exists_edits_of_layout hlayout.of_ofExcept
  have hfleets : ∃ fs, s.Edits c fs d ∧
      ∀ f ∈ s.fleets.zip s.map.startingPoints, .fleet f.1.name ∈ fs := by
    refine hmuster.foldlM_induction
      (fun l c => ∃ fs, s.Edits c fs d ∧ ∀ f ∈ l, .fleet f.1.name ∈ fs) ⟨[], .nil, by simp⟩ ?_
    intro entry rest c c' hentry hrest
    obtain ⟨gs, hgs⟩ := exists_edits_of_muster hentry
    obtain ⟨fs, hfs, hmem⟩ := hrest
    refine ⟨_, hgs.append hfs, List.forall_mem_cons.mpr ⟨by simp, fun f hf => ?_⟩⟩
    exact List.mem_append_right _ (hmem f hf)
  obtain ⟨fs, hfs, hmem⟩ := hfleets
  obtain ⟨rfl, hadmits⟩ := hes.append hfs
  refine ⟨hcheck.of_ofExcept, es ++ fs, hadmits, fun f hf => ?_, rfl⟩
  -- there is a starting point for every fleet
  obtain ⟨i, hi, rfl⟩ := List.getElem_of_mem hf
  have hlength := (sound_of_check hcheck.of_ofExcept).2.2
  have hzip : i < (s.fleets.zip s.map.startingPoints).length := by
    rw [List.length_zip]
    omega
  have hentry := hmem _ (List.getElem_mem hzip)
  rw [List.getElem_zip] at hentry
  exact List.mem_append_right _ hentry

section
variable {s : Setup α (StateM Unit) π δ} {b c : Battle α π δ}

theorem yields_deploy {fleet : String} {origin offset : Vec3 α} {ship : RosterShip α}
    {pilot pilot' : π} {parts : List (Part α)} {id : ObjectId} {mass : α}
    (hpilot : Yields (s.registry.create ship.pilot b.nextId :
      ExceptT (SetupError α) (StateM Unit) π) pilot)
    (hlink : Pilot.link s.catalog b.dt ship.parts (Pilot.joinFleet α fleet pilot) =
      .ok (parts, pilot'))
    (hoffset : Vec3.ofCoordinates ship.position = .ok offset)
    (hadd : b.addShip fleet (origin + offset) pilot' parts = .ok (id, c)) :
    Yields (s.deploy fleet origin (b, mass) ship)
      (c, ((c.ship? id).map fun added => mass + added.body.mass).getD mass) := by
  apply hpilot.bind
  apply (yields_ofExcept hlink).bind
  apply (yields_ofExcept hoffset).bind
  apply (yields_ofExcept hadd).bind
  exact yields_pure _

theorem yields_muster {fleet : RosterFleet α} {start : List α} {origin : Vec3 α} {mass : α}
    (horigin : Vec3.ofCoordinates start = .ok origin)
    (hships : Yields (fleet.ships.foldlM (s.deploy fleet.name origin) (b.addFleet fleet.name, 0.0))
      (c, mass))
    (hmass : ¬mass > s.map.rules.maxFleetMass) : Yields (s.muster b (fleet, start)) c := by
  apply (yields_ofExcept horigin).bind
  apply hships.bind
  simp only [hmass, if_false]
  exact yields_pure _

theorem yields_build (hcheck : s.check = .ok ()) (hlayout : s.layout = .ok b)
    (hfleets : Yields ((s.fleets.zip s.map.startingPoints).foldlM s.muster b) c) :
    Yields s.build { c with drawer := s.drawer } := by
  apply (yields_ofExcept hcheck).bind
  apply (yields_ofExcept hlayout).bind
  apply hfleets.bind
  exact yields_pure _

/-- A setup of one fleet with a single ship. -/
theorem yields_build_of_single {name : String} {ship : RosterShip α} {start : List α}
    {origin : Vec3 α} {mass : α} (hfleets : s.fleets = [⟨name, [ship]⟩])
    (hstart : s.map.startingPoints = [start]) (horigin : Vec3.ofCoordinates start = .ok origin)
    (hcheck : s.check = .ok ()) (hlayout : s.layout = .ok b)
    (hdeploy : Yields (s.deploy name origin (b.addFleet name, 0.0) ship) (c, mass))
    (hmass : ¬mass > s.map.rules.maxFleetMass) : Yields s.build { c with drawer := s.drawer } := by
  have hmuster : Yields (s.muster b (⟨name, [ship]⟩, start)) c :=
    yields_muster horigin (hdeploy.bind (yields_pure _)) hmass
  apply yields_build hcheck hlayout
  rw [hfleets, hstart]
  exact hmuster.bind (yields_pure _)

end

theorem ofCoordinates_zero : Vec3.ofCoordinates ([0.0, 0.0, 0.0] : List Exact) = .ok .zero := by
  simp [Vec3.ofCoordinates, Vec3.zero, Vec3.isFinite]

/-- A battle that is built has not been started. -/
theorem unstarted_of_build (h : Yields s.build b) : b.Unstarted := by
  obtain ⟨-, es, -, -, rfl⟩ := exists_edits_of_build h
  exact ((Battle.Unstarted.empty _ _).editAll es).drawer _

end Setup
end FleetArena
