import Mathlib.Data.List.Induction
import ModuleForge.Proofs.Build.Shop
import ModuleForge.Proofs.Build.Stages
import ModuleForge.Proofs.Registry

/-!
# Builds that share a directory

Several builders, each made from a configuration of its own but all with one output directory, build
in one machine, now a step of one of them and now a step of another (`Hall.run`).

The file of an object is named by the text alone. So a module consists of objects that some builder
has compiled from texts with the right names (`Hall.Sound`, `run_sound`), but not always of its own
builder's: another may have compiled the same text meanwhile, with another context or language. This
happens exactly if two builders have a name in common and give their compilers different things
under it (`modules_unmixed_iff`).
-/
namespace ModuleForge

/-! ## Objects in a directory -/

/-- What a directory is joined to can be told from the result, unless it is absolute. -/
theorem Path.join_inj {dir p q : Path} (hp : p.isAbsolute = false) (hq : q.isAbsolute = false)
    (h : dir.join p = dir.join q) : p = q := by
  simp only [join, hp, hq, Bool.false_eq_true, if_false] at h
  split at h
  · exact h
  · split at h
    · exact congrArg mk (List.append_cancel_left (congrArg bytes h))
    · exact congrArg mk (List.cons.inj (List.append_cancel_left (congrArg bytes h))).2

theorem Path.isAbsolute_join_of_left {dir : Path} (h : dir.isAbsolute = true) (p : Path) :
    (dir.join p).isAbsolute = true := by
  cases hp : p.isAbsolute with
  | true => rw [join_of_isAbsolute hp, hp]
  | false =>
    have hne : dir.bytes ≠ [] := fun hnil => by simp [isAbsolute, hnil] at h
    rw [isAbsolute_join hne hp, h]

namespace Source

theorem isAbsolute_objectName (s : Source) : s.objectName.isAbsolute = false := by
  rw [Path.isAbsolute, beq_eq_false_iff_ne]
  exact fun h => s.separator_not_mem_objectName (List.mem_of_head? h)

/-- Where the object of a source comes to lie in a directory. The digest is not to be computed where
two such places are compared. -/
@[irreducible] def placeIn (s : Source) (dir : Path) : Path := dir.join s.objectName

theorem placeIn_eq (s : Source) (dir : Path) : s.placeIn dir = dir.join s.objectName := by
  rw [placeIn]

/-- Two sources have one place exactly if their texts yield one name. -/
theorem placeIn_inj {dir : Path} {s t : Source} :
    s.placeIn dir = t.placeIn dir ↔ s.digest.short = t.digest.short := by
  rw [placeIn_eq, placeIn_eq]
  refine ⟨fun h => Source.same_objectName_iff.mp ?_, fun h => by rw [objectName, objectName, h]⟩
  rw [Path.join_inj s.isAbsolute_objectName t.isAbsolute_objectName h, Path.same_iff]

end Source

theorem Targets.registered_add (sources : List Source) :
    registered (sources.map .add) = sources.map Source.target := by
  have hrun (ts : Targets) :
      (sources.map Change.add).foldl apply ts = ts ++ sources.map Source.target := by
    induction sources generalizing ts with
    | nil => simp
    | cons source sources ih =>
      rw [List.map_cons, List.foldl_cons, ih]
      simp [apply, add, Source.target]
  exact hrun []

/-! ## Builders that take turns -/

/-- A machine, and how far each builder is. -/
structure Hall (ι : Type) where
  shop : Shop ι
  stages : ι → Stage (Shop ι) Unit := fun _ => .ready

namespace Hall

variable {ι : Type} [DecidableEq ι]

/-- A builder has come to a stage and left the machine like this. -/
def moved (h : Hall ι) (i : ι) (stage : Stage (Shop ι) Unit) (shop : Shop ι) : Hall ι :=
  ⟨shop, Function.update h.stages i stage⟩

@[simp] theorem moved_stages (h : Hall ι) (i : ι) (stage : Stage (Shop ι) Unit) (shop : Shop ι) :
    (h.moved i stage shop).stages i = stage := Function.update_self ..

theorem moved_stages_of_ne {i j : ι} (hne : j ≠ i) (h : Hall ι) (stage : Stage (Shop ι) Unit)
    (shop : Shop ι) : (h.moved i stage shop).stages j = h.stages j := Function.update_of_ne hne ..

/-- A builder takes one step. -/
def turn (b : ι → Builder (Shop ι) Unit) (h : Hall ι) (i : ι) : Hall ι :=
  let (stage, shop) := ((b i).advance (h.stages i)).run (h.shop.handOver i)
  h.moved i stage shop

/-- Builders take steps in turns. -/
def run (b : ι → Builder (Shop ι) Unit) (h : Hall ι) (schedule : List ι) : Hall ι :=
  schedule.foldl (turn b) h

variable (c : ι → Config) (dir : Path) (sources : ι → List Source)

/-- The builders of some configurations, each with sources registered. -/
def team (i : ι) : Builder (Shop ι) Unit :=
  .configured (c i) dir ((sources i).map Source.target)

/-- What a builder's compiler is given for a source. -/
def artifact (i : ι) (s : Source) : Artifact := ((c i).compileRun dir s.target).artifact

/-- The stage of a builder that has compiled some of its sources into `objects`. -/
def compiling (i : ι) (n : Nat) (rest : List Source) (objects : List Object) :
    Stage (Shop ι) Unit :=
  .compiling (Builder.compilerOf (c i) dir).toCompiler (Builder.linkerOf (c i) dir).toLinker n
    (rest.map Source.target) objects

section Turns

variable {c dir} {h : Hall ι} {i : ι}

theorem turn_of_run {b : ι → Builder (Shop ι) Unit} {stage next : Stage (Shop ι) Unit}
    {after : Shop ι}
    (hstage : h.stages i = stage)
    (hrun : ((b i).advance stage).run (h.shop.handOver i) = (next, after)) :
    turn b h i = h.moved i next after := by
  unfold turn
  rw [hstage, hrun]

theorem turn_ready (hstage : h.stages i = .ready) : turn (team c dir sources) h i
    = h.moved i (compiling c dir i 0 (sources i) []) (h.shop.handOver i) :=
  turn_of_run hstage rfl

theorem turn_ended {result : Except BuildError (Library Unit)}
    (hstage : h.stages i = .ended result) :
    turn (team c dir sources) h i = h.moved i (.ended result) (h.shop.handOver i) :=
  turn_of_run hstage rfl

variable (c dir i) in
omit [DecidableEq ι] in
theorem compile_team (s : Source) (shop : Shop ι) : ∃ answer,
    ((Builder.compilerOf (c i) dir).compile s.target.source s.target.objectName
      (team c dir sources i).context).exec shop
        = (answer, shop.after ((c i).compileRun dir s.target)) ∧
      if shop.lucky then ∃ o, answer = .ok o ∧ o.path = s.placeIn dir
      else ∃ e, answer = .error e := by
  rw [← Builder.compilerOf_invocation, Source.placeIn_eq]
  exact Shop.compile_exec rfl _ _ _ _

/-- A compiler run that succeeds leaves the object, and the builder goes on. -/
theorem turn_compiles {n : Nat} {s : Source} {rest : List Source} {objects : List Object}
    (hstage : h.stages i = compiling c dir i n (s :: rest) objects) (hlucky : h.shop.lucky = true) :
    ∃ o : Object, o.path = s.placeIn dir ∧ turn (team c dir sources) h i =
      h.moved i (compiling c dir i (n + 1) rest (objects ++ [o]))
        ((h.shop.handOver i).wrote (s.placeIn dir) (artifact c dir i s)) := by
  have hlucky : (h.shop.handOver i).lucky = true := hlucky
  obtain ⟨answer, hexec, hanswer⟩ :=
    compile_team c dir sources i s (h.shop.handOver i)
  rw [if_pos hlucky] at hanswer
  obtain ⟨o, rfl, hpath⟩ := hanswer
  have hwritten := (Config.compileRun_written (c i) dir s.target).trans
    (congrArg some (s.placeIn_eq dir).symm)
  rw [Shop.after_writes hlucky hwritten] at hexec
  exact ⟨o, hpath, turn_of_run hstage (Builder.advance_compiles hexec)⟩

/-- Any other compiler run ends the build. -/
theorem turn_stops {n : Nat} {s : Source} {rest : List Source} {objects : List Object}
    (hstage : h.stages i = compiling c dir i n (s :: rest) objects)
    (hlucky : h.shop.lucky = false) :
    ∃ e, turn (team c dir sources) h i
      = h.moved i (.ended (.error e)) (h.shop.handOver i).wasted := by
  have hlucky : (h.shop.handOver i).lucky = false := hlucky
  obtain ⟨answer, hexec, hanswer⟩ :=
    compile_team c dir sources i s (h.shop.handOver i)
  rw [if_neg (by simp [hlucky])] at hanswer
  obtain ⟨e, rfl⟩ := hanswer
  rw [Shop.after_unlucky hlucky] at hexec
  exact ⟨e, turn_of_run hstage (Builder.advance_stops hexec)⟩

theorem turn_after_link (absolute : dir.isAbsolute = true) {n : Nat} {objects : List Object}
    (hstage : h.stages i = compiling c dir i n [] objects) :
    ∃ (result : Except BuildError (Library Unit)) (module : String), turn (team c dir sources) h i =
      h.moved i (.ended result) ((h.shop.handOver i).counted.after
        ((Builder.linkerOf (c i) dir).invocation dir module objects)) := by
  obtain ⟨answer, module, hexec⟩ :=
    Shop.link_exec (l := Builder.linkerOf (c i) dir) rfl absolute objects
    (h.shop.handOver i)
  cases answer with
  | ok library => exact ⟨_, module, turn_of_run hstage (Builder.advance_links hexec)⟩
  | error e => exact ⟨_, module, turn_of_run hstage (Builder.advance_links_not hexec)⟩

/-- A linker run that succeeds makes a module of the objects that are there. -/
theorem turn_links (absolute : dir.isAbsolute = true) {n : Nat} {objects : List Object}
    {done : List Source} (hpaths : objects.map (·.path) = done.map fun s => s.placeIn dir)
    (hstage : h.stages i = compiling c dir i n [] objects) (hlucky : h.shop.lucky = true) :
    ∃ result, turn (team c dir sources) h i = h.moved i (.ended result)
      ((h.shop.handOver i).counted.linked (done.map fun s => s.placeIn dir)) := by
  obtain ⟨result, module, hturn⟩ := turn_after_link sources absolute hstage
  have hobjects : ∀ o ∈ objects, o.path.isAbsolute = true := by
    intro o ho
    have hmem : o.path ∈ done.map fun s => s.placeIn dir :=
      hpaths ▸ List.mem_map_of_mem ho
    obtain ⟨s, -, hs⟩ := List.mem_map.mp hmem
    rw [← hs, Source.placeIn_eq]
    exact Path.isAbsolute_join_of_left absolute _
  refine ⟨result, hturn.trans ?_⟩
  have hlucky : (h.shop.handOver i).counted.lucky = true := hlucky
  rw [Shop.after_links hlucky (LinkerCommand.invocation_written hobjects),
    LinkerCommand.invocation_objectsRead hobjects, hpaths]

theorem turn_links_not (absolute : dir.isAbsolute = true) {n : Nat} {objects : List Object}
    (hstage : h.stages i = compiling c dir i n [] objects) (hlucky : h.shop.lucky = false) :
    ∃ result, turn (team c dir sources) h i = h.moved i (.ended result)
      (h.shop.handOver i).counted.wasted := by
  obtain ⟨result, module, hturn⟩ := turn_after_link sources absolute hstage
  have hlucky : (h.shop.handOver i).counted.lucky = false := hlucky
  exact ⟨result, hturn.trans (by rw [Shop.after_unlucky hlucky])⟩

end Turns

/-! ## What modules consist of -/

/-- At the object of a source lies what a builder has compiled from a source of that name. -/
def Made (objects : Path → Option Artifact) (s : Source) : Prop :=
  ∃ j, ∃ t ∈ sources j, t.digest.short = s.digest.short ∧
    objects (s.placeIn dir) = some (artifact c dir j t)

/-- The parts of a module are such objects, one for each source of its builder. -/
def Fits (p : Product ι) : Prop :=
  List.Forall₂ (fun s part => ∃ j, ∃ t ∈ sources j, t.digest.short = s.digest.short ∧
    part = some (artifact c dir j t)) (sources p.builder) p.parts

/-- Where a builder can be, when these are the objects. -/
inductive Placed (objects : Path → Option Artifact) (i : ι) : Stage (Shop ι) Unit → Prop where
  | ready : Placed objects i .ready
  | compiling {n : Nat} {done rest : List Source} {made : List Object}
    (split : sources i = done ++ rest)
      (paths : made.map (·.path) = done.map fun s => s.placeIn dir)
      (there : ∀ s ∈ done, Made c dir sources objects s) :
      Placed objects i (compiling c dir i n rest made)
  | ended (result : Except BuildError (Library Unit)) : Placed objects i (.ended result)

/-- Every builder is where it can be, and every module fits. -/
structure Sound (h : Hall ι) : Prop where
  placed (i : ι) : Placed c dir sources h.shop.objects i (h.stages i)
  products : ∀ p ∈ h.shop.products, Fits c dir sources p

section Invariant

variable {c dir sources} {objects : Path → Option Artifact} {h : Hall ι} {i : ι}

omit [DecidableEq ι] in
/-- What one builder compiles takes the place of an object only for a source of that name. -/
theorem made_update {s t : Source} (ht : t ∈ sources i)
    (hmade : Made c dir sources objects s ∨ s = t) :
    Made c dir sources
      (Function.update objects (t.placeIn dir) (some (artifact c dir i t))) s := by
  by_cases hpath : s.placeIn dir = t.placeIn dir
  · exact ⟨i, t, ht, (Source.placeIn_inj.mp hpath).symm, by rw [hpath, Function.update_self]⟩
  · obtain ⟨j, u, hu, hname, hobject⟩ := hmade.resolve_right fun heq => hpath (heq ▸ rfl)
    exact ⟨j, u, hu, hname, by rw [Function.update_of_ne hpath, hobject]⟩

omit [DecidableEq ι] in
theorem Placed.update {j : ι} {t : Source} (ht : t ∈ sources i) {stage : Stage (Shop ι) Unit}
    (hplaced : Placed c dir sources objects j stage) :
    Placed c dir sources
      (Function.update objects (t.placeIn dir) (some (artifact c dir i t))) j stage := by
  cases hplaced with
  | ready => exact .ready
  | compiling split paths there =>
    exact .compiling split paths fun s hs => made_update ht (.inl (there s hs))
  | ended result => exact .ended result

/-- A move of one builder is sound if the others stay where they can be and every module fits. -/
theorem Sound.move (hsound : Sound c dir sources h) {shop : Shop ι} {stage : Stage (Shop ι) Unit}
    (hothers : ∀ j, j ≠ i → Placed c dir sources shop.objects j (h.stages j))
    (hplaced : Placed c dir sources shop.objects i stage)
    (hproducts : ∀ p ∈ shop.products, p ∈ h.shop.products ∨ Fits c dir sources p) :
    Sound c dir sources (h.moved i stage shop) where
  placed j := by
    by_cases hj : j = i
    · rw [hj, moved_stages]
      exact hplaced
    · rw [moved_stages_of_ne hj]
      exact hothers j hj
  products p hp := (hproducts p hp).elim (hsound.products p) id

theorem Sound.ends (hsound : Sound c dir sources h) {shop : Shop ι}
    (result : Except BuildError (Library Unit)) (hobjects : shop.objects = h.shop.objects)
    (hproducts : ∀ p ∈ shop.products, p ∈ h.shop.products ∨ Fits c dir sources p) :
    Sound c dir sources (h.moved i (.ended result) shop) :=
  hsound.move (fun j _ => hobjects ▸ hsound.placed j) (.ended result) hproducts

/-- A compilation moves its source from those that are left to those that are done. -/
theorem Sound.compiles (hsound : Sound c dir sources h) {shop : Shop ι} {n : Nat} {s : Source}
    {done rest : List Source} {made : List Object} {o : Object}
    (split : sources i = done ++ s :: rest)
    (paths : made.map (·.path) = done.map fun s => s.placeIn dir)
    (there : ∀ u ∈ done, Made c dir sources h.shop.objects u) (hpath : o.path = s.placeIn dir)
    (hobjects : shop.objects
      = Function.update h.shop.objects (s.placeIn dir) (some (artifact c dir i s)))
    (hproducts : shop.products = h.shop.products) :
    Sound c dir sources (h.moved i (compiling c dir i n rest (made ++ [o])) shop) := by
  have hs : s ∈ sources i := by simp [split]
  refine hsound.move (fun j _ => ?_) ?_ fun p hp => .inl (hproducts ▸ hp)
  · rw [hobjects]
    exact (hsound.placed j).update hs
  · rw [hobjects]
    have hsplit : sources i = (done ++ [s]) ++ rest := by simp [split]
    refine .compiling hsplit (by simp [paths, hpath]) fun u hu => ?_
    exact made_update hs ((List.mem_append.mp hu).imp (there u) List.mem_singleton.mp)

theorem turn_sound (absolute : dir.isAbsolute = true) (hsound : Sound c dir sources h) (i : ι) :
    Sound c dir sources (turn (team c dir sources) h i) := by
  have hplaced := hsound.placed i
  generalize hstage : h.stages i = stage at hplaced
  cases hplaced with
  | ready =>
    rw [turn_ready sources hstage]
    exact hsound.move (fun j _ => hsound.placed j)
      (.compiling (List.nil_append _).symm rfl (by simp))
      fun p => .inl
  | ended result =>
    rw [turn_ended sources hstage]
    exact hsound.ends result rfl fun p => .inl
  | @compiling n done rest made split paths there =>
    cases rest with
    | cons s rest =>
      cases hlucky : h.shop.lucky with
      | false =>
        obtain ⟨e, hturn⟩ := turn_stops sources hstage hlucky
        rw [hturn]
        exact hsound.ends _ rfl fun p => .inl
      | true =>
        obtain ⟨o, hpath, hturn⟩ := turn_compiles sources hstage hlucky
        rw [hturn]
        exact hsound.compiles split paths there hpath (Shop.wrote_objects ..) rfl
    | nil =>
      rw [List.append_nil] at split
      cases hlucky : h.shop.lucky with
      | false =>
        obtain ⟨result, hturn⟩ := turn_links_not sources absolute hstage hlucky
        rw [hturn]
        exact hsound.ends result rfl fun p => .inl
      | true =>
        obtain ⟨result, hturn⟩ := turn_links sources absolute paths hstage hlucky
        rw [hturn]
        refine hsound.ends result rfl fun p hp => (List.mem_append.mp hp).imp_right fun hnew => ?_
        rw [List.mem_singleton.mp hnew]
        show List.Forall₂ _ (sources i) ((done.map fun s => s.placeIn dir).map h.shop.objects)
        rw [split, List.map_map]
        exact List.forall₂_map_right_iff.mpr (List.forall₂_same.mpr there)

theorem run_sound (absolute : dir.isAbsolute = true) (hsound : Sound c dir sources h)
    (schedule : List ι) : Sound c dir sources (run (team c dir sources) h schedule) := by
  induction schedule generalizing h with
  | nil => exact hsound
  | cons i schedule ih => exact ih (turn_sound absolute hsound i)

omit [DecidableEq ι] in
/-- Before the first turn no module was made. -/
theorem sound_start {shop : Shop ι} (hnone : shop.products = []) :
    Sound c dir sources { shop } where
  placed _ := .ready
  products p hp := by rw [hnone] at hp; cases hp

end Invariant

/-! ## When modules are of their builder's own objects -/

/-- Whatever has the name of one of a builder's sources is compiled as that builder compiles it. -/
def Agree (i : ι) : Prop :=
  ∀ j, ∀ s ∈ sources i, ∀ t ∈ sources j, s.digest.short = t.digest.short →
    artifact c dir i s = artifact c dir j t

/-- Every module of a builder consists of what it has compiled itself, however builders take
turns. -/
def Unmixed (b : ι → Builder (Shop ι) Unit) (i : ι) : Prop :=
  ∀ (shop : Shop ι) (schedule : List ι), shop.products = [] →
    ∀ p ∈ (run b { shop } schedule).shop.products, p.builder = i →
      p.parts = (sources i).map fun s => some (artifact c dir i s)

/-- A builder has compiled its first sources, with nothing else going on. -/
structure Compiled (before after : Hall ι) (i : ι) (done rest : List Source) : Prop where
  stage : ∃ (n : Nat) (made : List Object), after.stages i = compiling c dir i n rest made ∧
    made.map (·.path) = done.map fun s => s.placeIn dir
  others : ∀ j, j ≠ i → after.stages j = before.stages j
  fates : after.shop.fates = before.shop.fates
  latest : ∀ front s, done = front ++ [s] →
    after.shop.objects (s.placeIn dir) = some (artifact c dir i s)

section Condition

variable {c dir sources} {h : Hall ι} {i : ι}

omit [DecidableEq ι] in
theorem Fits.own {p : Product ι} (hfits : Fits c dir sources p)
    (agree : Agree c dir sources p.builder) :
    p.parts = (sources p.builder).map fun s => some (artifact c dir p.builder s) := by
  have hown := (List.forall₂_and_left _ _).mpr ⟨fun s hs => hs, hfits⟩
  have heq := hown.imp (S := fun s part => some (artifact c dir p.builder s) = part) ?_
  · exact (List.forall₂_eq_eq_eq ▸ List.forall₂_map_left_iff.mpr heq : _ = _).symm
  · rintro s _ ⟨hs, j, t, ht, hname, rfl⟩
    rw [agree j s hs t ht hname.symm]

theorem run_append (b : ι → Builder (Shop ι) Unit) (h : Hall ι) (first second : List ι) :
    run b h (first ++ second) = run b (run b h first) second := List.foldl_append ..

theorem run_single (b : ι → Builder (Shop ι) Unit) (h : Hall ι) (i : ι) :
    run b h [i] = turn b h i := rfl

variable (c dir sources) in
/-- When all runs succeed, a builder gets as far as it likes. -/
theorem run_compiles (hready : h.stages i = .ready)
    (hlucky : ∀ n, Shop.succeeds (h.shop.fates n) = true) {done rest : List Source}
    (split : sources i = done ++ rest) :
    Compiled c dir h (run (team c dir sources) h (List.replicate (done.length + 1) i)) i
      done rest := by
  induction done using List.reverseRec generalizing rest with
  | nil =>
    rw [List.length_nil, Nat.zero_add, List.replicate_one, run_single,
      turn_ready sources hready, split]
    exact ⟨⟨0, [], moved_stages .., rfl⟩, fun j hj => moved_stages_of_ne hj .., rfl, by simp⟩
  | append_singleton done s ih =>
    have hsplit : sources i = done ++ s :: rest := by simpa using split
    have hprevious := ih hsplit
    rw [List.length_append, List.length_singleton, List.replicate_succ', run_append]
    generalize run (team c dir sources) h (List.replicate (done.length + 1) i) = mid at hprevious ⊢
    obtain ⟨n, made, hstage, hpaths⟩ := hprevious.stage
    have hmid : mid.shop.lucky = true := by
      rw [Shop.lucky, hprevious.fates]
      exact hlucky _
    obtain ⟨o, hpath, hturn⟩ := turn_compiles sources hstage hmid
    rw [run_single, hturn]
    refine ⟨⟨n + 1, made ++ [o], moved_stages .., by simp [hpaths, hpath]⟩, fun j hj => ?_,
      hprevious.fates, fun front u hu => ?_⟩
    · rw [moved_stages_of_ne hj, hprevious.others j hj]
    · obtain ⟨-, hu⟩ := List.append_inj' hu rfl
      cases hu
      show ((mid.shop.handOver i).wrote _ _).objects _ = _
      rw [Shop.wrote_objects, Function.update_self]

/-- Linking takes the objects as they are by then. -/
theorem turn_makes (absolute : dir.isAbsolute = true)
    (hstage : ∃ (n : Nat) (made : List Object), h.stages i = compiling c dir i n [] made ∧
      made.map (·.path) = (sources i).map fun s => s.placeIn dir)
    (hlucky : h.shop.lucky = true) :
    ⟨i, (sources i).map fun s => h.shop.objects (s.placeIn dir)⟩ ∈
      (turn (team c dir sources) h i).shop.products := by
  obtain ⟨n, made, hstage, hpaths⟩ := hstage
  obtain ⟨result, hturn⟩ := turn_links sources absolute hpaths hstage hlucky
  rw [hturn]
  refine List.mem_append_right _ (List.mem_singleton.mpr ?_)
  rw [List.map_map]
  rfl

/-- A machine on which every run succeeds. -/
def fair (i : ι) : Shop ι where
  canonical := .ok
  fates _ := .finished ⟨.ofWord 0, ByteArray.empty, ByteArray.empty⟩
  worker := i

theorem agree_of_unmixed (absolute : dir.isAbsolute = true)
    (unmixed : Unmixed c dir sources (team c dir sources) i) : Agree c dir sources i := by
  intro j s hs t ht hname
  have hstart : ({ shop := fair i } : Hall ι).stages i = .ready := rfl
  have hfirst := run_compiles c dir sources hstart (fun _ => rfl) (List.append_nil _).symm
  -- what is linked is what is there, and that is all the builder's own
  have hlinked (schedule : List ι)
      (hstage : ∃ (n : Nat) (made : List Object),
        (run (team c dir sources) { shop := fair i } schedule).stages i
          = compiling c dir i n [] made ∧
          made.map (·.path) = (sources i).map fun s => s.placeIn dir)
      (hlucky : (run (team c dir sources) { shop := fair i } schedule).shop.lucky = true)
      (u : Source) (hu : u ∈ sources i) :
      (run (team c dir sources) { shop := fair i } schedule).shop.objects (u.placeIn dir)
        = some (artifact c dir i u) := by
    have hmade := turn_makes absolute hstage hlucky
    have hown := unmixed (fair i) (schedule ++ [i]) rfl _ (by rwa [run_append]) rfl
    exact List.map_inj_left.mp hown u hu
  have hpath : s.placeIn dir = t.placeIn dir := Source.placeIn_inj.mpr hname
  by_cases hj : j = i
  · subst hj
    have hobject := hlinked _ hfirst.stage (by rw [Shop.lucky, hfirst.fates]; rfl)
    exact Option.some.inj ((hobject s hs).symm.trans (hpath ▸ hobject t ht))
  · obtain ⟨front, back, hsplit⟩ := List.append_of_mem ht
    have hdone : sources j = (front ++ [t]) ++ back := by simp [hsplit]
    have hsecond := run_compiles c dir sources (hfirst.others j hj)
      (by rw [hfirst.fates]; exact fun _ => rfl) hdone
    rw [← run_append] at hsecond
    have hobject := hlinked _ (by rw [hsecond.others i (Ne.symm hj)]; exact hfirst.stage)
      (by rw [Shop.lucky, hsecond.fates, hfirst.fates]; rfl) s hs
    exact Option.some.inj (hobject.symm.trans (hpath ▸ hsecond.latest front t rfl))

end Condition

omit [DecidableEq ι] in
theorem team_of_made {b : ι → Builder (Shop ι) Unit}
    (made : ∀ i, ∃ s s', (c i).resolveOutputDir.exec s = (.ok dir, s') ∧
      (Builder.ofConfig (c i)).exec s = (.ok (b i), s')) :
    (fun i => { b i with targets := Targets.registered ((sources i).map .add) })
      = team c dir sources := by
  funext i
  obtain ⟨s, s', hresolved, hmade⟩ := made i
  have hconfigured : (Builder.ofConfig (c i) : Action (Shop ι) ConfigError _).exec s
      = (.ok (.configured (c i) dir []), s') := by
    unfold Builder.ofConfig
    rw [Action.exec_bind, hresolved]
    rfl
  have hb : b i = .configured (c i) dir [] :=
    Except.ok.inj (congrArg Prod.fst (hmade.symm.trans hconfigured))
  rw [hb, Targets.registered_add]
  rfl

/-- **Builds that share a directory.** Let builders be made from configurations whose output
directories resolve to one absolute path, and register any sources with each. However they then take
turns on a machine without modules, each part of a module was compiled, by some builder, from a text
that yields the name of the source it stands for. All modules of a builder are of its own objects,
for all turns and all ends of runs, exactly if whatever has the name of one of its sources is
compiled as that builder compiles it. -/
theorem modules_unmixed_iff {b : ι → Builder (Shop ι) Unit} (absolute : dir.isAbsolute = true)
    (made : ∀ i, ∃ s s', (c i).resolveOutputDir.exec s = (.ok dir, s') ∧
      (Builder.ofConfig (c i)).exec s = (.ok (b i), s')) :
    let members (i : ι) := { b i with targets := Targets.registered ((sources i).map .add) }
    (∀ (shop : Shop ι) (schedule : List ι), shop.products = [] →
      ∀ p ∈ (run members { shop } schedule).shop.products, Fits c dir sources p) ∧
    ∀ i, Unmixed c dir sources members i ↔ Agree c dir sources i := by
  rw [team_of_made c dir sources made]
  have hfits (shop : Shop ι) (schedule : List ι) (hnone : shop.products = []) :
      ∀ p ∈ (run (team c dir sources) { shop } schedule).shop.products, Fits c dir sources p :=
    (run_sound absolute (sound_start hnone) schedule).products
  refine ⟨hfits, fun i => ⟨agree_of_unmixed absolute, fun agree shop schedule hnone p hp hi => ?_⟩⟩
  subst hi
  exact (hfits shop schedule hnone p hp).own agree

/-- The configurations of two builders that differ in a definition. -/
def rivals (i : Bool) : Config where
  outputDir := some "/out"
  context := { defines := [if i then "B" else "A"] }

theorem rivals_made (i : Bool) : ∃ s s', (rivals i).resolveOutputDir.exec s = (.ok "/out", s') ∧
    (Builder.ofConfig (rivals i)).exec s
      = (.ok (.configured (rivals i) "/out" [] : Builder (Shop Bool) Unit), s') :=
  ⟨fair i, fair i, rfl, rfl⟩

/-- Builders of texts with different names do not mix. -/
theorem rivals_apart :
    let members (i : Bool) : Builder (Shop Bool) Unit :=
      { Builder.configured (rivals i) "/out" [] with
        targets := Targets.registered ([if i then ⟨0, "int a;"⟩ else ⟨1, "int b;"⟩].map .add) }
    Unmixed rivals "/out" (fun i => [if i then ⟨0, "int a;"⟩ else ⟨1, "int b;"⟩])
      members false := by
  refine ((modules_unmixed_iff rivals "/out" (fun i => [if i then ⟨0, "int a;"⟩ else ⟨1, "int b;"⟩])
    (by decide) rivals_made).2 false).mpr fun j s hs t ht hname => ?_
  cases j with
  | false => rw [List.mem_singleton.mp hs, List.mem_singleton.mp ht]
  | true =>
    rw [List.mem_singleton.mp hs, List.mem_singleton.mp ht] at hname
    exact absurd hname.symm Targets.short_int_ne

/-- Two builders with one text: between the compilation of the first and its linking the second
compiles, and the module of the first is made of what the second has compiled. -/
theorem later_context_counts :
    let s : Source := ⟨0, "int a;"⟩
    let members (i : Bool) : Builder (Shop Bool) Unit :=
      { Builder.configured (rivals i) "/out" [] with targets := Targets.registered [.add s] }
    (∀ i, (Builder.ofConfig (rivals i)).exec (fair i)
      = (.ok (.configured (rivals i) "/out" [] : Builder (Shop Bool) Unit), fair i)) ∧
    (run members { shop := fair false } [false, false, true, true, false]).shop.products
      = [⟨false, [some (artifact rivals "/out" true s)]⟩] ∧
    artifact rivals "/out" true s ≠ artifact rivals "/out" false s := by
  refine ⟨fun i => rfl, ?_, by decide +kernel⟩
  decide +kernel

end Hall
end ModuleForge
