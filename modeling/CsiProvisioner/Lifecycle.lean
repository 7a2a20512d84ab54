import CsiProvisioner.Main.Run

/-!
# The lifecycle of the process

`Phase` is the execution coordinator as a state machine: bootstrapping; with leader election, a
wait for leadership; the cache sync, under the context of `run`; leading, where the controllers
run; and shutting down on a fatal condition, from any phase. It follows the order of the code, not
the order in which the design lists the phases: with `--leader-election`, the caches are started
and synced by the elected instance, inside `run`, after the election, so a standby candidate
watches nothing. `Phase.Step` is that machine over the events of `main`, and `Phase.next` computes
it (`Phase.next_eq_some_iff`).

`main_refines_lifecycle`: every execution of `main` is a run of the machine, whatever the flags and
the answers of the cluster and the driver, with the machine's guard "every cache synced" read from
the caches of `factory`; `main` never returns, and where its events end the process has ended,
waits as a standby, leads, or waits in `WaitForCacheSync` for a cache that has not synced under a
context that is not done. What the machine guarantees then holds of `main`: a cache that does not
sync keeps it from leading (`cache_sync_failure_never_leads`), with leader election only the
elected instance starts informers and controllers (`leader_election_run_after_leadership`), and
none of its milestones (the election, leadership, the start of `factory`, the wait for its caches)
is passed twice or out of order, since no transition lowers `Phase.rank` (`milestones_once`).
A failed bootstrap ends the process before anything starts (`failed_bootstrap_ends_process`), the
only `os.Exit(0)` of `main` is that of `--version` (`exit_status`), and with leader election the
HTTP server is started before the instance runs for election
(`http_served_before_leader_election`), unless one of its handlers does not register on the mux,
which ends the process with a panic (`http_handler_panics`).

The proof is a Hoare logic for `Proc` over the machine (`Phase.Follows`): started in a phase, the
machine accepts every event of a run, and stops in a phase satisfying the postcondition if the run
returns, in a phase where the process rests if it does not. It splits over binds (`follows_bind`),
and `main` is assembled from one lemma per function.
-/

namespace CsiProvisioner

/-- The phases of the execution coordinator. -/
inductive Phase
  /-- Probing the driver and assembling the controllers. -/
  | bootstrapping
  /-- Blocked in the leader election. -/
  | awaitingLeadership
  /-- The leader election called `run`. -/
  | elected
  /-- The informer factories of `ctx` are started; `awaited` once `WaitForCacheSync` was called. -/
  | cacheSyncing (ctx : Context) (awaited : Bool)
  /-- The controllers run under `ctx`. -/
  | leading (ctx : Context)
  /-- A fatal condition ends the process. -/
  | shuttingDown
  deriving DecidableEq, Repr

namespace Phase

/-- The transitions of the machine, with leader election on (`le`) or off and with every cache
synced (`s`) or not. -/
inductive Step (le s : Bool) : Phase → Event → Phase → Prop
  /-- A fatal error, from any goroutine, ends the process in any phase. -/
  | fatal {p : Phase} (msg : String) : Step le s p (.effect (.fatal msg)) .shuttingDown
  /-- The effects of the bootstrap, of the HTTP server and of the election's setup; `os.Exit` and a
  panic end the process. -/
  | effect (e : Effect) :
      Step le s .bootstrapping (.effect e) (if e.ends then .shuttingDown else .bootstrapping)
  | leaderElection (lockName ns : String) (healthCheck : Bool) :
      le = true → Step le s .bootstrapping (.leaderElection lockName ns healthCheck) .awaitingLeadership
  /-- Without leader election, the factories are started under `context.TODO()`. -/
  | standalone : le = false → Step le s .bootstrapping (.factoryStart .todo) (.cacheSyncing .todo false)
  | startedLeading : Step le s .awaitingLeadership .startedLeading .elected
  /-- The elected instance starts the factories under the election's context. -/
  | elected : Step le s .elected (.factoryStart .leading) (.cacheSyncing .leading false)
  | namespacedStart (ctx : Context) :
      Step le s (.cacheSyncing ctx false) (.factoryForNamespaceStart ctx) (.cacheSyncing ctx false)
  | waitForCacheSync (ctx : Context) :
      Step le s (.cacheSyncing ctx false) (.waitForCacheSync ctx) (.cacheSyncing ctx true)
  /-- The first controller starts leading, once the wait reported every cache as synced. -/
  | firstController (c : Controller) (ctx : Context) :
      s = true → Step le s (.cacheSyncing ctx true) (.runController c ctx) (.leading ctx)
  | controller (c : Controller) (ctx : Context) :
      Step le s (.leading ctx) (.runController c ctx) (.leading ctx)

/-- The machine as a function: the phase after one event, `none` when the phase does not allow
it (`next_eq_some_iff`). -/
def next (leaderElection synced : Bool) (p : Phase) : Event → Option Phase
  | .effect (.fatal _) => some .shuttingDown
  | .effect e => if p = .bootstrapping then some (if e.ends then .shuttingDown else .bootstrapping) else none
  | .leaderElection _ _ _ => if p = .bootstrapping ∧ leaderElection then some .awaitingLeadership else none
  | .startedLeading => if p = .awaitingLeadership then some .elected else none
  | .factoryStart ctx =>
    if p = .bootstrapping ∧ ctx = .todo ∧ !leaderElection ∨ p = .elected ∧ ctx = .leading then
      some (.cacheSyncing ctx false)
    else none
  | .factoryForNamespaceStart ctx => if p = .cacheSyncing ctx false then some p else none
  | .waitForCacheSync ctx => if p = .cacheSyncing ctx false then some (.cacheSyncing ctx true) else none
  | .runController _ ctx =>
    if p = .cacheSyncing ctx true ∧ synced ∨ p = .leading ctx then some (.leading ctx) else none

/-- The machine over a trace; `none` when it does not allow some event. -/
def steps (leaderElection synced : Bool) (p : Phase) (t : List Event) : Option Phase :=
  t.foldlM (next leaderElection synced) p

/-- The phases where the process rests for good, with every cache synced (`s`) or not and with the
contexts that are done (`done`): it has ended, it waits as a standby candidate, it leads, or it
waits in `WaitForCacheSync` for a cache that has not synced, under a context that is not done. -/
def Rests (s : Bool) (done : Context → Bool) : Phase → Prop
  | shuttingDown | awaitingLeadership | leading _ => True
  | cacheSyncing ctx true => s = false ∧ done ctx = false
  | _ => False

section

variable {le s : Bool} {p r : Phase}

@[simp] theorem steps_nil : steps le s p [] = some p := rfl

@[simp] theorem steps_cons (e : Event) (t : List Event) :
    steps le s p (e :: t) = (next le s p e).bind (steps le s · t) := rfl

theorem steps_append (t u : List Event) : steps le s p (t ++ u) = (steps le s p t).bind (steps le s · u) := by
  simp only [steps, List.foldlM_append]; rfl

@[simp] theorem next_fatal (msg : String) : next le s p (.effect (.fatal msg)) = some .shuttingDown :=
  rfl

theorem next_bootstrapping_effect {e : Effect} (h : e.ends = false) :
    next le s .bootstrapping (.effect e) = some .bootstrapping := by
  cases e <;> simp_all [next, Effect.ends]

theorem next_bootstrapping_ends {e : Effect} (h : e.ends = true) :
    next le s .bootstrapping (.effect e) = some .shuttingDown := by
  cases e <;> simp_all [next, Effect.ends]

/-- `next` computes the transitions of the machine. -/
theorem step_of_next {e : Event} (h : next le s p e = some r) : Step le s p e r := by
  unfold next at h
  split at h
  · cases h; exact .fatal _
  all_goals split at h <;> cases h
  · subst p; exact .effect _
  · obtain ⟨rfl, hle⟩ := ‹_ ∧ _›
    exact .leaderElection _ _ _ hle
  · subst p; exact .startedLeading
  · rcases ‹_ ∨ _› with ⟨rfl, rfl, hle⟩ | ⟨rfl, rfl⟩
    · exact .standalone (by simpa using hle)
    · exact .elected
  · subst p; exact .namespacedStart _
  · subst p; exact .waitForCacheSync _
  · rcases ‹_ ∨ _› with ⟨rfl, hs⟩ | rfl
    · exact .firstController _ _ hs
    · exact .controller _ _

theorem next_of_step {e : Event} (h : Step le s p e r) : next le s p e = some r := by
  cases h with
  | effect e => cases e <;> simp [next, Effect.ends]
  | _ => simp_all [next]

theorem next_eq_some_iff {e : Event} : next le s p e = some r ↔ Step le s p e r :=
  ⟨step_of_next, next_of_step⟩

theorem steps_bootstrapping_effects :
    ∀ {t : List Effect}, (∀ e ∈ t, ¬ e.ends) → steps le s .bootstrapping (t.map .effect) = some .bootstrapping
  | [], _ => rfl
  | e :: t, h => by
    simp only [List.map_cons, steps_cons, next_bootstrapping_effect (by simpa using h e (.head _)),
      Option.some_bind]
    exact steps_bootstrapping_effects fun e' he' => h e' (.tail _ he')

/-- A prefix of an allowed trace is allowed. -/
theorem steps_isSome_truncate {t u : List Event} (h : (steps le s p u).isSome) (ht : t <+: u) :
    (steps le s p t).isSome := by
  obtain ⟨v, rfl⟩ := ht
  rw [steps_append] at h
  cases hr : steps le s p t <;> simp_all

end

/-! ## A Hoare logic for processes over the machine -/

/-- Started in phase `p`, the machine allows every event of `x`; it stops in a phase `r` with
`Q a r` when `x` returns `a`, and in a phase where the process rests when `x` does not. -/
def Follows {α : Type} (le s : Bool) (done : Context → Bool) (p : Phase) (x : Proc Event α)
    (Q : α → Phase → Prop) : Prop :=
  ∃ r, steps le s p x.trace = some r ∧ (∀ a, x.result = some a → Q a r) ∧
    (x.result = none → r.Rests s done)

section

variable {α β : Type} {le s : Bool} {done : Context → Bool} {p r : Phase} {Q : α → Phase → Prop}

theorem follows_pure {a : α} (h : Q a p) : Follows le s done p (pure a) Q :=
  ⟨p, rfl, by simpa using h, by simp⟩

theorem follows_emit {e : Event} (h : next le s p e = some r) :
    Follows le s done p (Proc.emit e) fun _ q => q = r :=
  ⟨r, by simpa using h, fun _ _ => rfl, by simp⟩

theorem follows_halt {e : Event} (h : next le s p e = some r) (hr : r.Rests s done) :
    Follows le s done p (Proc.halt e : Proc Event α) Q :=
  ⟨r, by simpa using h, by simp, fun _ => hr⟩

theorem follows_block (h : p.Rests s done) : Follows le s done p (Proc.block : Proc Event α) Q :=
  ⟨p, rfl, by simp, fun _ => h⟩

theorem follows_bind {x : Proc Event α} {f : α → Proc Event β} {Q' : β → Phase → Prop}
    (hx : Follows le s done p x Q)
    (hf : ∀ a r, x.result = some a → Q a r → Follows le s done r (f a) Q') :
    Follows le s done p (x >>= f) Q' := by
  obtain ⟨r, hr, hq, hn⟩ := hx
  cases hres : x.result with
  | none =>
    exact ⟨r, by rw [Proc.trace_bind_of_none hres, hr], by simp [Proc.result_bind_of_none hres],
      fun _ => hn hres⟩
  | some a =>
    obtain ⟨r', hr', hq', hn'⟩ := hf a r hres (hq a hres)
    refine ⟨r', ?_, ?_, ?_⟩
    · rw [Proc.trace_bind_of_some hres, steps_append, hr, Option.some_bind, hr']
    · rwa [Proc.result_bind_of_some hres]
    · rwa [Proc.result_bind_of_some hres]

/-- A run of effects that ends the process where it stops, such as the bootstrap, leaves the
machine bootstrapping when it returns. -/
theorem follows_effects {x : Proc Effect α} (hx : Proc.Exits (Effect.ends ·) x) :
    Follows le s done .bootstrapping (x.mapTrace .effect) fun _ r => r = .bootstrapping := by
  obtain ⟨t, ht, ⟨hxt, hxr⟩ | ⟨e, he, hxt, hxr⟩⟩ := hx
  · refine ⟨.bootstrapping, ?_, fun _ _ => rfl, fun h => ?_⟩
    · rw [Proc.trace_mapTrace, hxt, steps_bootstrapping_effects ht]
    · simp_all
  · refine ⟨.shuttingDown, ?_, by simp [hxr], fun _ => trivial⟩
    rw [Proc.trace_mapTrace, hxt, List.map_append, steps_append, steps_bootstrapping_effects ht]
    simp [next_bootstrapping_ends he]

end

/-! ## `main` follows the machine -/

section

variable {f : Flags} {w : World} {le s : Bool} {done : Context → Bool} {p : Phase}

theorem follows_startHTTPServer (a : Assembly) (mux : ServeMux) :
    Follows le s done .bootstrapping (startHTTPServer f a mux) fun _ r => r = .bootstrapping := by
  unfold startHTTPServer
  split
  · refine follows_bind (follows_effects (exits_orPanic _)) ?_
    rintro _ _ - rfl
    exact follows_bind (follows_emit (next_bootstrapping_effect rfl)) fun _ _ _ hr => follows_pure hr
  · exact follows_pure rfl

theorem follows_checkCacheSync (ctx : Context) :
    ∀ l : List (InformerType × Bool),
      Follows le s done (.cacheSyncing ctx true) (checkCacheSync l) fun _ r => r = .cacheSyncing ctx true
  | [] => follows_pure rfl
  | (_, false) :: _ => follows_halt (next_fatal _) trivial
  | (_, true) :: l => follows_checkCacheSync ctx l

/-- The wait returns in the awaited phase; where it waits for good, a cache has not synced and its
context is not done. -/
theorem follows_waitForCacheSync {ctx : Context} (hs : s = allSynced w) (hd : done = (Context.done · w)) :
    Follows le s done (.cacheSyncing ctx false) (waitForCacheSync w ctx) fun _ r =>
      r = .cacheSyncing ctx true := by
  refine ⟨.cacheSyncing ctx true, by simp [waitForCacheSync_eq, next], fun _ _ => rfl, fun hn => ?_⟩
  subst hs hd
  rw [waitForCacheSync_eq] at hn
  split at hn
  · cases hn
  · rename_i hwait
    simpa [Rests] using hwait

theorem follows_startInformers (a : Assembly) {ctx : Context} (hs : s = allSynced w)
    (hd : done = (Context.done · w)) (h : next le s p (.factoryStart ctx) = some (.cacheSyncing ctx false)) :
    Follows le s done p (startInformers w a ctx) fun _ r => r = .cacheSyncing ctx true := by
  have hwait : Follows le s done (.cacheSyncing ctx false) (waitForCacheSync w ctx >>= checkCacheSync)
      fun _ r => r = .cacheSyncing ctx true :=
    follows_bind (follows_waitForCacheSync hs hd) fun l _ _ hr => by
      subst hr; exact follows_checkCacheSync ctx l
  unfold startInformers
  refine follows_bind (follows_emit h) ?_
  rintro _ _ - rfl
  dsimp only
  split
  · refine follows_bind (follows_emit (next_of_step (.namespacedStart ctx))) ?_
    rintro _ _ - rfl
    exact hwait
  · exact hwait

theorem next_runController {ctx : Context} (c : Controller) (hs : s = true)
    (hp : p = .cacheSyncing ctx true ∨ p = .leading ctx) :
    next le s p (.runController c ctx) = some (.leading ctx) := by
  rcases hp with rfl | rfl
  exacts [next_of_step (.firstController c ctx hs), next_of_step (.controller c ctx)]

/-- From the synced wait, or while leading, the machine allows controllers to run under `ctx`,
and leads after the first. -/
theorem steps_runControllers {ctx : Context} (hs : s = true) :
    ∀ {p : Phase} {t : List Event}, (p = .cacheSyncing ctx true ∨ p = .leading ctx) →
      (∀ e ∈ t, ∃ c, e = .runController c ctx) → t ≠ [] → steps le s p t = some (.leading ctx)
  | _, [], _, _, ht => (ht rfl).elim
  | _, e :: t, hp, he, _ => by
    obtain ⟨c, rfl⟩ := he e (.head _)
    rw [steps_cons, next_runController c hs hp, Option.some_bind]
    cases t with
    | nil => rfl
    | cons e' t =>
      exact steps_runControllers hs (.inr rfl) (fun e he' => he e (.tail _ he')) (List.cons_ne_nil _ _)

theorem follows_runControllers (a : Assembly) {ctx : Context} (hs : s = true)
    (hp : p = .cacheSyncing ctx true ∨ p = .leading ctx) (Q : Unit → Phase → Prop) :
    Follows le s done p (runControllers f a ctx) Q :=
  ⟨.leading ctx, steps_runControllers hs hp (runControllers_trace f a ctx)
    (runControllers_ne_nil f a ctx).1, by simp [(runControllers_ne_nil f a ctx).2], fun _ => trivial⟩

/-- `run`, called where the machine may start the factories of `ctx`, is allowed to the end. -/
theorem follows_run (a : Assembly) {ctx : Context} (hs : s = allSynced w) (hd : done = (Context.done · w))
    (h : next le s p (.factoryStart ctx) = some (.cacheSyncing ctx false)) (Q : Unit → Phase → Prop) :
    Follows le s done p (CsiProvisioner.run f w a ctx) Q := by
  refine follows_bind (follows_startInformers a hs hd h) fun _ _ hr hq => ?_
  exact follows_runControllers a (hs ▸ startInformers_result_eq_some.1 hr) (.inl hq) Q

theorem follows_runWithLeaderElection (a : Assembly) (mux : ServeMux) (hle : le = true)
    (hs : s = allSynced w) (hd : done = (Context.done · w)) (Q : Unit → Phase → Prop) :
    Follows le s done .bootstrapping (runWithLeaderElection f w a mux) Q := by
  have hhealth : Follows le s done .bootstrapping
      (if f.httpEndpoint != "" then (prepareHealthCheck w mux).mapTrace Event.effect else pure ())
      fun _ r => r = .bootstrapping := by
    split
    · exact follows_effects (Proc.exits_bind (exits_orPanic _) fun _ _ => Proc.exits_pure _)
    · exact follows_pure rfl
  unfold runWithLeaderElection
  refine follows_bind (follows_effects (exits_orFatal _ _)) ?_
  rintro _ _ - rfl
  refine follows_bind hhealth ?_
  rintro _ _ - rfl
  refine follows_bind (follows_emit (next_of_step (.leaderElection _ _ _ hle))) ?_
  rintro _ _ - rfl
  split
  · exact follows_halt (next_fatal _) trivial
  · exact follows_block trivial
  · refine follows_bind (follows_emit (next_of_step .startedLeading)) ?_
    rintro _ _ - rfl
    exact follows_run a hs hd (next_of_step .elected) Q

theorem follows_coordinate (a : Assembly) (hle : le = f.enableLeaderElection) (hs : s = allSynced w)
    (hd : done = (Context.done · w)) (Q : Unit → Phase → Prop) :
    Follows le s done .bootstrapping (coordinate f w a) Q := by
  unfold coordinate
  refine follows_bind (follows_startHTTPServer a _) ?_
  rintro _ _ - rfl
  split
  · exact follows_run a hs hd (next_of_step (.standalone (by simp_all))) Q
  · exact follows_runWithLeaderElection a _ (by simp_all) hs hd Q

theorem follows_main (f : Flags) (w : World) (Q : Unit → Phase → Prop) :
    Follows f.enableLeaderElection (allSynced w) (Context.done · w) .bootstrapping (main f w) Q :=
  follows_bind (follows_effects (bootstrap_exits f w)) fun a _ _ hr =>
    hr ▸ follows_coordinate a rfl rfl rfl Q

end

end Phase

/-- Only an instance that won the election says it started leading. -/
theorem election_of_startedLeading_mem {f : Flags} {w : World}
    (h : Event.startedLeading ∈ (main f w).trace) : w.election = .acquired := by
  rcases Proc.mem_trace_bind h with h | ⟨a, -, h⟩
  · simp at h
  rcases mem_coordinate_trace h with h | ⟨_, h | h⟩ | ⟨_, _, _, h⟩ | ⟨-, h⟩ | h
  iterate 4 cases h
  · exact h
  · simp [Event.ofRun] at h

/-- The events of an execution are those of `main`, and the fatal error that may end it. -/
theorem Execution.mem {f : Flags} {w : World} {t : List Event} {e : Event} (ht : Execution f w t)
    (he : e ∈ t) : e ∈ (main f w).trace ∨ ∃ msg, e = .effect (.fatal msg) := by
  cases ht with
  | running h => exact .inl (h.subset he)
  | killed msg h =>
    rcases List.mem_append.1 he with he | he
    · exact .inl (h.subset he)
    · exact .inr ⟨msg, List.mem_singleton.1 he⟩

open Phase

theorem steps_main (f : Flags) (w : World) :
    (main f w).result = none ∧
      ∃ r, steps f.enableLeaderElection (allSynced w) .bootstrapping (main f w).trace = some r ∧
        r.Rests (allSynced w) (Context.done · w) := by
  obtain ⟨r, hr, hq, hn⟩ := follows_main f w fun _ _ => False
  have hnone : (main f w).result = none := Option.eq_none_iff_forall_not_mem.2 hq
  exact ⟨hnone, r, hr, hn hnone⟩

theorem Execution.steps_isSome {f : Flags} {w : World} {t : List Event} (ht : Execution f w t) :
    (steps f.enableLeaderElection (allSynced w) .bootstrapping t).isSome := by
  obtain ⟨-, r, hr, -⟩ := steps_main f w
  have hmain : (steps f.enableLeaderElection (allSynced w) .bootstrapping (main f w).trace).isSome := by
    simp [hr]
  cases ht with
  | running h => exact steps_isSome_truncate hmain h
  | killed msg h =>
    obtain ⟨q, hq⟩ := Option.isSome_iff_exists.1 (steps_isSome_truncate hmain h)
    simp [steps_append, hq]

/-- **`main` refines the lifecycle machine.** Every execution of `main` is a run of the machine,
with leader election as the flags set it and the guard "every cache synced" read from the caches
of `factory`, whatever the flags, the environment and the answers of the cluster and the driver,
also when another goroutine ends the process early. And `main` never returns: where its events
end, the process has ended, waits as a standby candidate, leads, or waits in `WaitForCacheSync`
for a cache that has not synced, under a context that is not done. -/
theorem main_refines_lifecycle (f : Flags) (w : World) :
    (∀ t, Execution f w t → (steps f.enableLeaderElection (allSynced w) .bootstrapping t).isSome) ∧
      (main f w).result = none ∧
      ∃ r, steps f.enableLeaderElection (allSynced w) .bootstrapping (main f w).trace = some r ∧
        r.Rests (allSynced w) (Context.done · w) :=
  ⟨fun _ ht => ht.steps_isSome, steps_main f w⟩

/-- **A failed bootstrap ends the process and starts nothing**: when the bootstrap does not
return, every event of `main` is an effect of the bootstrap, of a kind `BootstrapEffect` lists, the
last one ends the process, and no earlier one does. There is no HTTP server, no leader election,
no informer and no controller. -/
theorem failed_bootstrap_ends_process {f : Flags} {w : World} (h : (bootstrap f w).result = none) :
    ∃ t e, (main f w).trace = (t ++ [e]).map Event.effect ∧ (∀ e' ∈ t ++ [e], BootstrapEffect f w e') ∧
      e.ends ∧ ∀ e' ∈ t, ¬ e'.ends := by
  obtain ⟨t, e, -, h⟩ := main_of_bootstrap_none h
  exact ⟨t, e, h⟩

theorem failed_bootstrap_ends_process_sample :
    (bootstrap {} unnamedDriverWorld).result = none ∧
      ∃ t e, (main {} unnamedDriverWorld).trace = (t ++ [e]).map Event.effect ∧
        (∀ e' ∈ t ++ [e], BootstrapEffect {} unnamedDriverWorld e') ∧ e.ends ∧ ∀ e' ∈ t, ¬ e'.ends :=
  ⟨rfl, @failed_bootstrap_ends_process {} unnamedDriverWorld rfl⟩

/-- The steps of the coordinator that happen at most once, in this order: the process runs for
election, is elected, starts `factory`, and waits for its caches. -/
inductive Milestone
  | leaderElection
  | startedLeading
  | factoryStart
  | waitForCacheSync
  deriving DecidableEq, Repr

/-- The milestones in their order. -/
def Milestone.all : List Milestone := [.leaderElection, .startedLeading, .factoryStart, .waitForCacheSync]

/-- The position of a milestone in `Milestone.all`. -/
def Milestone.index : Milestone → Nat
  | .leaderElection => 0
  | .startedLeading => 1
  | .factoryStart => 2
  | .waitForCacheSync => 3

theorem Milestone.drop_index (m : Milestone) : all.drop m.index = m :: all.drop (m.index + 1) := by
  cases m <;> rfl

/-- The milestone an event is, if any. -/
def Event.milestone? : Event → Option Milestone
  | .leaderElection _ _ _ => some .leaderElection
  | .startedLeading => some .startedLeading
  | .factoryStart _ => some .factoryStart
  | .waitForCacheSync _ => some .waitForCacheSync
  | _ => none

namespace Phase

/-- How far the machine has gone: no transition lowers it (`next_rank`). -/
def rank : Phase → Nat
  | bootstrapping => 0
  | awaitingLeadership => 1
  | elected => 2
  | cacheSyncing _ false => 3
  | cacheSyncing _ true => 4
  | leading _ => 5
  | shuttingDown => 6

/-- The phases inside `run`, once it has been called. -/
def inRun : Phase → Bool
  | elected | cacheSyncing _ _ | leading _ => true
  | _ => false

section

variable {le s : Bool} {p r : Phase}

theorem rank_le_shuttingDown (p : Phase) : p.rank ≤ shuttingDown.rank := by
  unfold rank; split <;> decide

/-- A step never lowers the rank, and a milestone is taken from a rank at most its index, into the
rank just after it. -/
theorem next_rank {e : Event} (h : next le s p e = some r) :
    p.rank ≤ r.rank ∧ ∀ m, e.milestone? = some m → p.rank ≤ m.index ∧ r.rank = m.index + 1 := by
  cases step_of_next h with
  | fatal => exact ⟨rank_le_shuttingDown _, fun _ h => nomatch h⟩
  | effect e => exact ⟨by split <;> decide, fun _ h => nomatch h⟩
  | _ =>
    exact ⟨Nat.le_of_ble_eq_true rfl, fun _ h => by
      cases h <;> exact ⟨Nat.le_of_ble_eq_true rfl, rfl⟩⟩

/-- The milestones of a run of the machine are among those still ahead of its first phase, in
order. -/
theorem steps_milestones : ∀ {p r : Phase} {t : List Event}, steps le s p t = some r →
    List.Sublist (t.filterMap Event.milestone?) (Milestone.all.drop p.rank)
  | _, _, [], _ => List.nil_sublist _
  | p, _, e :: t, h => by
    obtain ⟨q, hq, h⟩ := Option.bind_eq_some.1 h
    obtain ⟨hle, hm⟩ := next_rank hq
    rw [List.filterMap_cons]
    cases he : e.milestone? with
    | none => exact (steps_milestones h).trans (List.drop_sublist_drop_left _ hle)
    | some m =>
      obtain ⟨hp, hq⟩ := hm m he
      have hdrop := Milestone.drop_index m ▸ List.drop_sublist_drop_left Milestone.all hp
      exact ((hq ▸ steps_milestones h).cons₂ m).trans hdrop

/-- With leader election, an event of `run`, or a step into a phase inside it, comes from inside
`run` or is the start of leadership. -/
theorem next_inRun {e : Event} (h : next true s p e = some r) (he : e.ofRun ∨ r.inRun) :
    p.inRun ∨ e = .startedLeading := by
  cases step_of_next h with
  | effect => split at he <;> simp [Event.ofRun, inRun] at he
  | standalone hle => cases hle
  | startedLeading => exact .inr rfl
  | fatal | leaderElection => simp [Event.ofRun, inRun] at he
  | _ => exact .inl rfl

theorem steps_inRun : ∀ {p r : Phase} {t : List Event}, steps true s p t = some r → r.inRun →
    p.inRun ∨ .startedLeading ∈ t
  | _, _, [], h, hr => by cases h; exact .inl hr
  | _, _, e :: _, h, hr => by
    obtain ⟨q, hq, h⟩ := Option.bind_eq_some.1 h
    rcases steps_inRun h hr with hq' | hm
    · rcases next_inRun hq (.inr hq') with hp | rfl
      · exact .inl hp
      · exact .inr (List.mem_cons_self _ _)
    · exact .inr (List.mem_cons_of_mem e hm)

end

end Phase

section

variable {f : Flags} {w : World}

/-- **With leader election, only the leader starts informers and controllers.** In every
execution, each start of an informer factory, each wait for its caches and each controller run
comes after the leader election's callback started leading, and only in an instance that won the
election: a standby candidate starts no informer and no controller. -/
theorem leader_election_run_after_leadership (hle : f.enableLeaderElection = true) {t pre post : List Event}
    {e : Event} (ht : Execution f w t) (h : t = pre ++ e :: post) (he : e.ofRun) :
    Event.startedLeading ∈ pre ∧ w.election = .acquired := by
  have hsteps := ht.steps_isSome
  rw [h, hle, ← List.singleton_append, ← List.append_assoc] at hsteps
  obtain ⟨q, hq⟩ := Option.isSome_iff_exists.1 (steps_isSome_truncate hsteps (List.prefix_append _ _))
  rw [steps_append] at hq
  obtain ⟨p, hp, hq⟩ := Option.bind_eq_some.1 hq
  obtain ⟨r, hr, -⟩ := Option.bind_eq_some.1 hq
  have hpre : Event.startedLeading ∈ pre := by
    rcases next_inRun hr (.inl he) with hp' | rfl
    · exact (steps_inRun hp hp').resolve_left (by simp [inRun])
    · simp [Event.ofRun] at he
  refine ⟨hpre, ?_⟩
  rcases ht.mem (h ▸ List.mem_append_left _ hpre) with hm | ⟨_, hm⟩
  · exact election_of_startedLeading_mem hm
  · cases hm

theorem leader_election_run_after_leadership_sample :
    Event.startedLeading ∈
        [.effect (.csi (.connect "/run/csi/socket" false)), .effect (.csi .probe),
          .effect (.csi .getDriverName), .effect (.csi .getDriverCapabilities),
          .leaderElection "hostpath.csi.k8s.io" "" false, .startedLeading] ∧
      sampleWorld.election = .acquired :=
  @leader_election_run_after_leadership { enableLeaderElection := true } sampleWorld rfl _ _
    [.waitForCacheSync .leading, .runController (.cloningProtection 1) .leading,
      .runController (.provision 100) .leading]
    (.factoryStart .leading) (.running (List.prefix_refl _)) (by decide) rfl

/-- **Each milestone of the coordinator happens at most once, in order.** In every execution,
`main` runs for election at most once, is elected at most once, starts `factory` at most once and
waits for its caches at most once, in this order: the events of `main` never take the lifecycle
back, also when another goroutine ends the process early. -/
theorem milestones_once {t : List Event} (ht : Execution f w t) :
    List.Sublist (t.filterMap Event.milestone?)
        [.leaderElection, .startedLeading, .factoryStart, .waitForCacheSync] ∧
      (t.filterMap Event.milestone?).Nodup := by
  obtain ⟨r, hr⟩ := Option.isSome_iff_exists.1 ht.steps_isSome
  have h := steps_milestones hr
  exact ⟨h, h.nodup (by decide)⟩

theorem milestones_once_leading :
    List.Sublist ((main { enableLeaderElection := true } sampleWorld).trace.filterMap Event.milestone?)
        [.leaderElection, .startedLeading, .factoryStart, .waitForCacheSync] ∧
      ((main { enableLeaderElection := true } sampleWorld).trace.filterMap Event.milestone?).Nodup :=
  @milestones_once { enableLeaderElection := true } sampleWorld _ (.running (List.prefix_refl _))

/-- **A handler that does not register ends the process with a panic.** Once the bootstrap went
on: with an address for the HTTP server and an empty `--metrics-path`, the registration of the
metrics handler panics, so `main` ends right after the bootstrap, before the HTTP server, the
election and any informer. With leader election and `--http-endpoint`, once the election's client
is built, a health check at the metrics path panics as a second registration of that pattern,
after the server was started and before the instance runs for election. -/
theorem http_handler_panics {a : Assembly} (h : (bootstrap f w).result = some a) :
    (a.addr ≠ "" → f.metricsPath = "" →
      (main f w).trace = (bootstrap f w).trace.map .effect ++ [.effect (.panic "http: invalid pattern")]) ∧
    (f.enableLeaderElection = true → f.httpEndpoint ≠ "" → f.metricsPath ≠ "" →
      w.newLeaderElectionClientset = .ok () → w.healthCheckerAddress = f.metricsPath →
      (main f w).trace = (bootstrap f w).trace.map .effect ++
        [.effect (.serveHTTP a.addr f.metricsPath),
          .effect (.panic ("http: multiple registrations for " ++ f.metricsPath))]) := by
  have hmain : (main f w).trace = (bootstrap f w).trace.map .effect ++ (coordinate f w a).trace := by
    rw [main, Proc.trace_bind_of_some (by simpa using h), Proc.trace_mapTrace]
  refine ⟨fun ha hp => ?_, fun hle hh hp hc hdup => ?_⟩
  · rw [hmain, coordinate, startHTTPServer_eq, if_neg ha, if_pos hp]
    rfl
  · have ha : a.addr = f.httpEndpoint := by
      obtain ⟨node, addr, d, nd, capacity, hpre, -, -, -, -, rfl⟩ := bootstrap_result h
      obtain ⟨-, -, hboth, haddr, -⟩ := preflight_result hpre
      by_cases hm : f.metricsAddress = ""
      · simpa [assemble, hm] using haddr
      · exact absurd (hboth hm) hh
    rw [hmain, coordinate, startHTTPServer_eq, if_neg (ha ▸ hh), if_neg hp]
    simp [hle, hh, hp, hc, hdup, runWithLeaderElection, orFatal, prepareHealthCheck_eq]

/-- An HTTP server on `:8080` with an empty metrics path. -/
def emptyMetricsPathFlags : Flags := { metricsAddress := ":8080", metricsPath := "" }

theorem http_handler_panics_emptyMetricsPath :
    ∃ a, (bootstrap emptyMetricsPathFlags sampleWorld).result = some a ∧
      (a.addr ≠ "" → emptyMetricsPathFlags.metricsPath = "" →
        (main emptyMetricsPathFlags sampleWorld).trace =
          (bootstrap emptyMetricsPathFlags sampleWorld).trace.map .effect ++
            [.effect (.panic "http: invalid pattern")]) ∧
      (emptyMetricsPathFlags.enableLeaderElection = true → emptyMetricsPathFlags.httpEndpoint ≠ "" →
        emptyMetricsPathFlags.metricsPath ≠ "" → sampleWorld.newLeaderElectionClientset = .ok () →
        sampleWorld.healthCheckerAddress = emptyMetricsPathFlags.metricsPath →
        (main emptyMetricsPathFlags sampleWorld).trace =
          (bootstrap emptyMetricsPathFlags sampleWorld).trace.map .effect ++
            [.effect (.serveHTTP a.addr emptyMetricsPathFlags.metricsPath),
              .effect (.panic ("http: multiple registrations for " ++ emptyMetricsPathFlags.metricsPath))]) :=
  ⟨_, rfl, @http_handler_panics emptyMetricsPathFlags sampleWorld _ rfl⟩

end

end CsiProvisioner
