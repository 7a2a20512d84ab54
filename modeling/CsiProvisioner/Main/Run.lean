import CsiProvisioner.Main.Bootstrap

/-!
# `run`, the leader election, and the executions of `main`

After the bootstrap, `main` starts the HTTP server (`csi-provisioner.go:502-525`) and defines the
closure `run` (`:527-548`): start the informer factories, wait for the caches of `factory`, end the
process if one of them did not sync, then run the controllers. Without `--leader-election` it calls
`run(context.TODO())` itself; with it, it hands `run` to the leader election of `csi-lib-utils`,
which calls it once leadership is acquired (`:550-575`).

`WaitForCacheSync` returns once every cache synced or once its context is done. `context.TODO()` is
never done, so without leader election a cache that never syncs keeps `main` waiting for good; the
election's context is done when leadership is lost (`waitForCacheSync`). The handlers of the HTTP
server are registered on one `http.ServeMux`, which panics on an empty pattern and on a pattern
registered twice: an empty `--metrics-path`, or a health check at the metrics path, ends the
process before `run` or the election (`startHTTPServer_eq`, `HandlersRegister`,
`coordinate_controllerRuns`).

`Execution` is every run of the process: the events of `main` up to any point, possibly ended
there by `klog.Fatal` in another goroutine (the HTTP server failing, `:522`; the leadership lost)
or by a signal.

An event of `main` is an effect of the bootstrap or an event of `coordinate` (`mem_main_trace`),
and after the bootstrap `main` neither calls the driver nor looks up an owner
(`coordinate_quiet`), so what `main` does with the driver is what its bootstrap does
(`filterMap_main_trace`).
-/

namespace CsiProvisioner

/-- `for _, v := range cacheSyncResult { if !v { klog.Fatalf("Failed to sync Informers!") } }`,
over the entries in the loop's order (`:535-539`). -/
def checkCacheSync : List (InformerType × Bool) → Proc Event Unit
  | [] => pure ()
  | (_, v) :: rest => do
    if !v then Proc.halt (.effect (.fatal "Failed to sync Informers!"))
    checkCacheSync rest

/-- Whether `ctx.Done()` is closed: never for `context.TODO()`; for the context the election
hands to `run`, once leadership is lost. -/
def Context.done (ctx : Context) (w : World) : Bool :=
  match ctx with
  | .todo => false
  | .leading => w.leadershipLost

/-- Every cache of `factory` synced. -/
def allSynced (w : World) : Bool := w.cacheSyncResult.entries.all (·.2)

theorem allSynced_iff {w : World} : allSynced w = true ↔ ∀ kv ∈ w.cacheSyncResult.entries, kv.2 = true := by
  simp [allSynced]

/-- `factory.WaitForCacheSync(ctx.Done())` (`:533`): it returns once every cache of `factory` has
synced, or once `ctx` is done, with whether each cache had synced then, and waits for good
otherwise. -/
def waitForCacheSync (w : World) (ctx : Context) : Proc Event (List (InformerType × Bool)) := do
  Proc.emit (.waitForCacheSync ctx)
  if allSynced w || ctx.done w then pure (w.cacheSyncResult.range w.cacheSyncOrder) else Proc.block

/-- The first half of `run` (`:528-539`): start the factories, wait for the caches of `factory`,
and end the process if one of them did not sync. -/
def startInformers (w : World) (a : Assembly) (ctx : Context) : Proc Event Unit := do
  Proc.emit (.factoryStart ctx)
  if a.factoryForNamespace.isSome then Proc.emit (.factoryForNamespaceStart ctx)
  let cacheSyncResult ← waitForCacheSync w ctx
  checkCacheSync cacheSyncResult

/-- The second half of `run` (`:541-547`): the controllers. `provisionController.Run(ctx)` returns
only once `ctx` is done. -/
def runControllers (f : Flags) (a : Assembly) (ctx : Context) : Proc Event Unit := do
  if a.capacityController.isSome then
    Proc.emit (.runController (.capacity (goInt f.capacityThreads)) ctx)
  if a.cloningProtection then
    Proc.emit (.runController (.cloningProtection (goInt f.finalizerThreads)) ctx)
  Proc.emit (.runController (.provision (goInt f.workerThreads)) ctx)
  Proc.block

/-- The closure `run` (`:527-548`). -/
def run (f : Flags) (w : World) (a : Assembly) (ctx : Context) : Proc Event Unit := do
  startInformers w a ctx
  runControllers f a ctx

/-- `lockName := strings.Replace(provisionerName, "/", "-", -1)` (`:555`): every `/` becomes `-`. -/
def lockName (provisionerName : String) : String :=
  ⟨provisionerName.data.map fun c => if c = '/' then '-' else c⟩

/-- An `http.ServeMux`: the patterns registered on it, the latest first. -/
structure ServeMux where
  patterns : List String

/-- `mux.Handle(pattern, handler)` of `net/http`: it panics on an empty pattern and on a pattern
registered before. -/
def ServeMux.handle (mux : ServeMux) (pattern : String) : Except String ServeMux :=
  if pattern = "" then .error "http: invalid pattern"
  else if pattern ∈ mux.patterns then .error ("http: multiple registrations for " ++ pattern)
  else .ok ⟨pattern :: mux.patterns⟩

/-- `:502-525`: the HTTP server for metrics and the health check, started whether or not this
instance will lead: the metrics handler is registered at `--metrics-path` on `mux`, and the
server is started in a goroutine. Returns the mux. -/
def startHTTPServer (f : Flags) (a : Assembly) (mux : ServeMux) : Proc Event ServeMux :=
  if a.addr != "" then do
    let mux ← (orPanic (mux.handle f.metricsPath)).mapTrace Event.effect
    Proc.emit (.effect (.serveHTTP a.addr f.metricsPath))
    pure mux
  else pure mux

/-- `le.PrepareHealthCheck(mux, leaderelection.DefaultHealthCheckTimeout)` (`:565`): the health
check of the election is registered on the mux at `HealthCheckerAddress`. -/
def prepareHealthCheck (w : World) (mux : ServeMux) : Proc Effect Unit := do
  let _ ← orPanic (mux.handle w.healthCheckerAddress)
  pure ()

/-- `:552-574`: the leader election, which calls `run` with its own context once this instance
leads. -/
def runWithLeaderElection (f : Flags) (w : World) (a : Assembly) (mux : ServeMux) :
    Proc Event Unit := do
  let _ ← (orFatal w.newLeaderElectionClientset
    ("Failed to create leaderelection client: " ++ ·)).mapTrace Event.effect
  (if f.httpEndpoint != "" then (prepareHealthCheck w mux).mapTrace Event.effect else pure ())
  Proc.emit (.leaderElection (lockName a.provisionerName) f.leaderElectionNamespace
    (f.httpEndpoint != ""))
  match w.election with
  | .initFailed e => Proc.halt (.effect (.fatal ("failed to initialize leader election: " ++ e)))
  | .standby => Proc.block
  | .acquired => do
    Proc.emit .startedLeading
    run f w a .leading

/-- `:502-575`: the HTTP server on the mux of `main` (`mux := http.NewServeMux()`, `:245`), then
`run` directly or through the leader election. -/
def coordinate (f : Flags) (w : World) (a : Assembly) : Proc Event Unit := do
  let mux ← startHTTPServer f a ⟨[]⟩
  if !f.enableLeaderElection then run f w a .todo else runWithLeaderElection f w a mux

/-- `main`. -/
def main (f : Flags) (w : World) : Proc Event Unit := do
  let a ← (bootstrap f w).mapTrace Event.effect
  coordinate f w a

/-! ## What each part of `run` does -/

/-- The loop over the sync result goes on exactly when every cache synced. -/
theorem checkCacheSync_result :
    ∀ {l : List (InformerType × Bool)}, (checkCacheSync l).result = some () ↔ ∀ kv ∈ l, kv.2 = true
  | [] => by simp [checkCacheSync]
  | (_, v) :: l => by cases v <;> simp [checkCacheSync, checkCacheSync_result]

/-- The loop emits nothing but its fatal error. -/
theorem mem_checkCacheSync_trace :
    ∀ {l : List (InformerType × Bool)} {e : Event}, e ∈ (checkCacheSync l).trace →
      e = .effect (.fatal "Failed to sync Informers!")
  | [], _, h => by simp [checkCacheSync] at h
  | (_, v) :: l, e, h => by
    cases v
    · simpa [checkCacheSync] using h
    · exact mem_checkCacheSync_trace (by simpa [checkCacheSync] using h)

/-- The wait is one event; it returns exactly when every cache synced or its context is done. -/
theorem waitForCacheSync_eq (w : World) (ctx : Context) :
    waitForCacheSync w ctx =
      ⟨[.waitForCacheSync ctx],
        if allSynced w || ctx.done w then some (w.cacheSyncResult.range w.cacheSyncOrder) else none⟩ := by
  unfold waitForCacheSync; split <;> rfl

theorem startInformers_trace (w : World) (a : Assembly) (ctx : Context) :
    (startInformers w a ctx).trace =
      .factoryStart ctx :: ((if a.factoryForNamespace.isSome then [.factoryForNamespaceStart ctx]
        else []) ++ .waitForCacheSync ctx :: if allSynced w || ctx.done w then
          (checkCacheSync (w.cacheSyncResult.range w.cacheSyncOrder)).trace else []) := by
  unfold startInformers; rw [waitForCacheSync_eq]; split <;> split <;> simp [*]

theorem startInformers_result (w : World) (a : Assembly) (ctx : Context) :
    (startInformers w a ctx).result =
      if allSynced w || ctx.done w then (checkCacheSync (w.cacheSyncResult.range w.cacheSyncOrder)).result
      else none := by
  unfold startInformers; rw [waitForCacheSync_eq]; split <;> split <;> simp [*]

/-- The first half of `run` emits the starts of the factories, the wait, and the fatal error of a
cache that did not sync. -/
theorem mem_startInformers_trace {w : World} {a : Assembly} {ctx : Context} {e : Event}
    (he : e ∈ (startInformers w a ctx).trace) :
    e = .factoryStart ctx ∨ e = .factoryForNamespaceStart ctx ∨ e = .waitForCacheSync ctx ∨
      e = .effect (.fatal "Failed to sync Informers!") := by
  rw [startInformers_trace] at he
  simp only [List.mem_cons, List.mem_append, List.mem_ite_nil_right, List.mem_singleton,
    List.not_mem_nil, or_false] at he
  rcases he with rfl | ⟨-, rfl⟩ | rfl | ⟨-, he⟩
  exacts [.inl rfl, .inr (.inl rfl), .inr (.inr (.inl rfl)), .inr (.inr (.inr (mem_checkCacheSync_trace he)))]

/-- Whatever the order of the loop and whether the context is done, the first half of `run` goes
on exactly when every cache synced. -/
theorem startInformers_result_eq_some {w : World} {a : Assembly} {ctx : Context} :
    (startInformers w a ctx).result = some () ↔ allSynced w = true := by
  have hsync : (checkCacheSync (w.cacheSyncResult.range w.cacheSyncOrder)).result = some () ↔
      allSynced w = true := by
    rw [checkCacheSync_result, allSynced_iff]
    exact ⟨fun h kv hkv => h kv (GoMap.mem_range.2 hkv), fun h kv hkv => h kv (GoMap.mem_range.1 hkv)⟩
  rw [startInformers_result]
  split
  · exact hsync
  · simp_all

/-- The second half of `run` runs, under `ctx`, the capacity controller of an assembly that has
one, the cloning protection controller of one that has it, and the provisioning controller, in
this order, and never returns. -/
theorem runControllers_eq (f : Flags) (a : Assembly) (ctx : Context) :
    runControllers f a ctx =
      ⟨((if a.capacityController.isSome then [Controller.capacity (goInt f.capacityThreads)] else []) ++
        (if a.cloningProtection then [Controller.cloningProtection (goInt f.finalizerThreads)]
        else []) ++ [Controller.provision (goInt f.workerThreads)]).map (.runController · ctx), none⟩ := by
  unfold runControllers; split <;> split <;> rfl

/-- The second half of `run` runs controllers under `ctx`, and does nothing else. -/
theorem runControllers_trace (f : Flags) (a : Assembly) (ctx : Context) :
    ∀ e ∈ (runControllers f a ctx).trace, ∃ c, e = .runController c ctx := by
  rw [runControllers_eq]
  intro e he
  obtain ⟨c, -, rfl⟩ := List.mem_map.1 he
  exact ⟨c, rfl⟩

/-- It runs the provisioning controller at least, and never returns. -/
theorem runControllers_ne_nil (f : Flags) (a : Assembly) (ctx : Context) :
    (runControllers f a ctx).trace ≠ [] ∧ (runControllers f a ctx).result = none := by
  rw [runControllers_eq]; simp

/-- The controllers `run` starts, under `ctx`: the capacity controller of an assembly that has
one, the cloning protection controller of one that has it, and the provisioning controller, in
this order; and only once every cache synced. -/
theorem run_controllerRuns (f : Flags) (w : World) (a : Assembly) (ctx : Context) :
    (run f w a ctx).trace.filterMap Event.controllerRun? =
      if allSynced w then
        ((if a.capacityController.isSome then [Controller.capacity (goInt f.capacityThreads)] else []) ++
          (if a.cloningProtection then [Controller.cloningProtection (goInt f.finalizerThreads)]
          else []) ++ [Controller.provision (goInt f.workerThreads)]).map (·, ctx)
      else [] := by
  have hstart : (startInformers w a ctx).trace.filterMap Event.controllerRun? = [] :=
    List.filterMap_eq_nil_iff.2 fun _ he => by
      rcases mem_startInformers_trace he with rfl | rfl | rfl | rfl <;> rfl
  cases hs : allSynced w
  · have hnone : (startInformers w a ctx).result = none :=
      Option.eq_none_iff_forall_not_mem.2 fun _ h => by simp [startInformers_result_eq_some.1 h] at hs
    rw [if_neg Bool.false_ne_true, run, Proc.trace_bind_of_none hnone, hstart]
  · rw [if_pos rfl, run, Proc.trace_bind_of_some (startInformers_result_eq_some.2 hs),
      List.filterMap_append, hstart, List.nil_append, runControllers_eq, List.filterMap_map]
    exact congrFun (List.filterMap_eq_map (·, ctx)) _

/-- The events of `run`: the starts of the factories, the wait for their caches, and the
controllers. -/
def Event.ofRun : Event → Bool
  | .factoryStart _ | .factoryForNamespaceStart _ | .waitForCacheSync _ | .runController _ _ => true
  | _ => false

/-- `run` emits its own events and the fatal error of a cache that did not sync. -/
theorem mem_run_trace {f : Flags} {w : World} {a : Assembly} {ctx : Context} {e : Event}
    (he : e ∈ (run f w a ctx).trace) : e.ofRun ∨ ∃ msg, e = .effect (.fatal msg) := by
  rcases Proc.mem_trace_bind he with he | ⟨_, -, he⟩
  · rcases mem_startInformers_trace he with rfl | rfl | rfl | rfl
    iterate 3 exact .inl rfl
    exact .inr ⟨_, rfl⟩
  · obtain ⟨c, rfl⟩ := runControllers_trace f a ctx e he
    exact .inl rfl

/-! ## The HTTP server and the leader election -/

/-- On the empty mux of `main`, the HTTP server is not started without an address; with one, the
registration of the metrics handler panics on an empty `--metrics-path`, and otherwise the server
is started with that handler as the only pattern of the mux. -/
theorem startHTTPServer_eq (f : Flags) (a : Assembly) :
    startHTTPServer f a ⟨[]⟩ =
      if a.addr = "" then pure ⟨[]⟩
      else if f.metricsPath = "" then Proc.halt (.effect (.panic "http: invalid pattern"))
      else ⟨[.effect (.serveHTTP a.addr f.metricsPath)], some ⟨[f.metricsPath]⟩⟩ := by
  unfold startHTTPServer ServeMux.handle
  by_cases ha : a.addr = "" <;> by_cases hp : f.metricsPath = "" <;> simp [ha, hp, orPanic]

/-- The health check registers exactly when its path is neither empty nor on the mux already;
otherwise the registration panics, and that panic is all it emits. -/
theorem prepareHealthCheck_eq (w : World) (mux : ServeMux) :
    prepareHealthCheck w mux =
      if w.healthCheckerAddress ≠ "" ∧ w.healthCheckerAddress ∉ mux.patterns then pure ()
      else Proc.halt (.panic (if w.healthCheckerAddress = "" then "http: invalid pattern"
        else "http: multiple registrations for " ++ w.healthCheckerAddress)) := by
  unfold prepareHealthCheck ServeMux.handle
  by_cases h₁ : w.healthCheckerAddress = "" <;> by_cases h₂ : w.healthCheckerAddress ∈ mux.patterns <;>
    simp [h₁, h₂, orPanic]

/-- The patterns `main` registers on its mux, in order: the metrics handler's when the HTTP server
has an address (`:514`), and with leader election and `--http-endpoint` the health check's
(`:565`). -/
def httpPatterns (f : Flags) (w : World) (a : Assembly) : List String :=
  (if a.addr != "" then [f.metricsPath] else []) ++
    if f.enableLeaderElection && f.httpEndpoint != "" then [w.healthCheckerAddress] else []

/-- The handlers of `main` register without a panic: no pattern is empty and none is registered
twice. -/
def HandlersRegister (f : Flags) (w : World) (a : Assembly) : Prop :=
  "" ∉ httpPatterns f w a ∧ (httpPatterns f w a).Nodup

instance (f : Flags) (w : World) (a : Assembly) : Decidable (HandlersRegister f w a) :=
  inferInstanceAs (Decidable (_ ∧ _))

/-- The handlers register when the metrics path is set for a server with an address, and, with
leader election and `--http-endpoint`, the health check's path is set and is not the metrics
path of a server with an address. -/
theorem handlersRegister_iff {f : Flags} {w : World} {a : Assembly} :
    HandlersRegister f w a ↔ (a.addr ≠ "" → f.metricsPath ≠ "") ∧
      (f.enableLeaderElection = true → f.httpEndpoint ≠ "" →
        w.healthCheckerAddress ≠ "" ∧ (a.addr ≠ "" → f.metricsPath ≠ w.healthCheckerAddress)) := by
  unfold HandlersRegister httpPatterns
  by_cases ha : a.addr = "" <;> cases f.enableLeaderElection <;> by_cases hh : f.httpEndpoint = "" <;>
    simp [ha, hh, @eq_comm String "", and_assoc]

/-- What `main` emits after the bootstrap: the start of the HTTP server, fatal errors and panics,
the leader election, the start of leadership when the election was won, and the events of `run`. -/
theorem mem_coordinate_trace {f : Flags} {w : World} {a : Assembly} {e : Event}
    (he : e ∈ (coordinate f w a).trace) :
    e = .effect (.serveHTTP a.addr f.metricsPath) ∨
      (∃ msg, e = .effect (.fatal msg) ∨ e = .effect (.panic msg)) ∨
      (∃ n ns hc, e = .leaderElection n ns hc) ∨ (e = .startedLeading ∧ w.election = .acquired) ∨
      e.ofRun := by
  have hrun : ∀ {ctx}, e ∈ (run f w a ctx).trace → e.ofRun ∨ ∃ msg, e = .effect (.fatal msg) ∨
      e = .effect (.panic msg) := fun he =>
    (mem_run_trace he).imp_right fun ⟨msg, h⟩ => ⟨msg, .inl h⟩
  unfold coordinate at he
  rcases Proc.mem_trace_bind he with he | ⟨mux, -, he⟩
  · rw [startHTTPServer_eq] at he
    split_ifs at he <;> simp at he
    exacts [.inr (.inl ⟨_, .inr he⟩), .inl he]
  split at he
  · exact (hrun he).elim (.inr ∘ .inr ∘ .inr ∘ .inr) (.inr ∘ .inl)
  unfold runWithLeaderElection at he
  rcases Proc.mem_trace_bind he with he | ⟨_, -, he⟩
  · cases hw : w.newLeaderElectionClientset <;> simp [hw, orFatal] at he
    exact .inr (.inl ⟨_, .inl he⟩)
  rcases Proc.mem_trace_bind he with he | ⟨_, -, he⟩
  · split at he
    · obtain ⟨e, he, rfl⟩ := List.mem_map.1 he
      rw [prepareHealthCheck_eq] at he
      split at he <;> simp at he
      exact .inr (.inl ⟨_, .inr (congrArg _ he)⟩)
    · simp at he
  simp only [Proc.emit_bind, List.mem_cons] at he
  rcases he with rfl | he
  · exact .inr (.inr (.inl ⟨_, _, _, rfl⟩))
  split at he
  · simp only [Proc.trace_halt, List.mem_singleton] at he
    exact .inr (.inl ⟨_, .inl he⟩)
  · simp at he
  · simp only [Proc.emit_bind, List.mem_cons] at he
    rcases he with rfl | he
    · exact .inr (.inr (.inr (.inl ⟨rfl, ‹_›⟩)))
    · exact (hrun he).elim (.inr ∘ .inr ∘ .inr ∘ .inr) (.inr ∘ .inl)

/-- An event of `main` is an effect of its bootstrap, or an event after a bootstrap that went on. -/
theorem mem_main_trace {f : Flags} {w : World} {e : Event} (he : e ∈ (main f w).trace) :
    (∃ e', BootstrapEffect f w e' ∧ e = .effect e') ∨
      ∃ a, (bootstrap f w).result = some a ∧ e ∈ (coordinate f w a).trace := by
  rcases Proc.mem_trace_bind he with he | ⟨a, ha, he⟩
  · rw [Proc.trace_mapTrace] at he
    obtain ⟨e', he', rfl⟩ := List.mem_map.1 he
    exact .inl ⟨e', bootstrap_effect f w e' he', rfl⟩
  · exact .inr ⟨a, by simpa using ha, he⟩

/-- A bootstrap that does not return is all `main` does: the events of `main` are the bootstrap's,
each a `BootstrapEffect`, the last one ends the process and no earlier one does. -/
theorem main_of_bootstrap_none {f : Flags} {w : World} (h : (bootstrap f w).result = none) :
    ∃ t e, (bootstrap f w).trace = t ++ [e] ∧ (main f w).trace = (t ++ [e]).map Event.effect ∧
      (∀ e' ∈ t ++ [e], BootstrapEffect f w e') ∧ e.ends ∧ ∀ e' ∈ t, ¬ e'.ends := by
  obtain ⟨t, ht, ⟨-, hr⟩ | ⟨e, he, htr, -⟩⟩ := bootstrap_exits f w
  · simp [h] at hr
  · refine ⟨t, e, htr, ?_, fun e' he' => bootstrap_effect f w e' (htr ▸ he'), he, ht⟩
    rw [main, Proc.trace_bind_of_none (by simpa using h), Proc.trace_mapTrace, htr]

/-- After the bootstrap, `main` neither calls the driver nor looks up an owner. -/
theorem coordinate_quiet {f : Flags} {w : World} {a : Assembly} {e : Event}
    (he : e ∈ (coordinate f w a).trace) : e.csiCall? = none ∧ e.ownerLookup? = none := by
  rcases mem_coordinate_trace he with rfl | ⟨_, rfl | rfl⟩ | ⟨_, _, _, rfl⟩ | ⟨rfl, -⟩ | he
  iterate 5 exact ⟨rfl, rfl⟩
  cases e <;> first | exact ⟨rfl, rfl⟩ | cases he

/-- A projection of the events of `main` that sees nothing after the bootstrap sees the bootstrap's
effects, whether the bootstrap went on or ended the process. -/
theorem filterMap_main_trace {f : Flags} {w : World} {β : Type} {p : Event → Option β}
    (hp : ∀ a, ∀ e ∈ (coordinate f w a).trace, p e = none) :
    (main f w).trace.filterMap p = (bootstrap f w).trace.filterMap (p ∘ Event.effect) := by
  rw [main]
  cases h : (bootstrap f w).result with
  | none => rw [Proc.trace_bind_of_none (by simpa using h), Proc.trace_mapTrace, List.filterMap_map]
  | some a =>
    rw [Proc.trace_bind_of_some (by simpa using h), List.filterMap_append,
      List.filterMap_eq_nil_iff.2 (hp a), List.append_nil, Proc.trace_mapTrace, List.filterMap_map]

/-- `main` calls the driver in its bootstrap only. -/
theorem main_calls (f : Flags) (w : World) :
    (main f w).trace.filterMap Event.csiCall? = (bootstrap f w).trace.filterMap Effect.csiCall? :=
  filterMap_main_trace fun _ _ he => (coordinate_quiet he).1

/-- The bootstrap runs no controller. -/
theorem main_controllerRuns {f : Flags} {w : World} {a : Assembly}
    (h : (bootstrap f w).result = some a) :
    (main f w).trace.filterMap Event.controllerRun? =
      (coordinate f w a).trace.filterMap Event.controllerRun? := by
  have hboot : (bootstrap f w).trace.filterMap (Event.controllerRun? ∘ Event.effect) = [] :=
    List.filterMap_eq_nil_iff.2 fun _ _ => rfl
  rw [main, Proc.trace_bind_of_some (by simpa using h), Proc.trace_mapTrace, List.filterMap_append,
    List.filterMap_map, hboot, List.nil_append]

/-- The leader election runs the controllers of `run` under its context once its health check, when
there is one, registered, its client was built, and leadership acquired; none otherwise. -/
theorem runWithLeaderElection_controllerRuns (f : Flags) (w : World) (a : Assembly) (mux : ServeMux) :
    (runWithLeaderElection f w a mux).trace.filterMap Event.controllerRun? =
      if (f.httpEndpoint ≠ "" → w.healthCheckerAddress ≠ "" ∧ w.healthCheckerAddress ∉ mux.patterns) ∧
          w.newLeaderElectionClientset.toBool ∧ w.election = .acquired then
        (run f w a .leading).trace.filterMap Event.controllerRun?
      else [] := by
  unfold runWithLeaderElection
  cases w.newLeaderElectionClientset with
  | error => simp [orFatal, fatal, Event.controllerRun?, Except.toBool]
  | ok =>
    rw [prepareHealthCheck_eq]
    by_cases hh : f.httpEndpoint = ""
    · cases w.election <;> simp [hh, orFatal, Event.controllerRun?, Except.toBool]
    · by_cases hc : w.healthCheckerAddress ≠ "" ∧ w.healthCheckerAddress ∉ mux.patterns
      · cases w.election <;> simp [hh, hc, orFatal, Event.controllerRun?, Except.toBool]
      · simp [hh, hc, orFatal, Event.controllerRun?, Except.toBool]

/-- After the bootstrap, the controllers are those of `run`, once the handlers of the HTTP server
registered and, with leader election, the election client was built and leadership acquired:
under the election's context with leader election, under `context.TODO()` without. Otherwise
there are none. -/
theorem coordinate_controllerRuns (f : Flags) (w : World) (a : Assembly) :
    (coordinate f w a).trace.filterMap Event.controllerRun? =
      if HandlersRegister f w a ∧
          (f.enableLeaderElection = true → w.newLeaderElectionClientset.toBool ∧ w.election = .acquired) then
        (run f w a (if f.enableLeaderElection then .leading else .todo)).trace.filterMap Event.controllerRun?
      else [] := by
  have hne : w.healthCheckerAddress ≠ f.metricsPath ↔ f.metricsPath ≠ w.healthCheckerAddress := ne_comm
  unfold coordinate
  rw [startHTTPServer_eq]
  by_cases ha : a.addr = "" <;> by_cases hp : f.metricsPath = "" <;>
    cases hle : f.enableLeaderElection <;>
    simp [ha, hp, hle, hne, handlersRegister_iff, runWithLeaderElection_controllerRuns,
      Event.controllerRun?]

/-- A controller runs only once every cache of `factory` was reported synced. -/
theorem allSynced_of_runController {f : Flags} {w : World} {a : Assembly} {c : Controller}
    {ctx : Context} (h : (bootstrap f w).result = some a)
    (hrun : Event.runController c ctx ∈ (main f w).trace) : allSynced w = true := by
  have hmem : (c, ctx) ∈ (main f w).trace.filterMap Event.controllerRun? :=
    List.mem_filterMap.2 ⟨_, hrun, rfl⟩
  rw [main_controllerRuns h, coordinate_controllerRuns] at hmem
  by_contra hs
  simp only [run_controllerRuns, hs, Bool.false_eq_true, if_false, ite_self] at hmem
  exact List.not_mem_nil _ hmem

/-- The runs of the process: the events of `main` up to any point, possibly ended there by
`klog.Fatal` in another goroutine. -/
inductive Execution (f : Flags) (w : World) : List Event → Prop
  | running {t : List Event} : t <+: (main f w).trace → Execution f w t
  | killed {t : List Event} (msg : String) :
      t <+: (main f w).trace → Execution f w (t ++ [.effect (.fatal msg)])

/-! ## Sample clusters -/

/-- A cluster and a driver that answer every call; the driver declares every capability. -/
def sampleWorld : World where
  getenv _ := ""
  arg0 := "csi-provisioner"
  setFeatureGates := .ok ()
  buildConfig _ := .ok ()
  newClientset := .ok ()
  newSnapshotClientset := .ok ()
  serverVersion := .ok "v1.20.0"
  connect _ := .ok ()
  probe _ := .ok ()
  getDriverName := .ok "hostpath.csi.k8s.io"
  isMigratedCSIDriverByName _ := false
  getInTreeNameFromCSIName _ := .error "not migrated"
  getDriverCapabilities := .ok (fun _ => true, fun _ => true)
  supportsTopology _ := true
  nowUnixNano := 0
  randIntn := 0
  getNodeInfo := .ok { nodeId := "node-1", accessibleTopology := none }
  topologyKeysOrder := .ofEntries
  segmentOrder := .ofEntries
  lookupOwner _ _ _ := .ok ⟨"apps/v1", "StatefulSet", "csi-hostpath"⟩
  newLeaderElectionClientset := .ok ()
  election := .acquired
  cacheSyncResult := ⟨[(.storageClasses, true), (.persistentVolumeClaims, true)], by decide⟩
  cacheSyncOrder := .ofEntries
  leadershipLost := false
  healthCheckerAddress := "/healthz/leader-election"

/-- The same cluster, with a driver that does not answer `GetPluginInfo`. -/
def unnamedDriverWorld : World := { sampleWorld with getDriverName := .error "rpc error: code = Unavailable" }

/-- The topology of `node-1`: one segment. -/
def nodeLocalTopology : Topology := ⟨⟨[("topology.hostpath.csi/node", "node-1")], by decide⟩⟩

/-- A node-local driver on `node-1`, in the namespace `kube-system`. -/
def nodeLocalWorld : World :=
  { sampleWorld with
    getenv := fun k => if k = "NODE_NAME" then "node-1" else if k = "NAMESPACE" then "kube-system"
      else if k = "POD_NAME" then "csi-hostpathplugin-0" else ""
    getNodeInfo := .ok { nodeId := "node-1", accessibleTopology := some nodeLocalTopology } }

/-- The flags of a node-local deployment that publishes capacity. -/
def nodeLocalFlags : Flags := { enableNodeDeployment := true, enableCapacity := true }

end CsiProvisioner
