import CsiProvisioner.Go.Proc
import CsiProvisioner.Api.Types

/-!
# Flags, collaborators and events of `main`

`main` (`cmd/csi-provisioner/csi-provisioner.go`) is modelled as a `Proc` over its observable
events. Its inputs are the command-line flags it reads (`Flags`, with the defaults of their
declarations) and the answers of everything it calls out to (`World`): the environment, the
Kubernetes client constructors, the CSI driver, the leader election of `csi-lib-utils`, and the
Go runtime's choice of order for each `range` loop over a map. Every theorem about `main`
quantifies over both.

The events are split in two. An `Effect` is something any part of `main` may do: end the process,
call the driver, start a goroutine of its own. An `Event` is an effect or a step of the controller
lifecycle: starting an informer factory, waiting for its caches, running a controller, taking part
in the leader election.

The fallible steps of the source (`orFatal`, `orExit`, `callDriver`) each come with a lemma for
`Proc.Exits`, one for `Proc.All`, and one for the calls to the driver they add (`calls_*_bind`), so
that a property of a whole stage of `main` is assembled one step at a time. `orPanic` is a library
call that panics on an error, which ends the process too (`exits_orPanic`).
-/

namespace CsiProvisioner

/-- Go's `int(x)` for a `uint` `x` on a 64-bit platform: the same bits, read as signed
(`9223372036854775808` is `2 ^ 63`, `18446744073709551616` is `2 ^ 64`). -/
def goInt (x : UInt64) : Int :=
  if x.toNat < 9223372036854775808 then x.toNat else x.toNat - 18446744073709551616

/-- The package variable `version`, set at link time; `"unknown"` otherwise. -/
def version : String := "unknown"

/-- The flags that `main` reads, with the defaults of their declarations (`:64-101`). -/
structure Flags where
  master : String := ""
  kubeconfig : String := ""
  csiEndpoint : String := "/run/csi/socket"
  showVersion : Bool := false
  workerThreads : UInt64 := 100
  finalizerThreads : UInt64 := 1
  capacityThreads : UInt64 := 1
  enableLeaderElection : Bool := false
  leaderElectionNamespace : String := ""
  metricsAddress : String := ""
  httpEndpoint : String := ""
  metricsPath : String := "/metrics"
  enableCapacity : Bool := false
  capacityOwnerrefLevel : Int := 1
  enableNodeDeployment : Bool := false

/-- Where `main` builds its REST config from (`:157-163`). -/
inductive ConfigSource
  /-- `clientcmd.BuildConfigFromFlags(master, kubeconfig)`. -/
  | flags (master kubeconfig : String)
  /-- `rest.InClusterConfig()`. -/
  | inCluster

/-- What the leader election of `csi-lib-utils` does once `le.Run()` is called. -/
inductive Election
  /-- `le.Run()` returns an error before taking part. -/
  | initFailed (err : String)
  /-- Another instance holds the lock: `le.Run()` blocks as a candidate. -/
  | standby
  /-- Leadership is acquired: the election calls `run` with a context of its own. -/
  | acquired
  deriving DecidableEq

/-- The answers of everything `main` calls out to. A call that can fail answers an `Except`. -/
structure World where
  /-- `os.Getenv`: the empty string for a variable that is not set. -/
  getenv : String → String
  /-- `os.Args[0]`. -/
  arg0 : String
  /-- `utilfeature.DefaultMutableFeatureGate.SetFromMap(featureGates)`. -/
  setFeatureGates : Except String Unit
  /-- Building the REST config from a source. -/
  buildConfig : ConfigSource → Except String Unit
  /-- `kubernetes.NewForConfig(config)` (`:171`). -/
  newClientset : Except String Unit
  /-- `snapclientset.NewForConfig(config)`. -/
  newSnapshotClientset : Except String Unit
  /-- `clientset.Discovery().ServerVersion()`, its `GitVersion`. -/
  serverVersion : Except String String
  /-- `ctrl.Connect`, without or with the migration label on the metrics manager. -/
  connect : Bool → Except String Unit
  /-- `ctrl.Probe` on the first or on the migrated connection. -/
  probe : Bool → Except String Unit
  /-- `ctrl.GetDriverName`. -/
  getDriverName : Except String String
  /-- `translator.IsMigratedCSIDriverByName`. -/
  isMigratedCSIDriverByName : String → Bool
  /-- `translator.GetInTreeNameFromCSIName`. -/
  getInTreeNameFromCSIName : String → Except String String
  /-- `ctrl.GetDriverCapabilities`. -/
  getDriverCapabilities : Except String (PluginCapabilitySet × ControllerCapabilitySet)
  /-- `ctrl.SupportsTopology`, of the plugin capabilities (and the feature gates it reads). -/
  supportsTopology : PluginCapabilitySet → Bool
  /-- `time.Now().UnixNano()`. -/
  nowUnixNano : Int
  /-- `rand.Intn(10000)`. -/
  randIntn : Fin 10000
  /-- `ctrl.GetNodeInfo`. -/
  getNodeInfo : Except String NodeInfo
  /-- The order of the loop over the topology segments that collects `TopologyKeys` (`:328`). -/
  topologyKeysOrder : RangeOrder String String
  /-- The order of the loop over the topology segments that builds the fixed segment (`:437`). -/
  segmentOrder : RangeOrder String String
  /-- `owner.Lookup(config, namespace, podName, gvk, level)`. -/
  lookupOwner : String → String → Int → Except String OwnerReference
  /-- `kubernetes.NewForConfig(config)` for the leader election (`:558`). -/
  newLeaderElectionClientset : Except String Unit
  /-- What `le.Run()` does. -/
  election : Election
  /-- For each informer of `factory`, whether its cache had synced when
  `factory.WaitForCacheSync(ctx.Done())` returned or, while it waits, whether it will sync. -/
  cacheSyncResult : GoMap InformerType Bool
  /-- The order of the loop over the sync result (`:535`). -/
  cacheSyncOrder : RangeOrder InformerType Bool
  /-- The elected instance loses its leadership while `WaitForCacheSync` waits, which closes the
  `Done()` channel of the context the election handed to `run`. -/
  leadershipLost : Bool
  /-- `leaderelection.HealthCheckerAddress`, the path `le.PrepareHealthCheck` registers the health
  check at on the mux (`:565`). -/
  healthCheckerAddress : String

/-- A call on the connection to the CSI driver. -/
inductive CsiCall
  /-- `ctrl.Connect(*csiEndpoint, metricsManager)`; `migrated` when the metrics carry the
  migration label. -/
  | connect (endpoint : String) (migrated : Bool)
  | probe
  | getDriverName
  | getDriverCapabilities
  | getNodeInfo
  /-- `grpcClient.Close()`. -/
  | close
  deriving DecidableEq, Repr

/-- What any part of `main` may do that can be observed. -/
inductive Effect
  /-- `klog.Fatal`, `klog.Fatalf`: log the message and end the process. -/
  | fatal (msg : String)
  /-- `klog.Error`. -/
  | error (msg : String)
  /-- `os.Exit(code)`. -/
  | exit (code : Int)
  /-- `fmt.Println`. -/
  | println (line : String)
  | csi (call : CsiCall)
  /-- `owner.Lookup`: read the pod and the objects that own it. -/
  | lookupOwner (ns podName : String) (gvk : GroupVersionKind) (level : Int)
  /-- `go topologyInformer.RunWorker(context.Background())`. -/
  | runTopologyWorker
  /-- `go http.ListenAndServe(addr, mux)`, with the metrics handler at `path`. -/
  | serveHTTP (addr path : String)
  /-- A panic in the goroutine of `main`, which ends the process. -/
  | panic (msg : String)
  deriving DecidableEq, Repr

/-- The contexts `main` runs controllers under. -/
inductive Context
  /-- `context.TODO()`, which is never done. -/
  | todo
  /-- The context the leader election hands to its callback once leadership is acquired. -/
  | leading
  deriving DecidableEq, Repr

/-- The controllers `main` runs, with the worker counts they run with. -/
inductive Controller
  /-- `capacityController.Run(ctx, int(*capacityThreads))`. -/
  | capacity (workers : Int)
  /-- `csiClaimController.Run(ctx, int(*finalizerThreads))`. -/
  | cloningProtection (workers : Int)
  /-- `provisionController.Run(ctx)`, configured with `Threadiness(int(*workerThreads))`. -/
  | provision (threadiness : Int)
  deriving DecidableEq, Repr

/-- An event of `main`: an effect, or a step of the controller lifecycle. -/
inductive Event
  | effect (e : Effect)
  /-- `factory.Start(ctx.Done())`. -/
  | factoryStart (ctx : Context)
  /-- `factoryForNamespace.Start(ctx.Done())`. -/
  | factoryForNamespaceStart (ctx : Context)
  /-- `factory.WaitForCacheSync(ctx.Done())`. -/
  | waitForCacheSync (ctx : Context)
  /-- A controller's `Run` is called, directly or by a `go` statement. -/
  | runController (c : Controller) (ctx : Context)
  /-- `le.Run()`, for the lock `lockName`, in the namespace `ns` when it is not empty, with the health
  check on the HTTP server when `healthCheck`. -/
  | leaderElection (lockName ns : String) (healthCheck : Bool)
  /-- The leader election acquired the lock and calls its callback. -/
  | startedLeading
  deriving DecidableEq, Repr

/-- The call to the CSI driver an effect makes, if any. -/
def Effect.csiCall? : Effect → Option CsiCall
  | .csi c => some c
  | _ => none

/-- The call to the CSI driver an event makes, if any. -/
def Event.csiCall? : Event → Option CsiCall
  | .effect e => e.csiCall?
  | _ => none

@[simp] theorem Effect.csiCall?_comp_csi : Effect.csiCall? ∘ Effect.csi = some := rfl

@[simp] theorem Event.csiCall?_comp_effect : Event.csiCall? ∘ Event.effect = Effect.csiCall? := rfl

/-- The owner lookup an event makes, if any: the namespace, the pod, its kind and the level. -/
def Event.ownerLookup? : Event → Option (String × String × GroupVersionKind × Int)
  | .effect (.lookupOwner ns podName gvk level) => some (ns, podName, gvk, level)
  | _ => none

/-- The controller an event runs, with its context, if any. -/
def Event.controllerRun? : Event → Option (Controller × Context)
  | .runController c ctx => some (c, ctx)
  | _ => none

/-- `klog.Fatal(msg)`. -/
def fatal {α : Type} (msg : String) : Proc Effect α := Proc.halt (.fatal msg)

/-- `klog.Error(msg)` followed by `os.Exit(1)`. -/
def errorExit {α : Type} (msg : String) : Proc Effect α := do
  Proc.emit (.error msg)
  Proc.halt (.exit 1)

/-- `v, err := call(); if err != nil { klog.Fatalf(format, err) }`. -/
def orFatal {α : Type} (r : Except String α) (format : String → String) : Proc Effect α :=
  match r with
  | .ok a => pure a
  | .error e => fatal (format e)

/-- `v, err := call(); if err != nil { klog.Error(err.Error()); os.Exit(1) }`. -/
def orExit {α : Type} (r : Except String α) : Proc Effect α :=
  match r with
  | .ok a => pure a
  | .error e => errorExit e

/-- A call that panics on an error; the panic ends the process. -/
def orPanic {α : Type} (r : Except String α) : Proc Effect α :=
  match r with
  | .ok a => pure a
  | .error e => Proc.halt (.panic e)

/-- A call to the CSI driver: the call, then its answer. -/
def callDriver {α : Type} (call : CsiCall) (answer : Except String α) : Proc Effect (Except String α) := do
  Proc.emit (.csi call)
  pure answer

section

variable {α β : Type}

@[simp] theorem result_orFatal_eq_some {r : Except String α} {format : String → String} {a : α} :
    (orFatal r format).result = some a ↔ r = .ok a := by
  cases r <;> simp [orFatal, fatal]

@[simp] theorem result_orExit_eq_some {r : Except String α} {a : α} :
    (orExit r).result = some a ↔ r = .ok a := by
  cases r <;> simp [orExit, errorExit]

@[simp] theorem result_orPanic_eq_some {r : Except String α} {a : α} :
    (orPanic r).result = some a ↔ r = .ok a := by
  cases r <;> simp [orPanic]

@[simp] theorem fatal_bind (msg : String) (g : α → Proc Effect β) : fatal msg >>= g = fatal msg := rfl

@[simp] theorem errorExit_bind (msg : String) (g : α → Proc Effect β) :
    errorExit msg >>= g = errorExit msg := rfl

@[simp] theorem result_fatal (msg : String) : (fatal msg : Proc Effect α).result = none := rfl

@[simp] theorem result_errorExit (msg : String) : (errorExit msg : Proc Effect α).result = none := rfl

@[simp] theorem trace_fatal (msg : String) : (fatal msg : Proc Effect α).trace = [.fatal msg] := rfl

@[simp] theorem trace_errorExit (msg : String) :
    (errorExit msg : Proc Effect α).trace = [.error msg, .exit 1] := rfl

/-- `klog.Fatal`, `os.Exit` and a panic end the process. -/
def Effect.ends : Effect → Bool
  | .fatal _ | .exit _ | .panic _ => true
  | _ => false

theorem exits_fatal (msg : String) : Proc.Exits (Effect.ends ·) (fatal msg : Proc Effect α) :=
  Proc.exits_halt rfl

theorem exits_errorExit (msg : String) : Proc.Exits (Effect.ends ·) (errorExit msg : Proc Effect α) :=
  ⟨[.error msg], by simp [Effect.ends], .inr ⟨.exit 1, rfl, rfl, rfl⟩⟩

theorem exits_orFatal (r : Except String α) (format : String → String) :
    Proc.Exits (Effect.ends ·) (orFatal r format) := by
  cases r
  · exact exits_fatal _
  · exact Proc.exits_pure _

theorem exits_orExit (r : Except String α) : Proc.Exits (Effect.ends ·) (orExit r) := by
  cases r
  · exact exits_errorExit _
  · exact Proc.exits_pure _

theorem exits_orPanic (r : Except String α) : Proc.Exits (Effect.ends ·) (orPanic r) := by
  cases r
  · exact Proc.exits_halt rfl
  · exact Proc.exits_pure _

theorem exits_callDriver (call : CsiCall) (answer : Except String α) :
    Proc.Exits (Effect.ends ·) (callDriver call answer) :=
  ⟨[.csi call], by simp [Effect.ends], .inl ⟨rfl, rfl⟩⟩

section

variable {P : Effect → Prop}

theorem all_fatal (msg : String) (h : P (.fatal msg)) : Proc.All P (fatal msg : Proc Effect α) :=
  Proc.all_halt h

theorem all_errorExit (msg : String) (h : P (.error msg)) (hexit : P (.exit 1)) :
    Proc.All P (errorExit msg : Proc Effect α) :=
  Proc.all_bind (Proc.all_emit h) fun _ _ => Proc.all_halt hexit

theorem all_orFatal (r : Except String α) (format : String → String) (h : ∀ msg, P (.fatal msg)) :
    Proc.All P (orFatal r format) := by
  cases r
  · exact all_fatal _ (h _)
  · exact Proc.all_pure _

theorem all_orExit (r : Except String α) (h : ∀ msg, P (.error msg)) (hexit : P (.exit 1)) :
    Proc.All P (orExit r) := by
  cases r
  · exact all_errorExit _ (h _) hexit
  · exact Proc.all_pure _

theorem all_callDriver (call : CsiCall) (answer : Except String α) (h : P (.csi call)) :
    Proc.All P (callDriver call answer) :=
  Proc.all_bind (Proc.all_emit h) fun _ _ => Proc.all_pure _

end

@[simp] theorem callDriver_bind (call : CsiCall) (answer : Except String α)
    (g : Except String α → Proc Effect β) :
    callDriver call answer >>= g = ⟨.csi call :: (g answer).trace, (g answer).result⟩ := rfl

section

variable {l : List CsiCall}

/-! The calls to the driver of a run that may stop at any step are a prefix of those of a run that
goes on: each lemma consumes the calls of one step. -/

theorem calls_orFatal_bind {g : α → Proc Effect β} (r : Except String α) (format : String → String)
    (h : ∀ a, r = .ok a → (g a).trace.filterMap Effect.csiCall? <+: l) :
    (orFatal r format >>= g).trace.filterMap Effect.csiCall? <+: l := by
  cases r with
  | error => simp [orFatal, Effect.csiCall?]
  | ok a => exact h a rfl

theorem calls_orExit_bind {g : α → Proc Effect β} (r : Except String α)
    (h : ∀ a, r = .ok a → (g a).trace.filterMap Effect.csiCall? <+: l) :
    (orExit r >>= g).trace.filterMap Effect.csiCall? <+: l := by
  cases r with
  | error => simp [orExit, Effect.csiCall?]
  | ok a => exact h a rfl

theorem calls_callDriver_bind {g : Except String α → Proc Effect β} (call : CsiCall)
    (answer : Except String α) (h : (g answer).trace.filterMap Effect.csiCall? <+: l) :
    (callDriver call answer >>= g).trace.filterMap Effect.csiCall? <+: call :: l := by
  simpa [Effect.csiCall?] using h

theorem calls_emit_csi_bind {g : Unit → Proc Effect β} (call : CsiCall)
    (h : (g ()).trace.filterMap Effect.csiCall? <+: l) :
    (Proc.emit (.csi call) >>= g).trace.filterMap Effect.csiCall? <+: call :: l := by
  simpa [Effect.csiCall?] using h

end

end

end CsiProvisioner
