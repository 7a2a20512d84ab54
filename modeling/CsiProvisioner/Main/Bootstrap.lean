import CsiProvisioner.Main.Topology
import CsiProvisioner.Main.Capacity

/-!
# The bootstrap of `main`

Everything `main` does before it starts the HTTP server (`csi-provisioner.go:113-500`). The steps
that can end the process follow the source: `preflight` checks the flags and the environment,
`connectDriver` builds the clients and asks the driver for its name and capabilities,
`getNodeDeployment` asks a node-local driver for its node info, and `setupCapacity` checks the
environment of the capacity controller and looks up the owner of its objects. What `main` builds
from their answers is computed by plain functions (`topologyListers`, `listerInformers`,
`capacitySetup`), and `assemble` puts it together into an `Assembly`: the values the `run`
closure and the leader election read.

The bootstrap only has `Effect`s: it starts no informer factory and no controller. Each step has
one lemma for what it returns and emits when it goes on. `bootstrap_result` says that an assembly
is `assemble` of what the fallible steps returned; from it, the namespace-scoped factory and the
capacity controller exist exactly with `--enable-capacity` (`bootstrap_capacity`).
`bootstrap_events` lists the events of a bootstrap that goes on: calls to the driver, the owner
lookup and the topology worker, and nothing printed or logged. `bootstrap_exits`: every bootstrap
returns, or ends the process with its last event. `bootstrap_effect`: every effect of every
bootstrap, one that ends the process included, is of a kind `BootstrapEffect` lists, under the
condition the code checks before it.
-/

namespace CsiProvisioner

/-- `:125-147`: the feature gates, `NODE_NAME`, `--version`, and the address of the HTTP server.
Returns the node's name and the address. -/
def preflight (f : Flags) (w : World) : Proc Effect (String × String) := do
  let _ ← orFatal w.setFeatureGates id
  let node := w.getenv "NODE_NAME"
  if f.enableNodeDeployment && node == "" then
    fatal "The NODE_NAME environment variable must be set when using --enable-node-deployment."
  if f.showVersion then
    Proc.emit (.println (w.arg0 ++ " " ++ version))
    Proc.halt (.exit 0)
  if f.metricsAddress != "" && f.httpEndpoint != "" then
    errorExit "only one of `--metrics-address` and `--http-endpoint` can be set."
  pure (node, if f.metricsAddress == "" then f.httpEndpoint else f.metricsAddress)

/-- `main` goes on with the node's name from `NODE_NAME`, set in a node-local deployment, and the
address of the metrics address, or else of the HTTP endpoint; at most one of the two is set. The
checks emit nothing then. -/
theorem preflight_result {f : Flags} {w : World} {node addr : String}
    (h : (preflight f w).result = some (node, addr)) :
    node = w.getenv "NODE_NAME" ∧ (f.enableNodeDeployment = true → node ≠ "") ∧
      (f.metricsAddress ≠ "" → f.httpEndpoint = "") ∧
      addr = (if f.metricsAddress = "" then f.httpEndpoint else f.metricsAddress) ∧
      (preflight f w).trace = [] := by
  simp only [preflight, Proc.result_bind_eq_some, result_orFatal_eq_some] at h
  obtain ⟨_, hg, h⟩ := h
  by_cases h₁ : (f.enableNodeDeployment && w.getenv "NODE_NAME" == "") = true
  · simp [h₁] at h
  by_cases h₂ : f.showVersion = true
  · simp [h₁, h₂] at h
  by_cases h₃ : (f.metricsAddress != "" && f.httpEndpoint != "") = true
  · simp [h₁, h₂, h₃] at h
  simp only [h₁, h₂, h₃, Bool.false_eq_true, if_false, Proc.pure_bind, Proc.result_pure,
    Option.some.injEq, Prod.mk.injEq] at h
  obtain ⟨rfl, rfl⟩ := h
  exact ⟨rfl, fun h => by simpa [h] using h₁, fun h => by simpa [h] using h₃, by simp,
    by simp [preflight, hg, orFatal, h₁, h₂, h₃]⟩

/-- The checks before the clients are built call no driver. -/
theorem preflight_calls (f : Flags) (w : World) : (preflight f w).trace.filterMap Effect.csiCall? = [] := by
  unfold preflight
  cases hg : w.setFeatureGates with
  | error => simp [orFatal, Effect.csiCall?]
  | ok =>
    simp only [orFatal, Proc.pure_bind]
    by_cases h₁ : (f.enableNodeDeployment && w.getenv "NODE_NAME" == "") = true
    · simp [h₁, Effect.csiCall?]
    by_cases h₂ : f.showVersion = true
    · simp [h₁, h₂, Effect.csiCall?]
    by_cases h₃ : (f.metricsAddress != "" && f.httpEndpoint != "") = true <;>
      simp [h₁, h₂, h₃, Effect.csiCall?]

/-- What `main` learns from the cluster and the driver (`:149-261`). -/
structure Driver where
  name : String
  /-- `supportsMigrationFromInTreePluginName`: empty unless the driver replaces an in-tree one. -/
  migratedFrom : String
  pluginCapabilities : PluginCapabilitySet
  controllerCapabilities : ControllerCapabilitySet
  serverGitVersion : String

/-- The source of the REST config: `KUBECONFIG` overrides `--kubeconfig` (`:150-163`). -/
def configSource (f : Flags) (w : World) : ConfigSource :=
  let kubeconfig := if w.getenv "KUBECONFIG" != "" then w.getenv "KUBECONFIG" else f.kubeconfig
  if f.master != "" || kubeconfig != "" then .flags f.master kubeconfig else .inCluster

/-- `:215-242`: a driver that replaces an in-tree plugin is connected again, with the migration
label on its metrics, and probed again. Returns `supportsMigrationFromInTreePluginName`, empty for
any other driver. -/
def connectMigrated (f : Flags) (w : World) (name : String) : Proc Effect String :=
  if w.isMigratedCSIDriverByName name then do
    let inTree ← orFatal (w.getInTreeNameFromCSIName name) fun e =>
      "Failed to get InTree plugin name for migrated CSI plugin " ++ name ++ ": " ++ e
    let _ ← orExit (← callDriver (.connect f.csiEndpoint true) (w.connect true))
    Proc.emit (.csi .close)
    let _ ← orExit (← callDriver .probe (w.probe true))
    pure inTree
  else pure ""

/-- A driver that replaces an in-tree plugin names that plugin and is connected and probed again;
any other driver replaces nothing and is not called. -/
theorem connectMigrated_result {f : Flags} {w : World} {name m : String}
    (h : (connectMigrated f w name).result = some m) :
    (if w.isMigratedCSIDriverByName name then w.getInTreeNameFromCSIName name = .ok m else m = "") ∧
      (connectMigrated f w name).trace =
        if w.isMigratedCSIDriverByName name then
          [.csi (.connect f.csiEndpoint true), .csi .close, .csi .probe]
        else [] := by
  unfold connectMigrated at h ⊢
  by_cases hm : w.isMigratedCSIDriverByName name = true
  · simp only [hm, if_true, Proc.result_bind_eq_some, result_orFatal_eq_some, callDriver_bind,
      result_orExit_eq_some, Proc.result_pure, Option.some.injEq] at h ⊢
    obtain ⟨n, hn, _, hc, _, _, _, hp, rfl⟩ := h
    simp [hn, hc, hp, orFatal, orExit]
  · simp_all

/-- Whatever the driver answers, `connectMigrated` calls it at most as one that goes on does. -/
theorem connectMigrated_calls (f : Flags) (w : World) (name : String) :
    (connectMigrated f w name).trace.filterMap Effect.csiCall? <+:
      if w.isMigratedCSIDriverByName name then [.connect f.csiEndpoint true, .close, .probe] else [] := by
  unfold connectMigrated
  by_cases hm : w.isMigratedCSIDriverByName name = true
  · simp only [hm, if_true]
    refine calls_orFatal_bind _ _ fun _ _ => calls_callDriver_bind _ _ <| calls_orExit_bind _ fun _ _ =>
      calls_emit_csi_bind _ <| calls_callDriver_bind _ _ <| calls_orExit_bind _ fun _ _ => ?_
    simp
  · simp [hm]

/-- `:149-261`: the clients, the connection to the driver, its name, the reconnection of a
migrated driver, and its capabilities. -/
def connectDriver (f : Flags) (w : World) : Proc Effect Driver := do
  let _ ← orFatal (w.buildConfig (configSource f w)) ("Failed to create config: " ++ ·)
  let _ ← orFatal w.newClientset ("Failed to create client: " ++ ·)
  let _ ← orFatal w.newSnapshotClientset ("Failed to create snapshot client: " ++ ·)
  let serverGitVersion ← orFatal w.serverVersion ("Error getting server version: " ++ ·)
  let _ ← orExit (← callDriver (.connect f.csiEndpoint false) (w.connect false))
  let _ ← orExit (← callDriver .probe (w.probe false))
  let name ← orFatal (← callDriver .getDriverName w.getDriverName)
    ("Error getting CSI driver name: " ++ ·)
  let migratedFrom ← connectMigrated f w name
  let caps ← orFatal (← callDriver .getDriverCapabilities w.getDriverCapabilities)
    ("Error getting CSI driver capabilities: " ++ ·)
  pure { name, migratedFrom, pluginCapabilities := caps.1, controllerCapabilities := caps.2,
         serverGitVersion }

/-- A driver `main` goes on with answered its name and capabilities. -/
theorem connectDriver_result {f : Flags} {w : World} {d : Driver}
    (h : (connectDriver f w).result = some d) :
    w.getDriverName = .ok d.name ∧
      w.getDriverCapabilities = .ok (d.pluginCapabilities, d.controllerCapabilities) := by
  simp only [connectDriver, Proc.result_bind_eq_some, callDriver_bind, result_orFatal_eq_some,
    result_orExit_eq_some, Proc.result_pure, Option.some.injEq] at h
  obtain ⟨-, -, -, -, -, -, -, -, -, -, -, -, name, hname, -, -, caps, hcaps, rfl⟩ := h
  exact ⟨hname, hcaps⟩

/-- A `connectDriver` that goes on only calls the driver: connect, probe, ask the name, connect
and probe a migrated driver again, ask the capabilities. -/
theorem connectDriver_trace {f : Flags} {w : World} {d : Driver}
    (h : (connectDriver f w).result = some d) :
    (connectMigrated f w d.name).result = some d.migratedFrom ∧
      (connectDriver f w).trace =
        List.map Effect.csi ([.connect f.csiEndpoint false, .probe, .getDriverName] ++
          (if w.isMigratedCSIDriverByName d.name then [.connect f.csiEndpoint true, .close, .probe]
          else []) ++ [.getDriverCapabilities]) := by
  simp only [connectDriver, Proc.result_bind_eq_some, callDriver_bind, result_orFatal_eq_some,
    result_orExit_eq_some, Proc.result_pure, Option.some.injEq] at h
  obtain ⟨_, hb, _, hcl, _, hs, _, hv, _, hc, _, hp, name, hn, m, hm, caps, hcaps, rfl⟩ := h
  refine ⟨hm, ?_⟩
  simp only [connectDriver, hb, hcl, hs, hv, hc, hp, hn, hcaps, orFatal, orExit, callDriver_bind,
    Proc.pure_bind, Proc.trace_bind_of_some hm, (connectMigrated_result hm).2]
  split <;> simp

/-- The calls of a `connectDriver` that goes on, as the driver's answers determine them. -/
def connectConversation (f : Flags) (w : World) : List CsiCall :=
  [.connect f.csiEndpoint false, .probe, .getDriverName] ++
    (match w.getDriverName with
      | .ok name =>
        if w.isMigratedCSIDriverByName name then [.connect f.csiEndpoint true, .close, .probe] else []
      | .error _ => []) ++
    [.getDriverCapabilities]

/-- Whatever the cluster and the driver answer, the calls of `connectDriver` are a prefix of
`connectConversation`: each call is made once the calls before it were answered. -/
theorem connectDriver_calls (f : Flags) (w : World) :
    (connectDriver f w).trace.filterMap Effect.csiCall? <+: connectConversation f w := by
  unfold connectDriver connectConversation
  refine calls_orFatal_bind _ _ fun _ _ => calls_orFatal_bind _ _ fun _ _ =>
    calls_orFatal_bind _ _ fun _ _ => calls_orFatal_bind _ _ fun _ _ =>
    calls_callDriver_bind _ _ <| calls_orExit_bind _ fun _ _ =>
    calls_callDriver_bind _ _ <| calls_orExit_bind _ fun _ _ =>
    calls_callDriver_bind _ _ <| calls_orFatal_bind _ _ fun name hn => ?_
  simp only [hn]
  refine Proc.filterMap_trace_bind_prefix (connectMigrated_calls f w name) fun _ hm => ⟨?_, ?_⟩
  · rw [(connectMigrated_result hm).2]
    cases w.isMigratedCSIDriverByName name <;> rfl
  · exact calls_callDriver_bind _ _ <| calls_orFatal_bind _ _ fun _ _ => by simp

/-- `:287-301`: the node deployment, with the driver's node info. -/
def getNodeDeployment (f : Flags) (w : World) (node : String) :
    Proc Effect (Option NodeDeployment) :=
  if f.enableNodeDeployment then do
    let info ← orFatal (← callDriver .getNodeInfo w.getNodeInfo)
      ("Failed to get node info from CSI driver: " ++ ·)
    pure (some { nodeName := node, nodeInfo := info })
  else pure none

/-- A node deployment exists exactly with `--node-deployment`, for the node `main` runs on and
with the node info the driver answered. -/
theorem getNodeDeployment_result {f : Flags} {w : World} {node : String} {nd : Option NodeDeployment}
    (h : (getNodeDeployment f w node).result = some nd) :
    nd.isSome = f.enableNodeDeployment ∧
      ∀ x ∈ nd, x.nodeName = node ∧ w.getNodeInfo = .ok x.nodeInfo := by
  unfold getNodeDeployment at h
  split at h <;> simp_all [Proc.result_bind_eq_some]
  · obtain ⟨info, hinfo, rfl⟩ := h
    simpa
  · subst h; simp

/-- A node-local deployment asks the driver for its node info; no other one emits anything. -/
theorem getNodeDeployment_trace {f : Flags} {w : World} {node : String} {nd : Option NodeDeployment}
    (h : (getNodeDeployment f w node).result = some nd) :
    (getNodeDeployment f w node).trace = if f.enableNodeDeployment then [.csi .getNodeInfo] else [] := by
  unfold getNodeDeployment at h ⊢
  split at h <;> simp_all [Proc.result_bind_eq_some]
  obtain ⟨info, hinfo, -⟩ := h
  simp [hinfo, orFatal]

/-- Whatever the driver answers, only a node-local deployment asks it for its node info. -/
theorem getNodeDeployment_calls (f : Flags) (w : World) (node : String) :
    (getNodeDeployment f w node).trace.filterMap Effect.csiCall? <+:
      if f.enableNodeDeployment then [.getNodeInfo] else [] := by
  unfold getNodeDeployment
  cases f.enableNodeDeployment
  · simp
  · exact calls_callDriver_bind _ _ <| calls_orFatal_bind _ _ fun _ _ => by simp

/-- The listers handed to the provisioner for `CSINode` and `Node` objects (`:303-349`). -/
inductive TopologyListers
  /-- The driver does not support topology: both listers are nil. -/
  | none
  /-- Listers of `factory`: every `CSINode` and `Node` of the cluster is watched. -/
  | live
  /-- Listers of a factory that is never started, holding one static object of each kind. -/
  | static (csiNode : CSINode) (node : Node)

/-- `:303-349`: the topology listers, static in a node-local deployment. -/
def topologyListers (w : World) (d : Driver) (nodeDeployment : Option NodeDeployment) :
    TopologyListers :=
  if w.supportsTopology d.pluginCapabilities then
    match nodeDeployment with
    | some nd =>
      let objects := localTopologyObjects d.name nd w.topologyKeysOrder
      .static objects.1 objects.2
    | none => .live
  else .none

/-- `identity` (`:264-268`): milliseconds since the epoch, a random number, the driver's name,
and the node's name in a node-local deployment. -/
def provisionerIdentity (f : Flags) (w : World) (provisionerName node : String) : String :=
  let identity := toString (w.nowUnixNano.tdiv 1000000) ++ "-" ++ toString w.randIntn.val ++ "-" ++
    provisionerName
  if f.enableNodeDeployment then identity ++ "-" ++ node else identity

/-- The informers `main` asks `factory` for, in the order of the source, outside the capacity
branch: the storage class and claim listers (`:276-277`), the `VolumeAttachment` lister when the
driver can publish volumes (`:280-285`), the topology listers of a cluster-wide deployment
(`:346-347`) and the claim informer (`:355`). -/
def listerInformers (d : Driver) (topology : TopologyListers) : List InformerType :=
  [.storageClasses, .persistentVolumeClaims] ++
    (if d.controllerCapabilities .publishUnpublishVolume then [.volumeAttachments] else []) ++
    (match topology with | .live => [.csiNodes, .nodes] | _ => []) ++ [.persistentVolumeClaims]

/-- The topology informer of the capacity controller (`:425-443`). -/
inductive TopologyInformer
  /-- `topology.NewNodeTopology`, over the `Node` and `CSINode` informers of `factory`. -/
  | nodeTopology
  /-- `topology.NewFixedNodeTopology(&segment)`. -/
  | fixed (segment : List SegmentEntry)

/-- `factoryForNamespace`: informers of one namespace, restricted by a label selector. -/
structure NamespacedFactory where
  ns : String
  labelSelector : CapacityLabel → String

/-- The arguments `main` computes for `capacity.NewCentralCapacityController` (`:465-479`). -/
structure CapacityController where
  owner : Option OwnerReference
  managedByID : String
  ns : String
  topology : TopologyInformer

/-- What the capacity branch builds, and the informers of `factory` it hands over: those of
`NewNodeTopology` in a cluster-wide deployment, and the storage classes. -/
structure CapacitySetup where
  factoryForNamespace : NamespacedFactory
  controller : CapacityController
  informers : List InformerType

/-- `:406-423`: the owner of the `CSIStorageCapacity` objects, looked up from the pod unless the
level is negative. -/
def capacityOwner (f : Flags) (w : World) (ns : String) : Proc Effect (Option OwnerReference) :=
  if f.capacityOwnerrefLevel ≥ 0 then do
    let podName := w.getenv "POD_NAME"
    if podName == "" then fatal "need POD_NAME env variable to determine CSIStorageCapacity owner"
    Proc.emit (.lookupOwner ns podName ⟨"", "v1", "Pod"⟩ f.capacityOwnerrefLevel)
    let o ← orFatal (w.lookupOwner ns podName f.capacityOwnerrefLevel)
      ("look up owner(s) of pod: " ++ ·)
    pure (some o)
  else pure none

/-- The capacity objects have an owner exactly when the level is not negative, and then it is
what `owner.Lookup` answered for the pod `POD_NAME`, which is set. -/
theorem capacityOwner_result {f : Flags} {w : World} {ns : String} {o : Option OwnerReference}
    (h : (capacityOwner f w ns).result = some o) :
    (o.isSome ↔ 0 ≤ f.capacityOwnerrefLevel) ∧ ∀ r ∈ o, w.getenv "POD_NAME" ≠ "" ∧
      w.lookupOwner ns (w.getenv "POD_NAME") f.capacityOwnerrefLevel = .ok r := by
  unfold capacityOwner at h
  split at h
  · dsimp only at h
    split at h
    · simp at h
    · simp only [Proc.pure_bind, Proc.emit_bind, Proc.result_bind_eq_some, result_orFatal_eq_some,
        Proc.result_pure, Option.some.injEq] at h
      obtain ⟨r, hr, rfl⟩ := h
      simp_all
  · cases h; simp_all

/-- `:425-479`: the topology informer, the managed-by identity, the namespace-scoped factory and
the arguments of the capacity controller. -/
def capacitySetup (f : Flags) (w : World) (node : String) (d : Driver)
    (nodeDeployment : Option NodeDeployment) (ns : String) (owner : Option OwnerReference) :
    CapacitySetup :=
  let topology := match nodeDeployment with
    | none => TopologyInformer.nodeTopology
    | some nd => .fixed (fixedSegment nd w.segmentOrder)
  let managedBy := managedByID f.enableNodeDeployment node
  { factoryForNamespace := { ns, labelSelector := capacityLabelSelector d.name managedBy },
    controller := { owner, managedByID := managedBy, ns, topology },
    informers := (if nodeDeployment.isNone then [.nodes, .csiNodes] else []) ++ [.storageClasses] }

/-- `:401-484`, the body of `if *enableCapacity`. -/
def setupCapacity (f : Flags) (w : World) (node : String) (d : Driver)
    (nodeDeployment : Option NodeDeployment) : Proc Effect CapacitySetup := do
  let ns := w.getenv "NAMESPACE"
  if ns == "" then fatal "need NAMESPACE env variable for CSIStorageCapacity objects"
  let owner ← capacityOwner f w ns
  Proc.emit .runTopologyWorker
  pure (capacitySetup f w node d nodeDeployment ns owner)

/-- The capacity branch goes on only with `NAMESPACE` set, and builds `capacitySetup` for it and
for the owner it found. -/
theorem setupCapacity_result {f : Flags} {w : World} {node : String} {d : Driver}
    {nd : Option NodeDeployment} {c : CapacitySetup} (h : (setupCapacity f w node d nd).result = some c) :
    w.getenv "NAMESPACE" ≠ "" ∧ ∃ owner, (capacityOwner f w (w.getenv "NAMESPACE")).result = some owner ∧
      c = capacitySetup f w node d nd (w.getenv "NAMESPACE") owner := by
  simp only [setupCapacity, Proc.result_bind_eq_some] at h
  split_ifs at h with hns
  · simp at h
  · simp only [Proc.pure_bind, Proc.result_bind_eq_some, Proc.emit_bind, Proc.result_pure,
      Option.some.injEq] at h
    obtain ⟨owner, ho, rfl⟩ := h
    exact ⟨by simpa using hns, owner, ho, rfl⟩

/-- With `NAMESPACE` unset, or with an owner to look up and `POD_NAME` unset, the capacity branch
ends the process at once, with the error about the first of the two that is missing. -/
theorem setupCapacity_misconfigured {f : Flags} {w : World} {node : String} {d : Driver}
    {nd : Option NodeDeployment}
    (hmis : w.getenv "NAMESPACE" = "" ∨ 0 ≤ f.capacityOwnerrefLevel ∧ w.getenv "POD_NAME" = "") :
    setupCapacity f w node d nd =
      fatal (if w.getenv "NAMESPACE" = "" then "need NAMESPACE env variable for CSIStorageCapacity objects"
        else "need POD_NAME env variable to determine CSIStorageCapacity owner") := by
  by_cases hns : w.getenv "NAMESPACE" = ""
  · simp [setupCapacity, hns]
  · obtain ⟨hlevel, hpod⟩ := hmis.resolve_left hns
    simp [setupCapacity, capacityOwner, hns, hlevel, hpod]

/-- With an owner to look up and `POD_NAME` unset, the capacity branch ends the process at once. -/
theorem setupCapacity_without_pod {f : Flags} {w : World} {node : String} {d : Driver}
    {nd : Option NodeDeployment} (hns : w.getenv "NAMESPACE" ≠ "") (hlevel : 0 ≤ f.capacityOwnerrefLevel)
    (hpod : w.getenv "POD_NAME" = "") :
    setupCapacity f w node d nd =
      fatal "need POD_NAME env variable to determine CSIStorageCapacity owner" := by
  rw [setupCapacity_misconfigured (.inr ⟨hlevel, hpod⟩), if_neg hns]

/-- A capacity branch that goes on has looked up the owner of the pod `POD_NAME` when the level is
not negative, and has started the topology worker. -/
theorem setupCapacity_trace {f : Flags} {w : World} {node : String} {d : Driver}
    {nd : Option NodeDeployment} {c : CapacitySetup} (h : (setupCapacity f w node d nd).result = some c) :
    (setupCapacity f w node d nd).trace =
      (if 0 ≤ f.capacityOwnerrefLevel then
        [.lookupOwner (w.getenv "NAMESPACE") (w.getenv "POD_NAME") ⟨"", "v1", "Pod"⟩
          f.capacityOwnerrefLevel]
      else []) ++ [.runTopologyWorker] := by
  obtain ⟨hns, owner, ho, -⟩ := setupCapacity_result h
  obtain ⟨hlevel, hpod⟩ := capacityOwner_result ho
  unfold setupCapacity capacityOwner
  by_cases hl : 0 ≤ f.capacityOwnerrefLevel
  · obtain ⟨r, rfl⟩ := Option.isSome_iff_exists.1 (hlevel.2 hl)
    obtain ⟨hp, hr⟩ := hpod r rfl
    simp [hns, hl, hp, hr, orFatal]
  · simp [hns, hl]

/-- The capacity branch does not call the driver, whatever happens in it. -/
theorem setupCapacity_calls (f : Flags) (w : World) (node : String) (d : Driver)
    (nd : Option NodeDeployment) : (setupCapacity f w node d nd).trace.filterMap Effect.csiCall? = [] := by
  unfold setupCapacity capacityOwner
  dsimp only
  by_cases hns : w.getenv "NAMESPACE" = ""
  · simp [hns, Effect.csiCall?]
  by_cases hl : 0 ≤ f.capacityOwnerrefLevel
  · by_cases hp : w.getenv "POD_NAME" = ""
    · simp [hns, hl, hp, Effect.csiCall?]
    · cases w.lookupOwner (w.getenv "NAMESPACE") (w.getenv "POD_NAME") f.capacityOwnerrefLevel <;>
        simp [hns, hl, hp, orFatal, Effect.csiCall?]
  · simp [hns, hl, Effect.csiCall?]

/-- Modelled from the spec: `ctrl.NewCloningProtectionController` (`pkg/controller`, not under
src/), which returns a controller exactly when the driver declares `CLONE_VOLUME`: "A
finalizer/cleanup controller for cross-referencing claims is always built when the backend
declares the relevant capability". -/
def newCloningProtectionController (caps : ControllerCapabilitySet) : Bool := caps .cloneVolume

/-- What `main` has built when it starts the HTTP server. -/
structure Assembly where
  provisionerName : String
  /-- The address of the HTTP server, empty when it is disabled. -/
  addr : String
  identity : String
  /-- `controller.AdditionalProvisionerNames` of a migrated driver (`:369-371`). -/
  additionalProvisionerNames : List String
  /-- The informers of `factory`, in the order `main` asks for them. -/
  informers : List InformerType
  /-- `vaLister` is not nil. -/
  volumeAttachments : Bool
  nodeDeployment : Option NodeDeployment
  topologyListers : TopologyListers
  factoryForNamespace : Option NamespacedFactory
  capacityController : Option CapacityController
  /-- `csiClaimController` is not nil. -/
  cloningProtection : Bool

/-- The assembly, from what the fallible steps returned. -/
def assemble (f : Flags) (w : World) (node addr : String) (d : Driver)
    (nodeDeployment : Option NodeDeployment) (capacity : Option CapacitySetup) : Assembly :=
  let topology := topologyListers w d nodeDeployment
  { provisionerName := d.name, addr, identity := provisionerIdentity f w d.name node,
    additionalProvisionerNames := if d.migratedFrom != "" then [d.migratedFrom] else [],
    informers := listerInformers d topology ++ (capacity.map (·.informers)).getD [],
    volumeAttachments := d.controllerCapabilities .publishUnpublishVolume,
    nodeDeployment, topologyListers := topology,
    factoryForNamespace := capacity.map (·.factoryForNamespace),
    capacityController := capacity.map (·.controller),
    cloningProtection := newCloningProtectionController d.controllerCapabilities }

/-- `main` up to the HTTP server (`:113-500`). -/
def bootstrap (f : Flags) (w : World) : Proc Effect Assembly := do
  let (node, addr) ← preflight f w
  let d ← connectDriver f w
  let nodeDeployment ← getNodeDeployment f w node
  let capacity ← (if f.enableCapacity then some <$> setupCapacity f w node d nodeDeployment
    else pure none : Proc Effect (Option CapacitySetup))
  pure (assemble f w node addr d nodeDeployment capacity)

/-- An assembly is what its fallible steps returned, put together. -/
theorem bootstrap_result {f : Flags} {w : World} {a : Assembly}
    (h : (bootstrap f w).result = some a) :
    ∃ node addr d nd capacity, (preflight f w).result = some (node, addr) ∧
      (connectDriver f w).result = some d ∧ (getNodeDeployment f w node).result = some nd ∧
      (∀ c ∈ capacity, (setupCapacity f w node d nd).result = some c) ∧
      capacity.isSome = f.enableCapacity ∧ a = assemble f w node addr d nd capacity := by
  simp only [bootstrap, Proc.result_bind_eq_some] at h
  obtain ⟨⟨node, addr⟩, h₁, d, h₂, nd, h₃, capacity, h₄, h⟩ := h
  have hcap : (∀ c ∈ capacity, (setupCapacity f w node d nd).result = some c) ∧
      capacity.isSome = f.enableCapacity := by
    split at h₄
    · simp only [Proc.result_map, Option.map_eq_some'] at h₄
      obtain ⟨c, hc, rfl⟩ := h₄
      simp_all
    · cases h₄; simp_all
  exact ⟨node, addr, d, nd, capacity, h₁, h₂, h₃, hcap.1, hcap.2, (Option.some.inj h).symm⟩

/-- The events of a bootstrap whose first three steps went on: theirs, then those of the capacity
branch. -/
theorem bootstrap_trace {f : Flags} {w : World} {node addr : String} {d : Driver}
    {nd : Option NodeDeployment} (hpre : (preflight f w).result = some (node, addr))
    (hd : (connectDriver f w).result = some d) (hnd : (getNodeDeployment f w node).result = some nd) :
    (bootstrap f w).trace = (preflight f w).trace ++ (connectDriver f w).trace ++
      (getNodeDeployment f w node).trace ++
        (if f.enableCapacity then (setupCapacity f w node d nd).trace else []) := by
  rw [bootstrap, Proc.trace_bind_of_some hpre]
  dsimp only
  rw [Proc.trace_bind_of_some hd, Proc.trace_bind_of_some hnd]
  split <;> simp

/-- The events of a bootstrap that goes on: the calls to the driver of `connectDriver`, then
`NodeGetInfo` in a node-local deployment, and, with capacity publishing, the owner lookup when the
level is not negative and the start of the topology worker. It prints nothing and logs no error. -/
theorem bootstrap_events {f : Flags} {w : World} {a : Assembly} (h : (bootstrap f w).result = some a) :
    (bootstrap f w).trace =
      List.map Effect.csi ([.connect f.csiEndpoint false, .probe, .getDriverName] ++
        (if w.isMigratedCSIDriverByName a.provisionerName then
          [.connect f.csiEndpoint true, .close, .probe] else []) ++
        .getDriverCapabilities :: (if f.enableNodeDeployment then [.getNodeInfo] else [])) ++
      (if f.enableCapacity then
        (if 0 ≤ f.capacityOwnerrefLevel then
          [.lookupOwner (w.getenv "NAMESPACE") (w.getenv "POD_NAME") ⟨"", "v1", "Pod"⟩
            f.capacityOwnerrefLevel]
        else []) ++ [.runTopologyWorker]
      else []) := by
  obtain ⟨node, addr, d, nd, capacity, h₁, h₂, h₃, hcap, hsome, rfl⟩ := bootstrap_result h
  rw [bootstrap_trace h₁ h₂ h₃, (preflight_result h₁).2.2.2.2, (connectDriver_trace h₂).2,
    getNodeDeployment_trace h₃]
  by_cases hen : f.enableCapacity = true
  · obtain ⟨c, hc⟩ := Option.isSome_iff_exists.1 (hsome.trans hen)
    rw [if_pos hen, if_pos hen, setupCapacity_trace (hcap c hc)]
    simp [assemble, apply_ite (List.map Effect.csi)]
  · simp [hen, assemble, apply_ite (List.map Effect.csi)]

/-- The calls to the driver of a bootstrap that goes on, in order: those of `connectDriver`, then
`NodeGetInfo` in a node-local deployment. -/
theorem bootstrap_calls {f : Flags} {w : World} {a : Assembly} (h : (bootstrap f w).result = some a) :
    (bootstrap f w).trace.filterMap Effect.csiCall? =
      [.connect f.csiEndpoint false, .probe, .getDriverName] ++
        (if w.isMigratedCSIDriverByName a.provisionerName then
          [.connect f.csiEndpoint true, .close, .probe] else []) ++
        .getDriverCapabilities :: (if f.enableNodeDeployment then [.getNodeInfo] else []) := by
  rw [bootstrap_events h, List.filterMap_append, List.filterMap_map, Effect.csiCall?_comp_csi,
    List.filterMap_some]
  simp only [apply_ite (List.filterMap Effect.csiCall?), List.filterMap_append, List.filterMap_cons,
    List.filterMap_nil, Effect.csiCall?, ite_self, List.append_nil]

/-- The conversation of `main` with the driver when every call is answered: that of
`connectDriver`, then `NodeGetInfo` in a node-local deployment. A bootstrap that goes on has it
(`bootstrap_calls`), with the name the driver answered. -/
def driverConversation (f : Flags) (w : World) : List CsiCall :=
  connectConversation f w ++ if f.enableNodeDeployment then [.getNodeInfo] else []

/-- Whatever the environment, the cluster and the driver answer, the calls of the bootstrap are a
prefix of `driverConversation`. -/
theorem bootstrap_calls_prefix (f : Flags) (w : World) :
    (bootstrap f w).trace.filterMap Effect.csiCall? <+: driverConversation f w := by
  have hconv : driverConversation f w = [] ++ (connectConversation f w ++
      ((if f.enableNodeDeployment then [.getNodeInfo] else []) ++ ([] ++ []))) := by
    simp [driverConversation]
  rw [hconv, bootstrap]
  refine Proc.filterMap_trace_bind_prefix (by rw [preflight_calls]) fun _ _ => ⟨preflight_calls f w, ?_⟩
  refine Proc.filterMap_trace_bind_prefix (connectDriver_calls f w) fun d hd => ⟨?_, ?_⟩
  · rw [(connectDriver_trace hd).2, List.filterMap_map, Effect.csiCall?_comp_csi, List.filterMap_some,
      connectConversation, (connectDriver_result hd).1]
  refine Proc.filterMap_trace_bind_prefix (getNodeDeployment_calls f w _) fun nd hnd => ⟨?_, ?_⟩
  · rw [getNodeDeployment_trace hnd]
    split <;> rfl
  refine Proc.filterMap_trace_bind_prefix ?_ fun _ _ => ⟨?_, by simp⟩
  all_goals split <;> simp [setupCapacity_calls]

/-- The namespace-scoped factory and the capacity controller of an assembly exist exactly with
`--enable-capacity`: the capacity branch builds both or ends the process. -/
theorem bootstrap_capacity {f : Flags} {w : World} {a : Assembly}
    (h : (bootstrap f w).result = some a) :
    a.factoryForNamespace.isSome = f.enableCapacity ∧ a.capacityController.isSome = f.enableCapacity := by
  obtain ⟨_, _, _, _, capacity, -, -, -, -, hcap, rfl⟩ := bootstrap_result h
  simpa [assemble] using hcap

set_option maxRecDepth 2000 in
/-- **The bootstrap never hangs and never goes on after an error.** It returns without ending
the process, or its last event is the `klog.Fatal` or `os.Exit` that ended it, and no event before
that one ends the process. -/
theorem bootstrap_exits (f : Flags) (w : World) : Proc.Exits (Effect.ends ·) (bootstrap f w) := by
  unfold bootstrap preflight connectDriver connectMigrated getNodeDeployment setupCapacity
    capacityOwner
  dsimp only
  repeat (first
    | with_reducible exact Proc.exits_pure _
    | with_reducible exact exits_orFatal _ _
    | with_reducible exact exits_orExit _
    | with_reducible exact exits_callDriver _ _
    | with_reducible exact exits_fatal _
    | with_reducible exact exits_errorExit _
    | (with_reducible refine Proc.exits_emit ?_); exact Bool.false_ne_true
    | (with_reducible refine Proc.exits_halt ?_); exact rfl
    | with_reducible refine Proc.exits_bind ?_ fun _ _ => ?_
    | with_reducible refine Proc.exits_map _ ?_
    | with_reducible refine Proc.exits_ite ?_ ?_)

/-- What a bootstrap can do, each effect under the condition the code checks before it: end the
process with `klog.Fatal`, log an error, exit with status 1, call the driver, print the version and
exit with status 0 under `--version`, look up the owner of the pod `POD_NAME` in `NAMESPACE` at a
level that is not negative, and start the topology worker. -/
inductive BootstrapEffect (f : Flags) (w : World) : Effect → Prop
  | fatal (msg : String) : BootstrapEffect f w (.fatal msg)
  | error (msg : String) : BootstrapEffect f w (.error msg)
  | exit : BootstrapEffect f w (.exit 1)
  | csi (call : CsiCall) : BootstrapEffect f w (.csi call)
  | printVersion : f.showVersion = true → BootstrapEffect f w (.println (w.arg0 ++ " " ++ version))
  | exitVersion : f.showVersion = true → BootstrapEffect f w (.exit 0)
  | lookupOwner : 0 ≤ f.capacityOwnerrefLevel →
      BootstrapEffect f w
        (.lookupOwner (w.getenv "NAMESPACE") (w.getenv "POD_NAME") ⟨"", "v1", "Pod"⟩
          f.capacityOwnerrefLevel)
  | runTopologyWorker : BootstrapEffect f w .runTopologyWorker

set_option maxRecDepth 2000 in
/-- Every effect of every bootstrap, also of one that ends the process, is a `BootstrapEffect`. -/
theorem bootstrap_effect (f : Flags) (w : World) : Proc.All (BootstrapEffect f w) (bootstrap f w) := by
  unfold bootstrap preflight connectDriver connectMigrated getNodeDeployment setupCapacity
    capacityOwner
  dsimp only
  repeat (first
    | with_reducible refine Proc.all_bind ?_ fun _ _ => ?_
    | with_reducible exact Proc.all_pure _
    | with_reducible exact all_orFatal _ _ BootstrapEffect.fatal
    | with_reducible exact all_orExit _ BootstrapEffect.error .exit
    | with_reducible exact all_callDriver _ _ (.csi _)
    | with_reducible refine Proc.all_ite (fun _ => ?_) (fun _ => ?_)
    | with_reducible exact all_fatal _ (.fatal _)
    | with_reducible exact all_errorExit _ (.error _) .exit
    | (with_reducible refine Proc.all_emit ?_); constructor <;> assumption
    | (with_reducible refine Proc.all_halt ?_); exact .exitVersion ‹_›
    | with_reducible refine Proc.all_map _ ?_)

end CsiProvisioner
