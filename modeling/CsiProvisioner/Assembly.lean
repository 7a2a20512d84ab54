import CsiProvisioner.Main.Run

/-!
# Which caches and controllers `main` builds

The bootstrap selects its architecture from what it finds at run time: whether the driver can
publish volumes, supports topology, runs on one node, and whether capacity publishing is on. This
module states what every `Assembly` the bootstrap returns is made of, for every flag and every
answer of the driver and the cluster.

* `factory` watches storage classes and claims; `VolumeAttachment` objects exactly when the driver
  declares `PUBLISH_UNPUBLISH_VOLUME`; and `CSINode` and `Node` objects exactly in a cluster-wide
  deployment that needs them (`factory_informers`). A node-local deployment instead hands the
  provisioner static objects built from the driver's node info, and its capacity controller
  publishes for the fixed segment built from the same node info
  (`capacity_segment_matches_provisioner_topology`): that segment holds every entry of the node's
  segments once and the same pairs as the static objects, whatever the orders of the two loops
  (`fixedSegment_agrees_with_localTopology`).
* The owner of the capacity objects is looked up once when `--capacity-ownerref-level` is not
  negative, never otherwise (`owner_lookups`).
* The controllers that run are fixed by the flags and the driver's capabilities alone, and run only
  once every cache synced, the handlers of the HTTP server registered and, with leader election,
  leadership was acquired (`controllers_run`); the caches they read from `factory` are among those
  awaited (`controller_caches_synced`).
* The driver is called only during the bootstrap, in a fixed order that depends on whether it
  replaces an in-tree plugin and on `--node-deployment` (`driver_calls`); whatever fails, every
  execution has made a prefix of that conversation (`driver_conversation`).
* Two misconfigurations are fatal, not silent: capacity publishing without `NAMESPACE`, or without
  `POD_NAME` when an owner is to be looked up, ends the bootstrap with its `klog.Fatal`
  (`capacity_misconfiguration_is_fatal`), and both HTTP flags at once end the process in the
  checks before the driver is contacted (`conflicting_http_flags_abort`). The environment of the
  capacity branch is read only after the driver was called, so a missing `POD_NAME` ends the
  process after every call of the bootstrap (`missing_pod_name_fatal_after_driver_calls`).
-/

namespace CsiProvisioner

/-- The informers behind the listers of the provisioner. -/
theorem mem_listerInformers {d : Driver} {t : TopologyListers} {i : InformerType} :
    i ∈ listerInformers d t ↔ (i = .storageClasses ∨ i = .persistentVolumeClaims) ∨
      (i = .volumeAttachments ∧ d.controllerCapabilities .publishUnpublishVolume = true) ∨
      ((i = .csiNodes ∨ i = .nodes) ∧ t = .live) := by
  simp only [listerInformers, List.mem_append, List.mem_cons, List.mem_ite_nil_right,
    List.mem_singleton, List.not_mem_nil, or_false]
  cases t <;> cases i <;> simp

/-- The listers are live exactly in a cluster-wide deployment of a driver with topology. -/
theorem topologyListers_eq_live {w : World} {d : Driver} {nd : Option NodeDeployment} :
    topologyListers w d nd = .live ↔ nd = none ∧ w.supportsTopology d.pluginCapabilities = true := by
  unfold topologyListers; split <;> (try split) <;> simp_all

section

variable {f : Flags} {w : World} {a : Assembly}

/-- **What `factory` watches.** It always holds the informers of storage classes and claims; the
`VolumeAttachment` lister and informer exist exactly when the driver declares
`PUBLISH_UNPUBLISH_VOLUME`; and `CSINode` and `Node` objects are watched exactly in a cluster-wide
deployment, for the topology of a driver that supports it or for the capacity controller. A
node-local deployment never watches them, whatever the driver supports. -/
theorem factory_informers {caps : PluginCapabilitySet × ControllerCapabilitySet}
    (h : (bootstrap f w).result = some a) (hcaps : w.getDriverCapabilities = .ok caps) :
    a.volumeAttachments = caps.2 .publishUnpublishVolume ∧
      ∀ i, i ∈ a.informers ↔ (i = .storageClasses ∨ i = .persistentVolumeClaims) ∨
        (i = .volumeAttachments ∧ caps.2 .publishUnpublishVolume = true) ∨
        ((i = .csiNodes ∨ i = .nodes) ∧ f.enableNodeDeployment = false ∧
          (w.supportsTopology caps.1 = true ∨ f.enableCapacity = true)) := by
  obtain ⟨node, addr, d, nd, capacity, -, hd, hnd, hcap, hsome, rfl⟩ := bootstrap_result h
  cases hcaps.symm.trans (connectDriver_result hd).2
  have hc : ∀ c ∈ capacity,
      c.informers = (if nd.isNone then [.nodes, .csiNodes] else []) ++ [.storageClasses] :=
    fun c hc => by obtain ⟨-, -, -, rfl⟩ := setupCapacity_result (hcap c hc); rfl
  refine ⟨rfl, fun i => ?_⟩
  rw [← (getNodeDeployment_result hnd).1, ← hsome]
  simp only [assemble, List.mem_append, mem_listerInformers, topologyListers_eq_live]
  cases capacity with
  | none => cases nd <;> simp
  | some c =>
    rw [Option.map_some', Option.getD_some, hc c rfl]
    cases nd <;> cases i <;> simp

theorem factory_informers_nodeLocal :
    ∃ a caps, (bootstrap nodeLocalFlags nodeLocalWorld).result = some a ∧
      nodeLocalWorld.getDriverCapabilities = .ok caps ∧
      a.volumeAttachments = caps.2 .publishUnpublishVolume ∧
      ∀ i, i ∈ a.informers ↔ (i = .storageClasses ∨ i = .persistentVolumeClaims) ∨
        (i = .volumeAttachments ∧ caps.2 .publishUnpublishVolume = true) ∨
        ((i = .csiNodes ∨ i = .nodes) ∧ nodeLocalFlags.enableNodeDeployment = false ∧
          (nodeLocalWorld.supportsTopology caps.1 = true ∨ nodeLocalFlags.enableCapacity = true)) :=
  ⟨_, _, rfl, rfl, @factory_informers nodeLocalFlags nodeLocalWorld _ _ rfl rfl⟩

/-- In a node-local deployment of a driver with topology, the bootstrap hands the provisioner the
static objects it built from the node info the driver answered, and its capacity controller, when
there is one, the fixed segment of the same node info. -/
theorem bootstrap_nodeLocal (hnd : f.enableNodeDeployment = true) (h : (bootstrap f w).result = some a)
    {caps : PluginCapabilitySet × ControllerCapabilitySet} (hcaps : w.getDriverCapabilities = .ok caps)
    (htop : w.supportsTopology caps.1 = true) :
    ∃ nd, a.nodeDeployment = some nd ∧ w.getNodeInfo = .ok nd.nodeInfo ∧
      a.topologyListers = .static (localTopologyObjects a.provisionerName nd w.topologyKeysOrder).1
        (localTopologyObjects a.provisionerName nd w.topologyKeysOrder).2 ∧
      ∀ ctrl, a.capacityController = some ctrl → ctrl.topology = .fixed (fixedSegment nd w.segmentOrder) := by
  obtain ⟨node, addr, d, nd, capacity, -, hd, hnd', hcap, -, rfl⟩ := bootstrap_result h
  obtain ⟨hsome, hinfo⟩ := getNodeDeployment_result hnd'
  obtain ⟨x, rfl⟩ := Option.isSome_iff_exists.1 (hsome.trans hnd)
  cases hcaps.symm.trans (connectDriver_result hd).2
  refine ⟨x, rfl, (hinfo x rfl).2, by simp [assemble, topologyListers, htop], fun ctrl hc => ?_⟩
  cases capacity with
  | none => cases hc
  | some c =>
    obtain ⟨-, owner, -, rfl⟩ := setupCapacity_result (hcap _ rfl)
    simp only [assemble, capacitySetup, Option.map_some', Option.some.injEq] at hc
    rw [← hc]

/-- **The segment of the capacity controller is the topology handed to the provisioner.** In a
node-local deployment with capacity publishing and a driver that supports topology, whatever node
info the driver answered (a nil topology, or any map of segments) and whatever the orders of the
two loops over its segments, the bootstrap builds a capacity controller whose fixed segment (i)
holds exactly the entries of the segments, each key once, and nothing for a nil topology, and (ii)
holds the same pairs as the static objects handed to the provisioner: the keys of the one driver
entry of the `CSINode`, distinct and the keys of the `Node`'s labels, each with its label value. -/
theorem fixedSegment_agrees_with_localTopology (hnd : f.enableNodeDeployment = true)
    (hcap : f.enableCapacity = true) (h : (bootstrap f w).result = some a)
    {caps : PluginCapabilitySet × ControllerCapabilitySet} (hcaps : w.getDriverCapabilities = .ok caps)
    (htop : w.supportsTopology caps.1 = true) :
    ∃ nd ctrl segment csiNode node driver, a.nodeDeployment = some nd ∧
      w.getNodeInfo = .ok nd.nodeInfo ∧ a.capacityController = some ctrl ∧
      ctrl.topology = .fixed segment ∧ a.topologyListers = .static csiNode node ∧
      csiNode.drivers = [driver] ∧
      ((∀ e, e ∈ segment ↔ nd.segments.get? e.key = some e.value) ∧
        (∀ k ∈ nd.segments.keys, (segment.map SegmentEntry.key).count k = 1) ∧
        (segment.map SegmentEntry.key).Nodup ∧
        (nd.nodeInfo.accessibleTopology = none → segment = [])) ∧
      driver.topologyKeys.Nodup ∧ (∀ k, k ∈ driver.topologyKeys ↔ k ∈ node.labels.keys) ∧
      ∀ e, e ∈ segment ↔ e.key ∈ driver.topologyKeys ∧ e.value = node.labels.index e.key := by
  obtain ⟨nd, hnd', hinfo, htl, hfixed⟩ := bootstrap_nodeLocal hnd h hcaps htop
  obtain ⟨ctrl, hc⟩ := Option.isSome_iff_exists.1 ((bootstrap_capacity h).2.trans hcap)
  obtain ⟨hsegment, d, hd, hkeys, hlabels, hpairs⟩ :=
    fixedSegment_agrees a.provisionerName nd w.topologyKeysOrder w.segmentOrder
  exact ⟨nd, ctrl, _, _, _, d, hnd', hinfo, hc, hfixed ctrl hc, htl, hd, hsegment, hkeys, hlabels, hpairs⟩

theorem fixedSegment_agrees_with_localTopology_nodeLocal :
    ∃ a caps, (bootstrap nodeLocalFlags nodeLocalWorld).result = some a ∧
      nodeLocalWorld.getDriverCapabilities = .ok caps ∧ nodeLocalWorld.supportsTopology caps.1 = true ∧
      ∃ nd ctrl segment csiNode node driver, a.nodeDeployment = some nd ∧
        nodeLocalWorld.getNodeInfo = .ok nd.nodeInfo ∧ a.capacityController = some ctrl ∧
        ctrl.topology = .fixed segment ∧ a.topologyListers = .static csiNode node ∧
        csiNode.drivers = [driver] ∧
        ((∀ e, e ∈ segment ↔ nd.segments.get? e.key = some e.value) ∧
          (∀ k ∈ nd.segments.keys, (segment.map SegmentEntry.key).count k = 1) ∧
          (segment.map SegmentEntry.key).Nodup ∧
          (nd.nodeInfo.accessibleTopology = none → segment = [])) ∧
        driver.topologyKeys.Nodup ∧ (∀ k, k ∈ driver.topologyKeys ↔ k ∈ node.labels.keys) ∧
        ∀ e, e ∈ segment ↔ e.key ∈ driver.topologyKeys ∧ e.value = node.labels.index e.key :=
  ⟨_, _, rfl, rfl, rfl,
    @fixedSegment_agrees_with_localTopology nodeLocalFlags nodeLocalWorld _ rfl rfl rfl _ rfl rfl⟩

/-- **Capacity publishing without its environment is a fatal misconfiguration, not a silent
no-op.** With `--enable-capacity`, when `NAMESPACE` is empty, or when the owner is to be looked up
(`--capacity-ownerref-level` not negative) and `POD_NAME` is empty, the bootstrap does not return:
every event of `main` is an effect of the bootstrap, of a kind `BootstrapEffect` lists, so there is
no HTTP server, informer or controller; the last one ends the process; and once the steps before
the capacity branch went on, it is the `klog.Fatal` about the first of the two that is missing. -/
theorem capacity_misconfiguration_is_fatal (hcap : f.enableCapacity = true)
    (hmis : w.getenv "NAMESPACE" = "" ∨ 0 ≤ f.capacityOwnerrefLevel ∧ w.getenv "POD_NAME" = "") :
    (bootstrap f w).result = none ∧
      ∃ t e, (main f w).trace = (t ++ [e]).map Event.effect ∧ (∀ e' ∈ t ++ [e], BootstrapEffect f w e') ∧
        e.ends ∧ ∀ node addr d nd, (preflight f w).result = some (node, addr) →
          (connectDriver f w).result = some d → (getNodeDeployment f w node).result = some nd →
          e = .fatal (if w.getenv "NAMESPACE" = "" then
            "need NAMESPACE env variable for CSIStorageCapacity objects"
            else "need POD_NAME env variable to determine CSIStorageCapacity owner") := by
  have hnone : (bootstrap f w).result = none := by
    refine Option.eq_none_iff_forall_not_mem.2 fun a h => ?_
    obtain ⟨node, addr, d, nd, capacity, -, -, -, hsetup, hsome, -⟩ := bootstrap_result h
    obtain ⟨c, hc⟩ := Option.isSome_iff_exists.1 (hsome.trans hcap)
    simpa [setupCapacity_misconfigured hmis] using hsetup c hc
  obtain ⟨t, e, hboot, hmain, heff, hends, -⟩ := main_of_bootstrap_none hnone
  refine ⟨hnone, t, e, hmain, heff, hends, fun node addr d nd hpre hd hnd => ?_⟩
  have hlast := congrArg List.getLast? (hboot.symm.trans (bootstrap_trace hpre hd hnd))
  rw [if_pos hcap, setupCapacity_misconfigured hmis, trace_fatal] at hlast
  simpa using hlast

/-- Capacity publishing. -/
def capacityFlags : Flags := { enableCapacity := true }

theorem capacity_misconfiguration_is_fatal_sample :
    sampleWorld.getenv "NAMESPACE" = "" ∧ (bootstrap capacityFlags sampleWorld).result = none ∧
      ∃ t e, (main capacityFlags sampleWorld).trace = (t ++ [e]).map Event.effect ∧
        (∀ e' ∈ t ++ [e], BootstrapEffect capacityFlags sampleWorld e') ∧ e.ends ∧
        ∀ node addr d nd, (preflight capacityFlags sampleWorld).result = some (node, addr) →
          (connectDriver capacityFlags sampleWorld).result = some d →
          (getNodeDeployment capacityFlags sampleWorld node).result = some nd →
          e = .fatal (if sampleWorld.getenv "NAMESPACE" = "" then
            "need NAMESPACE env variable for CSIStorageCapacity objects"
            else "need POD_NAME env variable to determine CSIStorageCapacity owner") :=
  ⟨rfl, @capacity_misconfiguration_is_fatal capacityFlags sampleWorld rfl (.inl rfl)⟩

/-- **A missing `POD_NAME` is found only after the driver was called.** With `--enable-capacity`,
an owner to look up (`--capacity-ownerref-level` not negative), `NAMESPACE` set and `POD_NAME`
unset, once the steps before the capacity branch went on, the bootstrap does not return and the
last event of `main` is the `klog.Fatal` about `POD_NAME`; by then `main` has made every call of
the bootstrap to the driver, `NodeGetInfo` included. -/
theorem missing_pod_name_fatal_after_driver_calls {node addr : String} {d : Driver}
    {nd : Option NodeDeployment} (hcap : f.enableCapacity = true)
    (hlevel : 0 ≤ f.capacityOwnerrefLevel) (hns : w.getenv "NAMESPACE" ≠ "")
    (hpod : w.getenv "POD_NAME" = "") (hpre : (preflight f w).result = some (node, addr))
    (hd : (connectDriver f w).result = some d) (hnd : (getNodeDeployment f w node).result = some nd) :
    (bootstrap f w).result = none ∧
      (main f w).trace.getLast? =
        some (.effect (.fatal "need POD_NAME env variable to determine CSIStorageCapacity owner")) ∧
      (main f w).trace.filterMap Event.csiCall? =
        [.connect f.csiEndpoint false, .probe, .getDriverName] ++
          (if w.isMigratedCSIDriverByName d.name then [.connect f.csiEndpoint true, .close, .probe]
          else []) ++ .getDriverCapabilities :: (if f.enableNodeDeployment then [.getNodeInfo] else []) := by
  have hsetup := @setupCapacity_without_pod f w node d nd hns hlevel hpod
  have hnone : (bootstrap f w).result = none := by
    rw [bootstrap, Proc.result_bind_of_some hpre]
    dsimp only
    rw [Proc.result_bind_of_some hd, Proc.result_bind_of_some hnd, if_pos hcap, hsetup]
    rfl
  have htrace : (main f w).trace = (bootstrap f w).trace.map Event.effect := by
    rw [main, Proc.trace_bind_of_none (by simpa using hnone), Proc.trace_mapTrace]
  refine ⟨hnone, ?_, ?_⟩ <;> rw [htrace, bootstrap_trace hpre hd hnd, if_pos hcap, hsetup, trace_fatal]
  · simp
  · rw [List.filterMap_map, Event.csiCall?_comp_effect, (preflight_result hpre).2.2.2.2,
      (connectDriver_trace hd).2, getNodeDeployment_trace hnd]
    simp [Effect.csiCall?, apply_ite (List.filterMap Effect.csiCall?)]

/-- The node-local cluster of `nodeLocalWorld`, without `POD_NAME`. -/
def podlessWorld : World :=
  { nodeLocalWorld with
    getenv := fun k => if k = "NODE_NAME" then "node-1" else if k = "NAMESPACE" then "kube-system"
      else "" }

theorem missing_pod_name_fatal_after_driver_calls_nodeLocal :
    ∃ node addr d nd, nodeLocalFlags.enableCapacity = true ∧ 0 ≤ nodeLocalFlags.capacityOwnerrefLevel ∧
      podlessWorld.getenv "NAMESPACE" ≠ "" ∧ podlessWorld.getenv "POD_NAME" = "" ∧
      (preflight nodeLocalFlags podlessWorld).result = some (node, addr) ∧
      (connectDriver nodeLocalFlags podlessWorld).result = some d ∧
      (getNodeDeployment nodeLocalFlags podlessWorld node).result = some nd ∧
      (bootstrap nodeLocalFlags podlessWorld).result = none ∧
      (main nodeLocalFlags podlessWorld).trace.getLast? =
        some (.effect (.fatal "need POD_NAME env variable to determine CSIStorageCapacity owner")) ∧
      (main nodeLocalFlags podlessWorld).trace.filterMap Event.csiCall? =
        [.connect nodeLocalFlags.csiEndpoint false, .probe, .getDriverName] ++
          (if podlessWorld.isMigratedCSIDriverByName d.name then
            [.connect nodeLocalFlags.csiEndpoint true, .close, .probe] else []) ++
          .getDriverCapabilities :: (if nodeLocalFlags.enableNodeDeployment then [.getNodeInfo] else []) :=
  ⟨_, _, _, _, rfl, by decide, by decide, rfl, rfl, rfl, rfl,
    @missing_pod_name_fatal_after_driver_calls nodeLocalFlags podlessWorld _ _ _ _ rfl (by decide)
      (by decide) rfl rfl rfl rfl⟩

/-- **The calls `main` makes to the CSI driver.** Once the bootstrap goes on, they are in this
order: connect, probe, `GetPluginInfo`; for a driver that replaces an in-tree plugin a second
connection, with the migration label on its metrics, the close of the first one and a probe of
the second; the capabilities; and `NodeGetInfo` in a node-local deployment. Nothing after the
bootstrap calls the driver. The in-tree plugin's name, when it is not empty, is the one
additional provisioner name, so the provisioner also serves the claims of that plugin. -/
theorem driver_calls (h : (bootstrap f w).result = some a) :
    (main f w).trace.filterMap Event.csiCall? =
      [.connect f.csiEndpoint false, .probe, .getDriverName] ++
        (if w.isMigratedCSIDriverByName a.provisionerName then
          [.connect f.csiEndpoint true, .close, .probe] else []) ++
        .getDriverCapabilities :: (if f.enableNodeDeployment then [.getNodeInfo] else []) ∧
    ∀ n, n ∈ a.additionalProvisionerNames ↔ w.isMigratedCSIDriverByName a.provisionerName ∧
      w.getInTreeNameFromCSIName a.provisionerName = .ok n ∧ n ≠ "" := by
  refine ⟨?_, fun n => ?_⟩
  · rw [main_calls, bootstrap_calls h]
  · obtain ⟨node, addr, d, nd, capacity, -, hd, -, -, -, rfl⟩ := bootstrap_result h
    have hm := (connectMigrated_result (connectDriver_trace hd).1).1
    by_cases hmig : w.isMigratedCSIDriverByName d.name = true
    · simp only [hmig, if_true] at hm
      simp only [assemble, hmig, hm, true_and, Except.ok.injEq, bne_iff_ne, ne_eq]
      split
      · simp only [List.mem_singleton]
        exact ⟨fun h => ⟨h.symm, by rwa [h]⟩, fun h => h.1.symm⟩
      · simp_all
    · simp_all [assemble]

/-- A driver that replaces the in-tree AWS EBS plugin. -/
def migratedWorld : World :=
  { sampleWorld with
    getDriverName := .ok "ebs.csi.aws.com"
    isMigratedCSIDriverByName := fun name => name == "ebs.csi.aws.com"
    getInTreeNameFromCSIName := fun _ => .ok "kubernetes.io/aws-ebs" }

theorem driver_calls_migrated :
    ∃ a, (bootstrap {} migratedWorld).result = some a ∧
      ((main {} migratedWorld).trace.filterMap Event.csiCall? =
        [.connect ({} : Flags).csiEndpoint false, .probe, .getDriverName] ++
          (if migratedWorld.isMigratedCSIDriverByName a.provisionerName then
            [.connect ({} : Flags).csiEndpoint true, .close, .probe] else []) ++
          .getDriverCapabilities :: (if ({} : Flags).enableNodeDeployment then [.getNodeInfo] else []) ∧
      ∀ n, n ∈ a.additionalProvisionerNames ↔ migratedWorld.isMigratedCSIDriverByName a.provisionerName ∧
        migratedWorld.getInTreeNameFromCSIName a.provisionerName = .ok n ∧ n ≠ "") :=
  ⟨_, rfl, @driver_calls {} migratedWorld _ rfl⟩

/-- **Whatever fails, the driver sees one conversation, cut where the process ended.** In every
execution of `main`, whatever the environment, the cluster and the driver answer, the calls to
the driver are a prefix of `driverConversation`: connect, probe, `GetPluginInfo`; for a driver
that replaces an in-tree plugin a second connection, the close of the first one and a probe of
the second; the capabilities; `NodeGetInfo` in a node-local deployment. So a call is made only
once every call before it there was made and answered, and none is made after the bootstrap. -/
theorem driver_conversation {t : List Event} (ht : Execution f w t) :
    t.filterMap Event.csiCall? <+: driverConversation f w := by
  have hmain : (main f w).trace.filterMap Event.csiCall? <+: driverConversation f w :=
    main_calls f w ▸ bootstrap_calls_prefix f w
  cases ht with
  | running h => exact (h.filterMap _).trans hmain
  | killed msg h =>
    have hfatal : [Event.effect (.fatal msg)].filterMap Event.csiCall? = [] := rfl
    rw [List.filterMap_append, hfatal, List.append_nil]
    exact (h.filterMap _).trans hmain

theorem driver_conversation_unnamedDriver :
    (main {} unnamedDriverWorld).trace.filterMap Event.csiCall? <+:
      driverConversation {} unnamedDriverWorld :=
  @driver_conversation {} unnamedDriverWorld _ (.running (List.prefix_refl _))

/-- **The owner of the capacity objects is looked up once, and never for a negative level.**
With `--capacity-ownerref-level` negative, such as `-1`, no run of `main` looks up an owner, also
one the bootstrap does not finish. Once the bootstrap went on, `main` has looked up the owner of
the pod `POD_NAME` in `NAMESPACE` at the level `--capacity-ownerref-level` exactly once when
capacity publishing is on and the level is not negative, and has made no lookup otherwise. -/
theorem owner_lookups :
    (f.capacityOwnerrefLevel < 0 → ∀ e ∈ (main f w).trace, e.ownerLookup? = none) ∧
    ∀ a, (bootstrap f w).result = some a →
      (main f w).trace.filterMap Event.ownerLookup? =
        if f.enableCapacity ∧ 0 ≤ f.capacityOwnerrefLevel then
          [(w.getenv "NAMESPACE", w.getenv "POD_NAME", ⟨"", "v1", "Pod"⟩, f.capacityOwnerrefLevel)]
        else [] := by
  refine ⟨fun hneg e he => ?_, fun a h => ?_⟩
  · rcases mem_main_trace he with ⟨e', he', rfl⟩ | ⟨a, -, he⟩
    · cases he' with
      | lookupOwner h => exact absurd h (not_le.2 hneg)
      | _ => rfl
    · exact (coordinate_quiet he).2
  have hcsi : ∀ l : List CsiCall, l.filterMap ((Event.ownerLookup? ∘ Event.effect) ∘ Effect.csi) = [] :=
    fun _ => List.filterMap_eq_nil_iff.2 fun _ _ => rfl
  rw [filterMap_main_trace fun _ _ he => (coordinate_quiet he).2, bootstrap_events h,
    List.filterMap_append, List.filterMap_map, hcsi, List.nil_append]
  by_cases hen : f.enableCapacity = true <;> by_cases hl : 0 ≤ f.capacityOwnerrefLevel <;>
    simp [hen, hl, Event.ownerLookup?]

theorem owner_lookups_nodeLocal :
    (∀ e ∈ (main { nodeLocalFlags with capacityOwnerrefLevel := -1 } nodeLocalWorld).trace,
        e.ownerLookup? = none) ∧
      ∃ a, (bootstrap nodeLocalFlags nodeLocalWorld).result = some a ∧
        (main nodeLocalFlags nodeLocalWorld).trace.filterMap Event.ownerLookup? =
          if nodeLocalFlags.enableCapacity ∧ 0 ≤ nodeLocalFlags.capacityOwnerrefLevel then
            [(nodeLocalWorld.getenv "NAMESPACE", nodeLocalWorld.getenv "POD_NAME", ⟨"", "v1", "Pod"⟩,
              nodeLocalFlags.capacityOwnerrefLevel)]
          else [] :=
  ⟨(@owner_lookups { nodeLocalFlags with capacityOwnerrefLevel := -1 } nodeLocalWorld).1 (by decide),
    _, rfl, (@owner_lookups nodeLocalFlags nodeLocalWorld).2 _ rfl⟩

/-- **Which controllers run.** Once the bootstrap went on: when every cache synced, the handlers
of the HTTP server registered and, with `--leader-election`, the election client was built and
leadership acquired, `main` runs the capacity controller exactly with `--enable-capacity`, the
cloning protection controller exactly when the driver declares `CLONE_VOLUME`, whatever else is
configured, and the provisioning controller, in this order, each with its worker count and all
under `context.TODO()` or the election's context. Otherwise it runs no controller. -/
theorem controllers_run {caps : PluginCapabilitySet × ControllerCapabilitySet}
    (h : (bootstrap f w).result = some a) (hcaps : w.getDriverCapabilities = .ok caps) :
    (allSynced w = true → HandlersRegister f w a → (f.enableLeaderElection = true →
        w.newLeaderElectionClientset = .ok () ∧ w.election = .acquired) →
      (main f w).trace.filterMap Event.controllerRun? =
        ((if f.enableCapacity then [Controller.capacity (goInt f.capacityThreads)] else []) ++
          (if caps.2 .cloneVolume then [Controller.cloningProtection (goInt f.finalizerThreads)]
          else []) ++ [Controller.provision (goInt f.workerThreads)]).map
          (·, if f.enableLeaderElection then Context.leading else .todo)) ∧
    (allSynced w = false ∨ ¬ HandlersRegister f w a ∨ f.enableLeaderElection = true ∧
        (w.newLeaderElectionClientset ≠ .ok () ∨ w.election ≠ .acquired) →
      (main f w).trace.filterMap Event.controllerRun? = []) := by
  have hclone : a.cloningProtection = caps.2 .cloneVolume := by
    obtain ⟨_, _, d, _, _, -, hd, -, -, -, rfl⟩ := bootstrap_result h
    cases hcaps.symm.trans (connectDriver_result hd).2; rfl
  have hclient : w.newLeaderElectionClientset.toBool = true ↔ w.newLeaderElectionClientset = .ok () := by
    cases w.newLeaderElectionClientset <;> simp [Except.toBool]
  rw [main_controllerRuns h, coordinate_controllerRuns, run_controllerRuns, ← (bootstrap_capacity h).2,
    ← hclone]
  refine ⟨fun hs hreg hle => ?_, ?_⟩
  · rw [if_pos ⟨hreg, fun hl => (hle hl).imp_left hclient.2⟩, if_pos hs]
  · rintro (hs | hreg | ⟨hl, hn⟩)
    · simp [hs]
    · simp [hreg]
    · have hnot : ¬ (w.newLeaderElectionClientset.toBool = true ∧ w.election = .acquired) :=
        fun ⟨hc, he⟩ => hn.elim (· (hclient.1 hc)) (· he)
      simp [hl, hnot]

/-- Leader election. -/
def leaderElectionFlags : Flags := { enableLeaderElection := true }

theorem controllers_run_leading :
    ∃ a caps, (bootstrap leaderElectionFlags sampleWorld).result = some a ∧
      sampleWorld.getDriverCapabilities = .ok caps ∧
      (allSynced sampleWorld = true → HandlersRegister leaderElectionFlags sampleWorld a →
        (leaderElectionFlags.enableLeaderElection = true →
          sampleWorld.newLeaderElectionClientset = .ok () ∧ sampleWorld.election = .acquired) →
        (main leaderElectionFlags sampleWorld).trace.filterMap Event.controllerRun? =
          ((if leaderElectionFlags.enableCapacity then
              [Controller.capacity (goInt leaderElectionFlags.capacityThreads)] else []) ++
            (if caps.2 .cloneVolume then
              [Controller.cloningProtection (goInt leaderElectionFlags.finalizerThreads)] else []) ++
            [Controller.provision (goInt leaderElectionFlags.workerThreads)]).map
            (·, if leaderElectionFlags.enableLeaderElection then Context.leading else .todo)) ∧
      (allSynced sampleWorld = false ∨ ¬ HandlersRegister leaderElectionFlags sampleWorld a ∨
          leaderElectionFlags.enableLeaderElection = true ∧
          (sampleWorld.newLeaderElectionClientset ≠ .ok () ∨ sampleWorld.election ≠ .acquired) →
        (main leaderElectionFlags sampleWorld).trace.filterMap Event.controllerRun? = []) :=
  ⟨_, _, rfl, rfl, @controllers_run leaderElectionFlags sampleWorld _ _ rfl rfl⟩

/-- **A controller runs only on synced caches of `factory`.** If `WaitForCacheSync` reports on
every informer `factory` holds, as the informer factory of `client-go` does for the informers
started, then whenever a controller runs every one of them was reported synced. Among them are
the caches the controllers read from `factory`: the storage classes and claims, the
`VolumeAttachment` objects of a driver that can publish, and the `Node` and `CSINode` objects that
the live topology of the provisioner, or the `NewNodeTopology` informer of the capacity
controller, reads. -/
theorem controller_caches_synced {c : Controller} {ctx : Context}
    (h : (bootstrap f w).result = some a) (hkeys : ∀ i ∈ a.informers, i ∈ w.cacheSyncResult.keys)
    (hrun : Event.runController c ctx ∈ (main f w).trace) :
    (∀ i ∈ a.informers, w.cacheSyncResult.get? i = some true) ∧
      w.cacheSyncResult.get? .storageClasses = some true ∧
      w.cacheSyncResult.get? .persistentVolumeClaims = some true ∧
      (a.volumeAttachments = true → w.cacheSyncResult.get? .volumeAttachments = some true) ∧
      (a.topologyListers = .live ∨
          (∃ ctrl, a.capacityController = some ctrl ∧ ctrl.topology = .nodeTopology) →
        w.cacheSyncResult.get? .nodes = some true ∧ w.cacheSyncResult.get? .csiNodes = some true) := by
  have hsynced : ∀ i ∈ a.informers, w.cacheSyncResult.get? i = some true := fun i hi => by
    obtain ⟨v, hv⟩ := w.cacheSyncResult.mem_keys_iff.1 (hkeys i hi)
    have hv' := allSynced_iff.1 (allSynced_of_runController h hrun) _
      (w.cacheSyncResult.mem_entries_iff_get?.2 hv)
    rwa [← hv']
  obtain ⟨node, addr, d, nd, capacity, -, -, -, hcap, -, rfl⟩ := bootstrap_result h
  have hlister : ∀ i ∈ listerInformers d (topologyListers w d nd),
      i ∈ (assemble f w node addr d nd capacity).informers := fun i hi => List.mem_append_left _ hi
  refine ⟨hsynced, hsynced _ (hlister _ (mem_listerInformers.2 (.inl (.inl rfl)))),
    hsynced _ (hlister _ (mem_listerInformers.2 (.inl (.inr rfl)))),
    fun hva => hsynced _ (hlister _ (mem_listerInformers.2 (.inr (.inl ⟨rfl, hva⟩)))), ?_⟩
  rintro (hlive | ⟨ctrl, hc, htop⟩)
  · exact ⟨hsynced _ (hlister _ (mem_listerInformers.2 (.inr (.inr ⟨.inr rfl, hlive⟩)))),
      hsynced _ (hlister _ (mem_listerInformers.2 (.inr (.inr ⟨.inl rfl, hlive⟩))))⟩
  · cases capacity with
    | none => cases hc
    | some cs =>
      obtain ⟨-, owner, -, rfl⟩ := setupCapacity_result (hcap _ rfl)
      cases nd with
      | some _ => cases hc; cases htop
      | none => exact ⟨hsynced _ (by simp [assemble, capacitySetup]), hsynced _ (by simp [assemble, capacitySetup])⟩

/-- The cluster of `sampleWorld`, whose sync result reports on every informer `factory` holds. -/
def syncedWorld : World :=
  { sampleWorld with
    cacheSyncResult := ⟨[(.storageClasses, true), (.persistentVolumeClaims, true),
      (.volumeAttachments, true), (.csiNodes, true), (.nodes, true)], by decide⟩ }

theorem controller_caches_synced_sample :
    ∃ a, (bootstrap {} syncedWorld).result = some a ∧
      (∀ i ∈ a.informers, i ∈ syncedWorld.cacheSyncResult.keys) ∧
      Event.runController (.provision (goInt ({} : Flags).workerThreads)) .todo ∈ (main {} syncedWorld).trace ∧
      (∀ i ∈ a.informers, syncedWorld.cacheSyncResult.get? i = some true) ∧
      syncedWorld.cacheSyncResult.get? .storageClasses = some true ∧
      syncedWorld.cacheSyncResult.get? .persistentVolumeClaims = some true ∧
      (a.volumeAttachments = true → syncedWorld.cacheSyncResult.get? .volumeAttachments = some true) ∧
      (a.topologyListers = .live ∨
          (∃ ctrl, a.capacityController = some ctrl ∧ ctrl.topology = .nodeTopology) →
        syncedWorld.cacheSyncResult.get? .nodes = some true ∧
          syncedWorld.cacheSyncResult.get? .csiNodes = some true) :=
  ⟨_, rfl, by decide, by decide,
    @controller_caches_synced {} syncedWorld _ (.provision (goInt ({} : Flags).workerThreads)) .todo
      rfl (by decide) (by decide)⟩

end

end CsiProvisioner
