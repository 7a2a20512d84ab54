import CsiProvisioner.Go.Map

/-!
# The CSI and Kubernetes objects of `main`

The answers of the CSI driver that `main` reads (capability sets, `NodeGetInfo`), the objects it
builds for node-local deployments (`CSINode`, `Node`, the fixed `topology.Segment`), and the names
of the informers of its informer factories. Each type keeps the fields `main` reads or sets;
`MODEL_MAP.json` lists the fields left out.
-/

namespace CsiProvisioner

/-- `csi.PluginCapability_Service_Type`. -/
inductive PluginCapability
  | controllerService
  | volumeAccessibilityConstraints
  deriving DecidableEq, Repr

/-- `rpc.PluginCapabilitySet`, a `map[csi.PluginCapability_Service_Type]bool`, read as `m[k]`. -/
def PluginCapabilitySet := PluginCapability → Bool

/-- The values of `csi.ControllerServiceCapability_RPC_Type` that the model reads. -/
inductive ControllerCapability
  | publishUnpublishVolume
  | cloneVolume
  deriving DecidableEq, Repr

/-- `rpc.ControllerCapabilitySet`, a `map[csi.ControllerServiceCapability_RPC_Type]bool`. -/
def ControllerCapabilitySet := ControllerCapability → Bool

/-- `csi.Topology`: a nil `Segments` map is the empty map. -/
structure Topology where
  segments : GoMap String String

/-- `csi.NodeGetInfoResponse`: the node ID, and the topology, `none` for a nil pointer. -/
structure NodeInfo where
  nodeId : String
  accessibleTopology : Option Topology

/-- `ctrl.NodeDeployment`, the fields `main` reads back. -/
structure NodeDeployment where
  nodeName : String
  nodeInfo : NodeInfo

/-- `storagev1.CSINodeDriver`. -/
structure CSINodeDriver where
  name : String
  nodeID : String
  topologyKeys : List String

/-- `storagev1.CSINode`: its name and `Spec.Drivers`. -/
structure CSINode where
  name : String
  drivers : List CSINodeDriver

/-- `v1.Node`: its name and labels; nil labels are the empty map. -/
structure Node where
  name : String
  labels : GoMap String String

/-- `topology.SegmentEntry`; a `topology.Segment` is a `List SegmentEntry`. -/
structure SegmentEntry where
  key : String
  value : String
  deriving DecidableEq, Repr

/-- `schema.GroupVersionKind`. -/
structure GroupVersionKind where
  group : String
  version : String
  kind : String
  deriving DecidableEq, Repr

/-- `metav1.OwnerReference`, the fields `main` logs. -/
structure OwnerReference where
  apiVersion : String
  kind : String
  name : String
  deriving DecidableEq, Repr

/-- The informer types of `factory`: those `main` asks it for, and any other type
(`WaitForCacheSync` reports on a map keyed by `reflect.Type`). -/
inductive InformerType
  | storageClasses
  | persistentVolumeClaims
  | volumeAttachments
  | csiNodes
  | nodes
  | other (name : String)
  deriving DecidableEq, Repr

/-- The two labels of `capacity.DriverNameLabel` and `capacity.ManagedByLabel` (their texts are in
`pkg/capacity`, outside the source of `main`; they differ). -/
inductive CapacityLabel
  | driverName
  | managedBy
  deriving DecidableEq, Repr

end CsiProvisioner
