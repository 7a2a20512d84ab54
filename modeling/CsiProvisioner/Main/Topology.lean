import Mathlib.Data.List.Nodup
import CsiProvisioner.Main.Basic

/-!
# The topology of a node-local deployment

With `--node-deployment` and a driver that supports topology, `main` does not watch `Node` and
`CSINode` objects. It builds one static object of each from the driver's `NodeGetInfo` answer and
hands them to the provisioner (`csi-provisioner.go:309-343`): the `CSINode` lists the topology
keys, collected by a `range` loop over the `Segments` map, and the `Node` carries that map as its
labels. With `--enable-capacity` it also builds the fixed `topology.Segment` that the capacity
controller publishes capacity for, by a second `range` loop over the same map (`:435-442`).

Both loops append one element per entry, so each builds the map's entries in its own order
(`topologyKeys_eq`, `fixedSegment_eq`). `fixedSegment_agrees` is the agreement: whatever the two
orders, the segment holds every entry of the map once, and the same pairs as the keys of the
`CSINode` read through the labels of the `Node`. That these are the objects `main` hands to the
provisioner and to the capacity controller is proved of the bootstrap, in `CsiProvisioner.Assembly`.
-/

namespace CsiProvisioner

/-- A loop that appends one element per visited item builds the mapped list. -/
theorem foldl_append_singleton_eq_map {α β : Type} (f : α → β) :
    ∀ (l : List α) (acc : List β), l.foldl (fun acc x => acc ++ [f x]) acc = acc ++ l.map f
  | [], acc => by simp
  | x :: l, acc => by simp [foldl_append_singleton_eq_map f l]

namespace NodeDeployment

/-- The `Segments` of the driver's topology; a nil `AccessibleTopology` has none. -/
def segments (nd : NodeDeployment) : GoMap String String :=
  match nd.nodeInfo.accessibleTopology with
  | some t => t.segments
  | none => .empty

end NodeDeployment

/-- `csiNode.Spec.Drivers[0].TopologyKeys`: `append` of every key of the segments, in the loop's
order (`:328-330`). -/
def topologyKeys (t : Topology) (o : RangeOrder String String) : List String :=
  (t.segments.range o).foldl (fun keys e => keys ++ [e.1]) []

/-- The static `CSINode` and `Node` of a node-local deployment (`:309-332`). -/
def localTopologyObjects (provisionerName : String) (nd : NodeDeployment)
    (o : RangeOrder String String) : CSINode × Node :=
  let driver : CSINodeDriver :=
    { name := provisionerName, nodeID := nd.nodeInfo.nodeId, topologyKeys := [] }
  match nd.nodeInfo.accessibleTopology with
  | some t =>
    ({ name := nd.nodeName, drivers := [{ driver with topologyKeys := topologyKeys t o }] },
      { name := nd.nodeName, labels := t.segments })
  | none => ({ name := nd.nodeName, drivers := [driver] }, { name := nd.nodeName, labels := .empty })

/-- The segment handed to `topology.NewFixedNodeTopology`: `append` of one entry per key and value
of the segments, in the loop's order (`:435-440`). -/
def fixedSegment (nd : NodeDeployment) (o : RangeOrder String String) : List SegmentEntry :=
  match nd.nodeInfo.accessibleTopology with
  | some t => (t.segments.range o).foldl (fun segment e => segment ++ [⟨e.1, e.2⟩]) []
  | none => []

/-- The entry of a map entry. -/
def SegmentEntry.ofPair (e : String × String) : SegmentEntry := ⟨e.1, e.2⟩

@[simp] theorem GoMap.range_empty {κ ν : Type} (o : RangeOrder κ ν) :
    (GoMap.empty : GoMap κ ν).range o = [] :=
  (o.perm []).eq_nil

theorem fixedSegment_eq (nd : NodeDeployment) (o : RangeOrder String String) :
    fixedSegment nd o = (nd.segments.range o).map SegmentEntry.ofPair := by
  unfold fixedSegment NodeDeployment.segments
  split
  · exact foldl_append_singleton_eq_map SegmentEntry.ofPair _ []
  · simp

theorem topologyKeys_eq (t : Topology) (o : RangeOrder String String) :
    topologyKeys t o = (t.segments.range o).map Prod.fst :=
  foldl_append_singleton_eq_map Prod.fst _ []

/-- The `CSINode` has one driver, whose topology keys are the keys of the segments in the order
of the first loop, and the `Node`'s labels are the segments. -/
theorem localTopologyObjects_eq (provisionerName : String) (nd : NodeDeployment)
    (o : RangeOrder String String) :
    (localTopologyObjects provisionerName nd o).1.drivers =
        [{ name := provisionerName, nodeID := nd.nodeInfo.nodeId,
           topologyKeys := (nd.segments.range o).map Prod.fst }] ∧
      (localTopologyObjects provisionerName nd o).2.labels = nd.segments := by
  unfold localTopologyObjects NodeDeployment.segments
  split <;> simp [topologyKeys_eq]

theorem mem_fixedSegment {nd : NodeDeployment} {o : RangeOrder String String} {e : SegmentEntry} :
    e ∈ fixedSegment nd o ↔ nd.segments.get? e.key = some e.value := by
  rw [fixedSegment_eq, ← GoMap.mem_entries_iff_get?, List.mem_map]
  constructor
  · rintro ⟨⟨k, v⟩, h, rfl⟩
    exact GoMap.mem_range.1 h
  · intro h
    exact ⟨_, GoMap.mem_range.2 h, rfl⟩

theorem fixedSegment_keys (nd : NodeDeployment) (o : RangeOrder String String) :
    (fixedSegment nd o).map SegmentEntry.key = (nd.segments.range o).map Prod.fst := by
  simp [fixedSegment_eq, Function.comp_def, SegmentEntry.ofPair]

/-- The segment's entries are the keys of the segments, in any order, each with the value the
segments map it to. -/
theorem mem_fixedSegment_iff_index {nd : NodeDeployment} {o₁ o₂ : RangeOrder String String}
    {e : SegmentEntry} :
    e ∈ fixedSegment nd o₂ ↔
      e.key ∈ (nd.segments.range o₁).map Prod.fst ∧ e.value = nd.segments.index e.key := by
  rw [mem_fixedSegment, GoMap.mem_range_keys, GoMap.mem_keys_iff]
  constructor
  · intro h
    exact ⟨⟨_, h⟩, (nd.segments.index_of_mem ((nd.segments.mem_entries_iff_get?).2 h)).symm⟩
  · rintro ⟨⟨v, hv⟩, he⟩
    rwa [he, nd.segments.index_of_mem ((nd.segments.mem_entries_iff_get?).2 hv)]

/-- The fixed segment agrees with the static topology objects. Whatever the orders `o₁` of the
loop that collects the `CSINode`'s topology keys and `o₂` of the loop that builds the fixed
segment: (i) the segment holds exactly the entries of the driver's segments, each key once, and
nothing for a nil topology; (ii) the `CSINode` has one driver, whose topology keys are distinct
and are the keys of the `Node`'s labels, and the segment's pairs are those keys with their label
values. -/
theorem fixedSegment_agrees (provisionerName : String) (nd : NodeDeployment)
    (o₁ o₂ : RangeOrder String String) :
    ((∀ e, e ∈ fixedSegment nd o₂ ↔ nd.segments.get? e.key = some e.value) ∧
      (∀ k ∈ nd.segments.keys, ((fixedSegment nd o₂).map SegmentEntry.key).count k = 1) ∧
      ((fixedSegment nd o₂).map SegmentEntry.key).Nodup ∧
      (nd.nodeInfo.accessibleTopology = none → fixedSegment nd o₂ = [])) ∧
    ∃ d, (localTopologyObjects provisionerName nd o₁).1.drivers = [d] ∧ d.topologyKeys.Nodup ∧
      (∀ k, k ∈ d.topologyKeys ↔ k ∈ (localTopologyObjects provisionerName nd o₁).2.labels.keys) ∧
      ∀ e, e ∈ fixedSegment nd o₂ ↔ e.key ∈ d.topologyKeys ∧
        e.value = (localTopologyObjects provisionerName nd o₁).2.labels.index e.key := by
  obtain ⟨hdrivers, hlabels⟩ := localTopologyObjects_eq provisionerName nd o₁
  have hnodup : ((fixedSegment nd o₂).map SegmentEntry.key).Nodup := by
    rw [fixedSegment_keys]; exact nd.segments.range_keys_nodup o₂
  refine ⟨⟨fun _ => mem_fixedSegment, fun k hk => List.count_eq_one_of_mem hnodup ?_, hnodup,
    fun h => by simp [fixedSegment, h]⟩, _, hdrivers, nd.segments.range_keys_nodup o₁,
    fun k => by simp [hlabels, GoMap.keys], fun e => ?_⟩
  · rw [fixedSegment_keys]; exact GoMap.mem_range_keys.2 hk
  · rw [hlabels]; exact mem_fixedSegment_iff_index

end CsiProvisioner
