import CsiProvisioner.Main.Basic
import CsiProvisioner.Api.Validation

/-!
# The managed-by identity of the capacity controller

With `--enable-capacity`, `main` names the instance that manages a `CSIStorageCapacity` object by
`managedByID`: `external-provisioner` for the central deployment, and `external-provisioner-`
followed by the node's name for a node-local one (`csi-provisioner.go:446-449`). The value is the
`ManagedByLabel` of the label selector of the namespace-scoped informer (`:454-463`) and of the
capacity controller's objects (`:465-479`).

The identity tells instances apart (`managedByID_injective`, `managedByID_ne_central`), so
instances of the same driver select disjoint sets of objects (`capacityLabelSelector_injective`).
It is a valid label value exactly when the node's name has at most 42 characters
(`isValidLabelValue_managedByID_iff`): the prefix takes 21 of the 63 characters a label value may
have, and nothing in `main` shortens a longer name (`managedByID_long_node_name`).
-/

namespace CsiProvisioner

/-- `managedByID` (`:446-449`). -/
def managedByID (enableNodeDeployment : Bool) (node : String) : String :=
  if enableNodeDeployment then "external-provisioner" ++ ("-" ++ node) else "external-provisioner"

/-- The `labels.Set` of the selector of the `CSIStorageCapacity` informer (`:458-461`). -/
def capacityLabelSelector (provisionerName managedByID : String) : CapacityLabel → String
  | .driverName => provisionerName
  | .managedBy => managedByID

/-- An object whose labels are `labels` passes the selector built from the set `sel`. -/
def selects (sel : CapacityLabel → String) (labels : CapacityLabel → Option String) : Prop :=
  ∀ l, labels l = some (sel l)

@[simp] theorem managedByID_true (node : String) :
    managedByID true node = "external-provisioner-" ++ node := by
  simp [managedByID, ← String.append_assoc]

@[simp] theorem managedByID_false (node : String) :
    managedByID false node = "external-provisioner" := rfl

/-- Distinct nodes have distinct identities. -/
theorem managedByID_injective : Function.Injective (managedByID true) := by
  intro n₁ n₂ h
  simp only [managedByID_true] at h
  have := congrArg (List.drop 21 ∘ String.data) h
  exact String.ext (by simpa [String.data_append] using this)

/-- No node-local instance has the identity of the central deployment. -/
theorem managedByID_ne_central (node : String) : managedByID true node ≠ managedByID false node := by
  intro h
  have := congrArg String.length h
  simp only [managedByID_true, managedByID_false, String.length_append] at this
  have h₁ : "external-provisioner-".length = 21 := by decide
  have h₂ : "external-provisioner".length = 20 := by decide
  omega

/-- Two instances of the same driver on different nodes, or a node-local instance and the central
one, never select the same objects: an object labelled for one fails the selector of the other. -/
theorem capacityLabelSelector_injective {p₁ p₂ : String} {b₁ b₂ : Bool} {n₁ n₂ : String}
    {labels : CapacityLabel → Option String}
    (h₁ : selects (capacityLabelSelector p₁ (managedByID b₁ n₁)) labels)
    (h₂ : selects (capacityLabelSelector p₂ (managedByID b₂ n₂)) labels) :
    p₁ = p₂ ∧ b₁ = b₂ ∧ (b₁ = true → n₁ = n₂) := by
  have hd := (h₁ .driverName).symm.trans (h₂ .driverName)
  have hm := (h₁ .managedBy).symm.trans (h₂ .managedBy)
  simp only [capacityLabelSelector, Option.some.injEq] at hd hm
  refine ⟨hd, ?_⟩
  cases b₁ <;> cases b₂
  · simp
  · exact absurd hm.symm (managedByID_ne_central n₂)
  · exact absurd hm (managedByID_ne_central n₁)
  · exact ⟨rfl, fun _ => managedByID_injective hm⟩

theorem capacityLabelSelector_injective_node1 :
    selects (capacityLabelSelector "hostpath.csi.k8s.io" (managedByID true "node-1"))
        (some ∘ capacityLabelSelector "hostpath.csi.k8s.io" (managedByID true "node-1")) ∧
      ("hostpath.csi.k8s.io" = "hostpath.csi.k8s.io" ∧ true = true ∧ (true = true → "node-1" = "node-1")) :=
  ⟨fun _ => rfl, capacityLabelSelector_injective (fun _ => rfl) (fun _ => rfl)⟩

/-- The node-local identity is alphanumeric at both ends and made of label-value characters,
for every DNS subdomain name. -/
theorem labelValueFmt_managedByID {node : String} (h : isDNS1123Subdomain node) :
    labelValueFmt (managedByID true node).data := by
  obtain ⟨hall, hlast⟩ := isDNS1123Subdomain_spec h
  have hne : node.data ≠ [] := by rintro h'; simp [h'] at hlast
  simp only [labelValueFmt, managedByID_true, String.data_append, List.getLast?_append, hall,
    List.all_append]
  obtain ⟨c, hc⟩ := List.getLast?_isSome.2 hne |> Option.isSome_iff_exists.1
  simp_all [isLabelValueChar]

/-- **The identity of a node-local instance is a valid label value exactly when the node's name
has at most 42 characters**, for every node name the API server admits. -/
theorem isValidLabelValue_managedByID_iff {node : String} (h : isDNS1123Subdomain node) :
    isValidLabelValue (managedByID true node) ↔ node.length ≤ 42 := by
  rw [isValidLabelValue, labelValueFmt_managedByID h, Bool.and_true, decide_eq_true_eq,
    managedByID_true, String.length_append, show "external-provisioner-".length = 21 by decide]
  omega

theorem isValidLabelValue_managedByID_node1 :
    isDNS1123Subdomain "node-1" ∧ (isValidLabelValue (managedByID true "node-1") ↔ "node-1".length ≤ 42) :=
  ⟨by decide, isValidLabelValue_managedByID_iff (by decide)⟩

/-- An EC2 node name of 46 characters: the API server admits it as the name of a `Node`, and the
identity built from it has 67 characters, too many for a label value. -/
theorem managedByID_long_node_name :
    isDNS1123Subdomain "ip-172-31-25-104.eu-central-1.compute.internal" = true ∧
      (managedByID true "ip-172-31-25-104.eu-central-1.compute.internal").length = 67 ∧
      isValidLabelValue (managedByID true "ip-172-31-25-104.eu-central-1.compute.internal") =
        false := by
  decide

end CsiProvisioner
