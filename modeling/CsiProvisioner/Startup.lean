import CsiProvisioner.Main.Run

/-!
# No controller runs before its caches have synced

`controllers_start_after_caches_sync`: in every execution of `main`, whatever the flags, the
environment, the driver's answers and the result of `WaitForCacheSync` (a map of any size, looped
over in any order), a controller is run under a context `ctx` only after `factory.Start(ctx)`,
after `factoryForNamespace.Start(ctx)` when capacity publishing is on, after
`factory.WaitForCacheSync(ctx)` reported every cache as synced, and, with `--leader-election`,
only under the election's context once leadership was acquired (`StartGuard`).

The proof follows `main`: the bootstrap and the HTTP server only have effects (`Event.effect`),
`startInformers` emits the starts and the wait and goes on only when every cache synced
(`startInformers_result_eq_some`), and `runControllers` runs controllers and nothing else. The
`Guarded` form of the property splits over each bind of `main`, and it holds of every prefix of a
guarded trace, hence of every execution, also one ended early by another goroutine.
-/

namespace CsiProvisioner

/-- What has happened before a controller is run under `ctx`, in a process with flags `f` in the
world `w`; `pre` is everything the process emitted before. -/
structure StartGuard (f : Flags) (w : World) (pre : List Event) (ctx : Context) : Prop where
  /-- `factory.Start` was called with the controller's context, -/
  factoryStarted : Event.factoryStart ctx ∈ pre
  /-- and so was `factoryForNamespace.Start` when capacity publishing is on. -/
  namespacedFactoryStarted : f.enableCapacity = true → Event.factoryForNamespaceStart ctx ∈ pre
  /-- `factory.WaitForCacheSync` was called with it, -/
  cachesAwaited : Event.waitForCacheSync ctx ∈ pre
  /-- and every value of its result is `true`. -/
  cachesSynced : ∀ kv ∈ w.cacheSyncResult.entries, kv.2 = true
  /-- With leader election, the context is the one the election hands to its callback, after it
  acquired leadership. -/
  leading : f.enableLeaderElection = true → ctx = .leading ∧ Event.startedLeading ∈ pre

section

variable {f : Flags} {w : World}

theorem StartGuard.mono {pre pre' : List Event} {ctx : Context} (h : StartGuard f w pre ctx)
    (hs : pre ⊆ pre') : StartGuard f w pre' ctx :=
  ⟨hs h.1, fun hc => hs (h.2 hc), hs h.3, h.4, fun hl => ⟨(h.5 hl).1, hs (h.5 hl).2⟩⟩

/-- A controller run needs its `StartGuard`; no other event needs anything. -/
def startGuard (f : Flags) (w : World) (pre : List Event) : Event → Prop
  | .runController _ ctx => StartGuard f w pre ctx
  | _ => True

@[simp] theorem startGuard_effect (pre : List Event) (e : Effect) :
    startGuard f w pre (.effect e) := trivial

/-- A trace of effects needs nothing. -/
theorem guarded_mapTrace_effect (pre : List Event) (x : Proc Effect α) :
    Proc.Guarded (startGuard f w) pre (x.mapTrace Event.effect).trace :=
  Proc.guarded_of_forall fun e he _ => by
    obtain ⟨e, -, rfl⟩ := List.mem_map.1 he
    trivial

/-- The first half of `run` runs no controller. -/
theorem startInformers_guarded (a : Assembly) (ctx : Context) (pre : List Event) :
    Proc.Guarded (startGuard f w) pre (startInformers w a ctx).trace :=
  Proc.guarded_of_forall fun _ he _ => by
    rcases mem_startInformers_trace he with rfl | rfl | rfl | rfl <;> trivial

/-- **`run` is guarded** when the namespace-scoped factory exists exactly with capacity
publishing, and, with leader election, it is called under the election's context after
leadership was acquired. -/
theorem run_guarded {a : Assembly} {ctx : Context} {pre : List Event}
    (hns : a.factoryForNamespace.isSome = f.enableCapacity)
    (hle : f.enableLeaderElection = true → ctx = .leading ∧ Event.startedLeading ∈ pre) :
    Proc.Guarded (startGuard f w) pre (run f w a ctx).trace := by
  refine Proc.guarded_bind (startInformers_guarded a ctx pre) fun _ hs =>
    Proc.guarded_of_forall fun e he p => ?_
  obtain ⟨c, rfl⟩ := runControllers_trace f a ctx e he
  have hsynced := startInformers_result_eq_some.1 hs
  refine StartGuard.mono ⟨?_, fun hc => ?_, ?_, allSynced_iff.1 hsynced,
    fun hl => ⟨(hle hl).1, List.mem_append_left _ (hle hl).2⟩⟩ (List.subset_append_left _ p)
  all_goals simp [startInformers_trace, hns, *]

theorem startHTTPServer_guarded (a : Assembly) (mux : ServeMux) (pre : List Event) :
    Proc.Guarded (startGuard f w) pre (startHTTPServer f a mux).trace := by
  unfold startHTTPServer
  split
  · exact Proc.guarded_bind (guarded_mapTrace_effect _ _) fun _ _ => by simp
  · simp

/-- The leader election calls `run` only under its own context, after `startedLeading`. -/
theorem runWithLeaderElection_guarded {a : Assembly} {mux : ServeMux} {pre : List Event}
    (hns : a.factoryForNamespace.isSome = f.enableCapacity) :
    Proc.Guarded (startGuard f w) pre (runWithLeaderElection f w a mux).trace := by
  refine Proc.guarded_bind (guarded_mapTrace_effect _ _) fun _ _ => ?_
  refine Proc.guarded_bind ?_ fun _ _ => ?_
  · split
    · exact guarded_mapTrace_effect _ _
    · simp
  simp only [Proc.emit_bind, Proc.Guarded, startGuard, true_and]
  cases w.election with
  | acquired =>
    simp only [Proc.Guarded, startGuard, true_and]
    exact run_guarded hns fun _ => ⟨rfl, by simp⟩
  | _ => simp

theorem main_guarded (f : Flags) (w : World) : Proc.Guarded (startGuard f w) [] (main f w).trace := by
  refine Proc.guarded_bind (guarded_mapTrace_effect _ _) fun a ha => ?_
  have hns := (bootstrap_capacity ha).1
  refine Proc.guarded_bind (startHTTPServer_guarded a _ _) fun _ _ => ?_
  cases hl : f.enableLeaderElection
  · exact run_guarded hns (by simp [hl])
  · exact runWithLeaderElection_guarded hns

/-- **No controller runs before its caches have synced.** In every execution of `main`, a call
of a controller's `Run` under `ctx` comes after `factory.Start(ctx)`, after
`factoryForNamespace.Start(ctx)` with capacity publishing, after a `WaitForCacheSync(ctx)` whose
every value is `true`, and, with leader election, under the election's context after
leadership was acquired. -/
theorem controllers_start_after_caches_sync {t pre post : List Event} {c : Controller}
    {ctx : Context} (ht : Execution f w t) (hc : t = pre ++ .runController c ctx :: post) :
    StartGuard f w pre ctx := by
  have hg : Proc.Guarded (startGuard f w) [] t := by
    cases ht with
    | running h => exact (main_guarded f w).truncate h
    | killed msg h =>
      exact Proc.guarded_append.2 ⟨(main_guarded f w).truncate h, by simp⟩
  simpa [startGuard] using Proc.guarded_iff.1 hg pre _ post hc

end

/-- With `--leader-election`, the cloning protection controller runs under the election's context
after the leader election, the start of `factory` and the wait for its caches. -/
theorem controllers_start_after_caches_sync_leading :
    StartGuard { enableLeaderElection := true } sampleWorld
      [.effect (.csi (.connect "/run/csi/socket" false)), .effect (.csi .probe),
        .effect (.csi .getDriverName), .effect (.csi .getDriverCapabilities),
        .leaderElection "hostpath.csi.k8s.io" "" false, .startedLeading,
        .factoryStart .leading, .waitForCacheSync .leading] .leading :=
  @controllers_start_after_caches_sync { enableLeaderElection := true } sampleWorld _ _
    [.runController (.provision 100) .leading] (.cloningProtection 1) .leading
    (.running (List.prefix_refl _)) (by decide)

end CsiProvisioner
