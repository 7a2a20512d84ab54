import Mathlib.Data.List.Infix

/-!
# Processes: what Go code emits, and whether it returns

`main` is straight-line Go code that calls out to collaborators, ends the process on every error
(`klog.Fatal`, `os.Exit`) and, once it has assembled the controllers, blocks in
`provisionController.Run`. A `Proc ε α` is one run of such code: the events it emitted, in order,
and the value it returned, or `none` when it never returned. Binding keeps the trace of a run that
ended, so the events of `x >>= f` are those of `x`, then those of `f` if `x` returned
(`trace_bind_of_some`, `trace_bind_of_none`).

`Guarded G pre t` says that every event of the trace `t` satisfies `G` given everything emitted
before it, `pre` first. It splits over appends (`guarded_append`) and binds (`guarded_bind`), and
it is what the startup law of `CsiProvisioner.Startup` is stated with.

`Exits stop x` says that `x` ends the process exactly where it stops: an event satisfying `stop`
is the last event of a run that did not return, and no other event satisfies it. It holds of a
bind whose parts have it (`exits_bind`). `All P x` says that every event of `x` satisfies `P`;
each branch of an `if` may use its condition (`all_ite`).
-/

namespace CsiProvisioner

/-- One run of Go code: the events it emitted, in order, and its value; `none` when it never
returned, because the process ended or the code blocked for good. -/
structure Proc (ε α : Type) where
  trace : List ε
  result : Option α

namespace Proc

variable {ε ε' α β : Type}

/-- Run `x`, and `f` on its value if it returned. -/
def bind (x : Proc ε α) (f : α → Proc ε β) : Proc ε β :=
  match x.result with
  | some a => ⟨x.trace ++ (f a).trace, (f a).result⟩
  | none => ⟨x.trace, none⟩

instance : Monad (Proc ε) where
  pure a := ⟨[], some a⟩
  bind := bind

/-- Emit one event and go on. -/
def emit (e : ε) : Proc ε Unit := ⟨[e], some ()⟩

/-- Emit one event and end the process. -/
def halt (e : ε) : Proc ε α := ⟨[e], none⟩

/-- Block for good: a call that returns only when a context that is never done is done. -/
def block : Proc ε α := ⟨[], none⟩

/-- The same run, with every event renamed by `g`. -/
def mapTrace (g : ε → ε') (x : Proc ε α) : Proc ε' α := ⟨x.trace.map g, x.result⟩

@[simp] theorem trace_pure (a : α) : (pure a : Proc ε α).trace = [] := rfl
@[simp] theorem result_pure (a : α) : (pure a : Proc ε α).result = some a := rfl
@[simp] theorem trace_emit (e : ε) : (emit e).trace = [e] := rfl
@[simp] theorem result_emit (e : ε) : (emit e).result = some () := rfl
@[simp] theorem trace_halt (e : ε) : (halt e : Proc ε α).trace = [e] := rfl
@[simp] theorem result_halt (e : ε) : (halt e : Proc ε α).result = none := rfl
@[simp] theorem trace_block : (block : Proc ε α).trace = [] := rfl
@[simp] theorem result_block : (block : Proc ε α).result = none := rfl
@[simp] theorem trace_mapTrace (g : ε → ε') (x : Proc ε α) :
    (x.mapTrace g).trace = x.trace.map g := rfl
@[simp] theorem result_mapTrace (g : ε → ε') (x : Proc ε α) :
    (x.mapTrace g).result = x.result := rfl

section bind

variable {x : Proc ε α} {f : α → Proc ε β} {a : α}

theorem trace_bind_of_some (h : x.result = some a) : (x >>= f).trace = x.trace ++ (f a).trace := by
  show (bind x f).trace = _; simp only [bind, h]

theorem result_bind_of_some (h : x.result = some a) : (x >>= f).result = (f a).result := by
  show (bind x f).result = _; simp only [bind, h]

theorem trace_bind_of_none (h : x.result = none) : (x >>= f).trace = x.trace := by
  show (bind x f).trace = _; simp only [bind, h]

theorem result_bind_of_none (h : x.result = none) : (x >>= f).result = none := by
  show (bind x f).result = _; simp only [bind, h]

/-- A bind returned exactly when both of its parts did. -/
theorem result_bind_eq_some {b : β} :
    (x >>= f).result = some b ↔ ∃ a, x.result = some a ∧ (f a).result = some b := by
  cases h : x.result with
  | none => simp [result_bind_of_none h]
  | some a => simp [result_bind_of_some h]

theorem mem_trace_bind {e : ε} (h : e ∈ (x >>= f).trace) :
    e ∈ x.trace ∨ ∃ a, x.result = some a ∧ e ∈ (f a).trace := by
  cases hx : x.result with
  | none => rw [trace_bind_of_none hx] at h; exact .inl h
  | some a => rw [trace_bind_of_some hx, List.mem_append] at h; exact h.imp_right fun h => ⟨a, rfl, h⟩

@[simp] theorem pure_bind (a : α) (f : α → Proc ε β) : (pure a : Proc ε α) >>= f = f a := rfl

@[simp] theorem emit_bind (e : ε) (f : Unit → Proc ε β) :
    emit e >>= f = ⟨e :: (f ()).trace, (f ()).result⟩ := rfl

@[simp] theorem halt_bind (e : ε) (f : α → Proc ε β) : (halt e : Proc ε α) >>= f = halt e := rfl

@[simp] theorem mk_some_bind (t : List ε) (a : α) (f : α → Proc ε β) :
    (⟨t, some a⟩ : Proc ε α) >>= f = ⟨t ++ (f a).trace, (f a).result⟩ := rfl

@[simp] theorem mk_none_bind (t : List ε) (f : α → Proc ε β) :
    (⟨t, none⟩ : Proc ε α) >>= f = ⟨t, none⟩ := rfl

@[simp] theorem block_bind (f : α → Proc ε β) : (block : Proc ε α) >>= f = block := rfl

@[simp] theorem result_map (g : α → β) (x : Proc ε α) : (g <$> x).result = x.result.map g := by
  show (bind x (pure ∘ g)).result = _
  cases h : x.result <;> simp [bind, h]

@[simp] theorem trace_map (g : α → β) (x : Proc ε α) : (g <$> x).trace = x.trace := by
  show (bind x (pure ∘ g)).trace = _
  cases h : x.result <;> simp [bind, h]

/-- A bind that only returns a value emits what its first part emits. -/
@[simp] theorem trace_bind_pure (x : Proc ε α) (g : α → β) :
    (x >>= fun a => pure (g a)).trace = x.trace := by
  cases h : x.result
  · exact trace_bind_of_none h
  · rw [trace_bind_of_some h, trace_pure, List.append_nil]

/-- The events a bind selects are a prefix of `l₁ ++ l₂` when those of its first part are a prefix
of `l₁`, all of it if that part returns, and those of its rest a prefix of `l₂`. -/
theorem filterMap_trace_bind_prefix {β' : Type} {p : ε → Option β'} {l₁ l₂ : List β'} {x : Proc ε α}
    {f : α → Proc ε β} (hx : x.trace.filterMap p <+: l₁)
    (hf : ∀ a, x.result = some a → x.trace.filterMap p = l₁ ∧ (f a).trace.filterMap p <+: l₂) :
    (x >>= f).trace.filterMap p <+: l₁ ++ l₂ := by
  cases h : x.result with
  | none => rw [trace_bind_of_none h]; exact hx.trans (List.prefix_append _ _)
  | some a =>
    obtain ⟨hx', hf'⟩ := hf a h
    rw [trace_bind_of_some h, List.filterMap_append, hx']
    exact (List.prefix_append_right_inj l₁).2 hf'

@[simp] theorem mapTrace_pure (g : ε → ε') (a : α) : (pure a : Proc ε α).mapTrace g = pure a := rfl

@[simp] theorem mapTrace_halt (g : ε → ε') (e : ε) : (halt e : Proc ε α).mapTrace g = halt (g e) := rfl

end bind

/-! ## Guarded traces -/

/-- Every event `e` of the trace satisfies `G p e`, where `p` is everything emitted before it,
`pre` first. -/
def Guarded (G : List ε → ε → Prop) : List ε → List ε → Prop
  | _, [] => True
  | pre, e :: t => G pre e ∧ Guarded G (pre ++ [e]) t

variable {G : List ε → ε → Prop}

@[simp] theorem guarded_nil (pre : List ε) : Guarded G pre [] := trivial

theorem guarded_append {pre t₁ t₂ : List ε} :
    Guarded G pre (t₁ ++ t₂) ↔ Guarded G pre t₁ ∧ Guarded G (pre ++ t₁) t₂ := by
  induction t₁ generalizing pre with
  | nil => simp
  | cons e t₁ ih => simp [Guarded, ih, and_assoc]

@[simp] theorem guarded_singleton {pre : List ε} {e : ε} : Guarded G pre [e] ↔ G pre e := by
  simp [Guarded]

/-- A trace whose every event satisfies `G` after `pre` and anything else is guarded. -/
theorem guarded_of_forall {pre t : List ε} (h : ∀ e ∈ t, ∀ p, G (pre ++ p) e) :
    Guarded G pre t := by
  induction t generalizing pre with
  | nil => trivial
  | cons e t ih =>
    refine ⟨by simpa using h e (.head _) [], ih fun e' he' p => ?_⟩
    simpa using h e' (.tail _ he') (e :: p)

theorem Guarded.truncate {pre t t' : List ε} (h : Guarded G pre t) (ht : t' <+: t) :
    Guarded G pre t' := by
  obtain ⟨u, rfl⟩ := ht
  exact (guarded_append.1 h).1

/-- Guarded traces in the form of a property of each event and what came before it. -/
theorem guarded_iff {pre t : List ε} :
    Guarded G pre t ↔ ∀ p e q, t = p ++ e :: q → G (pre ++ p) e := by
  induction t generalizing pre with
  | nil => simp
  | cons e t ih =>
    simp only [Guarded, ih]
    constructor
    · rintro ⟨he, ht⟩ (_ | ⟨e', p⟩) e'' q h
      · obtain ⟨rfl, rfl⟩ := List.cons.inj h
        simpa using he
      · simp only [List.cons_append, List.cons.injEq] at h
        obtain ⟨rfl, rfl⟩ := h
        simpa using ht p e'' q rfl
    · intro h
      exact ⟨by simpa using h [] e t rfl, fun p e' q ht => by simpa using h (e :: p) e' q (by simp [ht])⟩

/-- The trace of a bind is guarded when its first part is and its rest is, after it. -/
theorem guarded_bind {x : Proc ε α} {f : α → Proc ε β} {pre : List ε}
    (hx : Guarded G pre x.trace) (hf : ∀ a, x.result = some a → Guarded G (pre ++ x.trace) (f a).trace) :
    Guarded G pre (x >>= f).trace := by
  cases h : x.result with
  | none => rwa [trace_bind_of_none h]
  | some a => rw [trace_bind_of_some h, guarded_append]; exact ⟨hx, hf a h⟩

/-! ## Runs that end the process where they stop -/

/-- The run ends the process exactly where it stops: no event of its trace satisfies `stop`, but
the last one of a run that did not return, and that one does. -/
def Exits (stop : ε → Prop) (x : Proc ε α) : Prop :=
  ∃ t, (∀ e ∈ t, ¬ stop e) ∧
    (x.trace = t ∧ x.result.isSome ∨ ∃ e, stop e ∧ x.trace = t ++ [e] ∧ x.result = none)

variable {stop : ε → Prop}

theorem exits_pure (a : α) : Exits stop (pure a : Proc ε α) := ⟨[], by simp⟩

theorem exits_emit {e : ε} (h : ¬ stop e) : Exits stop (emit e) :=
  ⟨[e], by simpa using h, .inl ⟨rfl, rfl⟩⟩

theorem exits_halt {e : ε} (h : stop e) : Exits stop (halt e : Proc ε α) :=
  ⟨[], by simp, .inr ⟨e, h, rfl, rfl⟩⟩

theorem exits_map {x : Proc ε α} (g : α → β) (hx : Exits stop x) : Exits stop (g <$> x) := by
  obtain ⟨t, ht, h⟩ := hx
  exact ⟨t, ht, by simpa using h⟩

theorem exits_ite {c : Prop} [Decidable c] {x y : Proc ε α} (hx : Exits stop x)
    (hy : Exits stop y) : Exits stop (if c then x else y) := by
  split <;> assumption

theorem exits_bind {x : Proc ε α} {f : α → Proc ε β} (hx : Exits stop x)
    (hf : ∀ a, x.result = some a → Exits stop (f a)) : Exits stop (x >>= f) := by
  obtain ⟨t, ht, ⟨hxt, hxr⟩ | ⟨e, he, hxt, hxr⟩⟩ := hx
  · obtain ⟨a, ha⟩ := Option.isSome_iff_exists.1 hxr
    obtain ⟨u, hu, hfu⟩ := hf a ha
    refine ⟨t ++ u, fun e he' => (List.mem_append.1 he').elim (ht e) (hu e), ?_⟩
    rw [trace_bind_of_some ha, result_bind_of_some ha, hxt]
    rcases hfu with ⟨hu, hr⟩ | ⟨e, he, hu, hr⟩
    · exact .inl ⟨by rw [hu], hr⟩
    · exact .inr ⟨e, he, by rw [hu, List.append_assoc], hr⟩
  · exact ⟨t, ht, .inr ⟨e, he, by rw [trace_bind_of_none hxr, hxt], result_bind_of_none hxr⟩⟩

/-! ## Runs whose every event has a property -/

/-- Every event of the run satisfies `P`. -/
def All (P : ε → Prop) (x : Proc ε α) : Prop := ∀ e ∈ x.trace, P e

variable {P : ε → Prop}

theorem all_pure (a : α) : All P (pure a : Proc ε α) := fun _ h => absurd h (List.not_mem_nil _)

theorem all_emit {e : ε} (h : P e) : All P (emit e) := fun _ he => List.eq_of_mem_singleton he ▸ h

theorem all_halt {e : ε} (h : P e) : All P (halt e : Proc ε α) :=
  fun _ he => List.eq_of_mem_singleton he ▸ h

theorem all_map {x : Proc ε α} (g : α → β) (hx : All P x) : All P (g <$> x) := by
  intro e he; rw [trace_map] at he; exact hx e he

/-- Each branch of an `if` may use its condition. -/
theorem all_ite {c : Prop} [Decidable c] {x y : Proc ε α} (hx : c → All P x) (hy : ¬c → All P y) :
    All P (if c then x else y) := by
  split
  · exact hx ‹_›
  · exact hy ‹_›

theorem all_bind {x : Proc ε α} {f : α → Proc ε β} (hx : All P x)
    (hf : ∀ a, x.result = some a → All P (f a)) : All P (x >>= f) := fun e he =>
  (mem_trace_bind he).elim (hx e) fun ⟨a, ha, he⟩ => hf a ha e he

end Proc

end CsiProvisioner
