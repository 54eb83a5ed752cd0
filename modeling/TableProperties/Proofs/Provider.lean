import Mathlib.Logic.Function.Basic
import TableProperties.Proofs.CommandLine.QuotedWords
import TableProperties.Session

/-!
# Registries as objects

A provider knows which registry is in force, but not whether it is the same *object* as before:
two registries with equal entries are one value. Here every registry is an object with an identity
of its own, and building the built-in registry a second time would give a second object. A container
is a provider that keeps track of this; forgetting the identities gives the provider back, and the
operations of the one are those of the other.

There are two containers, the one that the command line uses and a separate one. Whatever is called,
only the container that the call belongs to changes, and what becomes of it depends on its own state
alone. So the history of a container is that of its own calls, and the registry in force is read off
the calls: the one that was put there last, unless a reset came after it.

## Entry points

A batch can be validated without naming a registry, in which case that of the shared container is
taken; through a container, which names its registry; and by a command line without a file. The three
take the registry on different ways, but all of them from a container that holds what its calls have
left there, so that their outcomes agree after every history.

## Main statements

* `after_eq_update`: a call changes its own container only.
* `lastPut?_eq_head?`: the registry that the calls have left in force.
* `entryPoints_agree`: the entry points after any history.
* `Session.Tracks.run`: the providers of a session are such containers, and its answers those of the
  entry points.
-/

namespace TableProperties

/-! ## Containers -/

/-- What tells a registry from others that are equal to it. -/
inductive RegistryId where
  /-- The registry that a container has built after so many others. -/
  | built (holder : Holder) (number : Nat)
  /-- A registry that was made elsewhere. -/
  | given (number : Nat)
  deriving DecidableEq, Repr

/-- A registry as an object. -/
structure RegistryObject where
  id : RegistryId
  registry : Registry

/-- A provider whose registries are objects. -/
structure Container where
  /-- How many times the built-in registry has been built. -/
  builds : Nat := 0
  /-- The built-in registry that is kept, once it has been needed. -/
  kept : Option RegistryId := none
  /-- The registries put over the built-in one, the last one first. -/
  overrides : List RegistryObject := []

namespace Container

variable {c : Container} {holder : Holder}

/-- The registry in force, with the container after it has been taken. The built-in one is built
where none is kept, and then kept. -/
def take (holder : Holder) (c : Container) : RegistryObject × Container :=
  match c.overrides, c.kept with
  | o :: _, _ => (o, c)
  | [], some id => (⟨id, .builtin⟩, c)
  | [], none =>
    let id := RegistryId.built holder c.builds
    (⟨id, .builtin⟩, { c with builds := c.builds + 1, kept := some id })

/-- Puts a registry over the one in force. -/
def override (c : Container) (o : RegistryObject) : Container :=
  { c with overrides := o :: c.overrides }

/-- Drops all registries that were put over the built-in one. -/
def reset (c : Container) : Container :=
  { c with overrides := [] }

/-- The provider that is left when registries lose their identities. -/
def provider (c : Container) : Provider :=
  ⟨c.kept.isSome, c.overrides.map RegistryObject.registry⟩

theorem registry_take (holder : Holder) (c : Container) :
    (c.take holder).1.registry = c.provider.registry := by
  obtain ⟨builds, kept, overrides⟩ := c
  cases overrides with
  | cons o rest => exact (Provider.registry_override ⟨kept.isSome, _⟩ o.registry).symm
  | nil =>
    rw [Provider.registry_of_overrides_eq_nil rfl]
    cases kept with
    | none => simp only [take]
    | some id => simp only [take]

theorem provider_take (holder : Holder) (c : Container) :
    (c.take holder).2.provider = c.provider.used := by
  obtain ⟨builds, kept, overrides⟩ := c
  cases overrides with
  | cons o rest => rfl
  | nil => cases kept <;> rfl

theorem provider_override (c : Container) (o : RegistryObject) :
    (c.override o).provider = c.provider.override o.registry := rfl

theorem provider_reset (c : Container) : c.reset.provider = c.provider.reset := rfl

@[simp] theorem overrides_take (holder : Holder) (c : Container) :
    (c.take holder).2.overrides = c.overrides := by
  obtain ⟨builds, kept, overrides⟩ := c
  cases overrides with
  | cons o rest => rfl
  | nil => cases kept <;> rfl

/-- A registry that is kept stays. -/
theorem kept_take {id : RegistryId} (h : c.kept = some id) :
    (c.take holder).2.kept = some id := by
  obtain ⟨builds, kept, overrides⟩ := c
  obtain rfl : kept = some id := h
  cases overrides <;> rfl

/-- What is taken from under no other registry is kept. -/
theorem kept_take_of_overrides_eq_nil (h : c.overrides = []) :
    (c.take holder).2.kept = some (c.take holder).1.id := by
  obtain ⟨builds, kept, overrides⟩ := c
  obtain rfl : overrides = [] := h
  cases kept <;> rfl

theorem take_of_kept {id : RegistryId} (hkept : c.kept = some id) (h : c.overrides = []) :
    c.take holder = (⟨id, .builtin⟩, c) := by
  obtain ⟨builds, kept, overrides⟩ := c
  obtain rfl : kept = some id := hkept
  obtain rfl : overrides = [] := h
  rfl

end Container

/-! ## Two containers and their calls -/

/-- The shared container and the separate one. -/
abbrev Containers := Holder → Container

/-- A way to have a batch validated. -/
inductive EntryPoint where
  /-- No registry is named. -/
  | plain
  /-- A container names its registry. -/
  | through (holder : Holder)
  /-- The command line, without a file. -/
  | command
  deriving DecidableEq

namespace Containers

/-- Takes the registry of a container. -/
def take (cs : Containers) (holder : Holder) : RegistryObject × Containers :=
  let (o, c) := (cs holder).take holder
  (o, Function.update cs holder c)

/-- Validates a batch against the registry that is named, or else against that of the shared
container. -/
def validate (cs : Containers) (named : Option RegistryObject) (batch : Configuration) :
    Except PropertyError Configuration × Containers :=
  match named with
  | some o => (o.registry.validate batch, cs)
  | none =>
    let (o, cs) := cs.take .shared
    (o.registry.validate batch, cs)

/-- Validates a batch through a container, which names its registry. -/
def validateThrough (cs : Containers) (holder : Holder) (batch : Configuration) :
    Except PropertyError Configuration × Containers :=
  let (o, cs) := cs.take holder
  cs.validate (some o) batch

/-- Has the command line validate properties without a file. -/
def validateByCommand (cs : Containers) (properties : Mapping String) :
    Except CommandLine.Failure String × Containers :=
  ((CommandLine.validate (cs .shared).provider .empty properties).2, (cs.take .shared).2)

end Containers

/-- What can be done with containers. -/
inductive Call where
  /-- Takes the registry of a container. -/
  | take (holder : Holder)
  /-- Puts a registry over that of a container. -/
  | override (holder : Holder) (o : RegistryObject)
  /-- Drops all registries that were put over that of a container. -/
  | reset (holder : Holder)
  /-- Has some properties validated. -/
  | validate (entry : EntryPoint) (properties : Mapping String)

namespace Call

/-- The container that a call belongs to. -/
def holder : Call → Holder
  | take holder | override holder _ | reset holder | validate (.through holder) _ => holder
  | validate .plain _ | validate .command _ => .shared

/-- What becomes of the container that a call belongs to. -/
def act : Call → Container → Container
  | override _ o, c => c.override o
  | reset _, c => c.reset
  | take holder, c => (c.take holder).2
  | validate (.through holder) _, c => (c.take holder).2
  | validate .plain _, c | validate .command _, c => (c.take .shared).2

/-- What a call leaves over the built-in registry of a container, if it puts a registry there or
drops those that are there. -/
def left? (h : Holder) : Call → Option (Option RegistryObject)
  | override holder o => if holder = h then some (some o) else none
  | reset holder => if holder = h then some none else none
  | _ => none

end Call

/-- The registry that was put over a container most recently, unless it was reset after that. -/
def lastPut? (h : Holder) (calls : List Call) : Option RegistryObject :=
  (calls.reverse.findSome? (Call.left? h)).join

namespace Containers

variable {cs ds : Containers} {calls : List Call} {h : Holder}

/-- Containers that have not been used. -/
def fresh : Containers := fun _ ↦ {}

/-- The containers after a call. -/
def after (cs : Containers) : Call → Containers
  | .take holder => (cs.take holder).2
  | .override holder o => Function.update cs holder ((cs holder).override o)
  | .reset holder => Function.update cs holder (cs holder).reset
  | .validate .plain properties =>
    (cs.validate none (CommandLine.toConfiguration properties)).2
  | .validate (.through holder) properties =>
    (cs.validateThrough holder (CommandLine.toConfiguration properties)).2
  | .validate .command properties => (cs.validateByCommand properties).2

/-- The containers after some calls, one after the other. -/
def afterAll (cs : Containers) (calls : List Call) : Containers :=
  calls.foldl after cs

theorem afterAll_append (cs : Containers) (xs ys : List Call) :
    cs.afterAll (xs ++ ys) = (cs.afterAll xs).afterAll ys :=
  List.foldl_append

theorem afterAll_concat (cs : Containers) (calls : List Call) (c : Call) :
    cs.afterAll (calls ++ [c]) = (cs.afterAll calls).after c :=
  afterAll_append cs calls [c]

/-! ## One call -/

/-- A call changes the container that it belongs to, depending on that container alone. -/
theorem after_eq_update (cs : Containers) (c : Call) :
    cs.after c = Function.update cs c.holder (c.act (cs c.holder)) := by
  cases c with
  | take holder => rfl
  | override holder o => rfl
  | reset holder => rfl
  | validate entry properties => cases entry <;> rfl

theorem after_apply_of_eq {c : Call} (hc : c.holder = h) : cs.after c h = c.act (cs h) := by
  subst hc
  rw [after_eq_update, Function.update_self]

theorem after_apply_of_ne {c : Call} (hc : c.holder ≠ h) : cs.after c h = cs h := by
  rw [after_eq_update, Function.update_of_ne (Ne.symm hc)]

theorem head?_overrides_after (cs : Containers) (c : Call) (h : Holder) :
    ((cs.after c) h).overrides.head? = (c.left? h).getD (cs h).overrides.head? := by
  by_cases hc : c.holder = h
  · rw [after_apply_of_eq hc]
    subst hc
    cases c with
    | take holder => simp [Call.act, Call.left?]
    | override holder o => simp [Call.act, Call.left?, Call.holder, Container.override]
    | reset holder => simp [Call.act, Call.left?, Call.holder, Container.reset]
    | validate entry properties => cases entry <;> simp [Call.act, Call.left?]
  · rw [after_apply_of_ne hc]
    cases c with
    | override holder o =>
      have hholder : holder ≠ h := hc
      rw [Call.left?, if_neg hholder, Option.getD_none]
    | reset holder =>
      have hholder : holder ≠ h := hc
      rw [Call.left?, if_neg hholder, Option.getD_none]
    | take holder => rfl
    | validate entry properties => rfl

theorem kept_after {id : RegistryId} (hkept : (cs h).kept = some id) (c : Call) :
    ((cs.after c) h).kept = some id := by
  by_cases hc : c.holder = h
  · rw [after_apply_of_eq hc]
    cases c with
    | override holder o => exact hkept
    | reset holder => exact hkept
    | take holder => exact Container.kept_take hkept
    | validate entry properties => cases entry <;> exact Container.kept_take hkept
  · rw [after_apply_of_ne hc]
    exact hkept

/-! ## Histories -/

/-- What the calls have left over the built-in registry of a container. -/
theorem lastPut?_eq_head? (h : Holder) (calls : List Call) :
    ((fresh.afterAll calls) h).overrides.head? = lastPut? h calls := by
  induction calls using List.reverseRecOn with
  | nil => rfl
  | append_singleton calls c ih =>
    rw [afterAll_concat, head?_overrides_after, ih, lastPut?, lastPut?, List.reverse_append,
      List.reverse_singleton, List.singleton_append, List.findSome?_cons]
    cases c.left? h <;> rfl

theorem kept_afterAll {id : RegistryId} (hkept : (cs h).kept = some id) (calls : List Call) :
    ((cs.afterAll calls) h).kept = some id := by
  induction calls generalizing cs with
  | nil => exact hkept
  | cons c calls ih => exact ih (kept_after hkept c)

/-- The history of a container is that of the calls that belong to it. -/
theorem afterAll_apply_filter (hcs : cs h = ds h) (calls : List Call) :
    cs.afterAll calls h = ds.afterAll (calls.filter fun c ↦ c.holder = h) h := by
  induction calls generalizing cs ds with
  | nil => exact hcs
  | cons c calls ih =>
    by_cases hc : c.holder = h
    · have hnext : cs.after c h = ds.after c h := by
        rw [after_apply_of_eq hc, after_apply_of_eq hc, hcs]
      simp only [List.filter_cons, decide_eq_true hc, if_true]
      exact ih hnext
    · simp only [List.filter_cons, decide_eq_false hc, Bool.false_eq_true, if_false]
      exact ih ((after_apply_of_ne hc).trans hcs)

/-- The registry that the calls have left in force. -/
theorem registry_provider_afterAll (h : Holder) (calls : List Call) :
    ((fresh.afterAll calls) h).provider.registry
      = ((lastPut? h calls).map RegistryObject.registry).getD .builtin := by
  rw [← lastPut?_eq_head?, Provider.registry, Container.provider, List.head?_map]

/-! ## Entry points -/

theorem validateThrough_fst (cs : Containers) (holder : Holder) (batch : Configuration) :
    (cs.validateThrough holder batch).1 = (cs holder).provider.registry.validate batch :=
  congrArg (Registry.validate · batch) (Container.registry_take holder (cs holder))

theorem validate_none_fst (cs : Containers) (batch : Configuration) :
    (cs.validate none batch).1 = (cs .shared).provider.registry.validate batch :=
  validateThrough_fst cs .shared batch

theorem validateByCommand_fst (cs : Containers) (properties : Mapping String) :
    (cs.validateByCommand properties).1
      = (((cs .shared).provider.registry.validate (CommandLine.toConfiguration properties)).map
          CommandLine.configurationText).mapError .reported := by
  rw [validateByCommand, CommandLine.validate, Mapping.empty_merge]

/-- After a reset, the registry is the object that was taken when there was nothing over it. -/
theorem take_reset_fst (hfree : (cs h).overrides = []) (calls : List Call) :
    ((((cs.after (.take h)).afterAll calls).after (.reset h)).take h).1 = (cs.take h).1 := by
  have hkept : ((cs.after (.take h)) h).kept = some ((cs h).take h).1.id :=
    (congrArg Container.kept (after_apply_of_eq rfl)).trans
      (Container.kept_take_of_overrides_eq_nil hfree)
  have hlast := kept_after (kept_afterAll hkept calls) (.reset h)
  have hreset : ((((cs.after (.take h)).afterAll calls).after (.reset h)) h).overrides = [] :=
    congrArg Container.overrides (after_apply_of_eq (c := .reset h) rfl)
  have hregistry : ((cs h).take h).1.registry = .builtin := by
    rw [Container.registry_take, Container.provider, hfree]
    exact Provider.registry_of_overrides_eq_nil rfl
  rw [take, take, Container.take_of_kept hlast hreset]
  exact congrArg (RegistryObject.mk _) hregistry.symm

/-- **The entry points agree after every history.** Whatever has been called, validation without a
registry, through the shared container and by the command line have the outcome of the registry that
was put over the shared container most recently since its last reset, or of the built-in one; and
validation through the separate container depends on its own calls in the same way. The calls that
belong to one container leave the other as it is. After a reset the registry of a container is the
very object that was taken from it when nothing had been put over it. -/
theorem entryPoints_agree (calls : List Call) (properties : Mapping String) :
    let cs := fresh.afterAll calls
    let batch := CommandLine.toConfiguration properties
    let inForce (h : Holder) : Registry :=
      ((lastPut? h calls).map RegistryObject.registry).getD .builtin
    ((cs.validate none batch).1 = (inForce .shared).validate batch ∧
      (cs.validateThrough .shared batch).1 = (inForce .shared).validate batch ∧
      (cs.validateByCommand properties).1
        = (((inForce .shared).validate batch).map CommandLine.configurationText).mapError
            .reported ∧
      (cs.validateThrough .own batch).1 = (inForce .own).validate batch) ∧
    (∀ h, cs h = fresh.afterAll (calls.filter fun c ↦ c.holder = h) h) ∧
    ∀ h earlier later, calls = earlier ++ .take h :: later → lastPut? h earlier = none →
      ((cs.after (.reset h)).take h).1 = ((fresh.afterAll earlier).take h).1 := by
  refine ⟨⟨?_, ?_, ?_, ?_⟩, fun h ↦ afterAll_apply_filter rfl calls, ?_⟩
  · rw [validate_none_fst, registry_provider_afterAll]
  · rw [validateThrough_fst, registry_provider_afterAll]
  · rw [validateByCommand_fst, registry_provider_afterAll]
  · rw [validateThrough_fst, registry_provider_afterAll]
  · rintro h earlier later rfl hnone
    have hfree : ((fresh.afterAll earlier) h).overrides = [] := by
      rw [← lastPut?_eq_head?, List.head?_eq_none_iff] at hnone
      exact hnone
    rw [afterAll_append]
    exact take_reset_fst hfree later

end Containers

/-! ## Sessions -/

/-- The calls by which a step of a session changes its providers. Taking a registry is not among
them, as a session starts with both built-in registries built. -/
def Step.calls : Step → List Call
  | .override holder properties =>
    match Registry.build properties with
    | .ok r => [.override holder ⟨.given 0, r⟩]
    | .error _ => []
  | .reset holder => [.reset holder]
  | _ => []

namespace Session

variable {s : Session} {cs : Containers}

/-- The providers of a session are the containers without identities. -/
def Tracks (s : Session) (cs : Containers) : Prop :=
  ∀ h, s.provider h = (cs h).provider

theorem provider_setProvider (s : Session) (holder : Holder) (p : Provider) :
    (s.setProvider holder p).provider = Function.update s.provider holder p := by
  funext h
  cases holder <;> cases h <;> rfl

theorem provider_commitTo (s : Session) (r : Registry) (events : List LogEvent)
    (batch : Configuration) : (s.commitTo r events batch).session.provider = s.provider := by
  rw [commitTo]
  split <;> rfl

theorem provider_step_of_calls_eq_nil {next : Step} (h : next.calls = []) :
    (s.step next).session.provider = s.provider := by
  cases next with
  | override holder properties =>
    rw [step]
    rw [Step.calls] at h
    split at h
    · contradiction
    · next he => rw [he]; rfl
  | reset holder => contradiction
  | commit source batch =>
    rw [step]
    split
    · rfl
    · exact provider_commitTo s ..
  | loadCommit path =>
    rw [step]
    split
    · rfl
    · exact provider_commitTo s ..
  | validate source batch => rw [step]; split <;> rfl
  | rollback version => rw [step]; split <;> rfl
  | write path content => rw [step]; split <;> rfl
  | save path => rw [step]; split <;> rfl
  | load path => rw [step]; split <;> rfl
  | merge properties => rfl
  | read p => rfl
  | readAll => rfl
  | inspect holder keys => rfl
  | command words => rfl

/-- What replaces a provider replaces its container. -/
theorem Tracks.update (hs : s.Tracks cs) {holder : Holder} {p : Provider} {c : Container}
    (hp : p = c.provider) : (s.setProvider holder p).Tracks (Function.update cs holder c) := by
  intro h
  rw [provider_setProvider]
  by_cases hh : h = holder
  · subst hh
    rw [Function.update_self, Function.update_self, hp]
  · rw [Function.update_of_ne hh, Function.update_of_ne hh, hs h]

theorem Tracks.step (hs : s.Tracks cs) (next : Step) :
    (s.step next).session.Tracks (cs.afterAll next.calls) := by
  cases hcalls : next.calls with
  | nil => exact fun h ↦ (congrFun (provider_step_of_calls_eq_nil hcalls) h).trans (hs h)
  | cons c rest =>
    cases next with
    | reset holder =>
      obtain ⟨rfl, rfl⟩ := List.cons.inj hcalls
      exact hs.update (congrArg Provider.reset (hs holder))
    | override holder properties =>
      rw [Step.calls] at hcalls
      split at hcalls
      · next r hr =>
        obtain ⟨rfl, rfl⟩ := List.cons.inj hcalls
        rw [Session.step, hr]
        exact hs.update (congrArg (Provider.override · r) (hs holder))
      · contradiction
    | _ => contradiction

/-- All along a session, its providers are the containers after the calls of its steps. -/
theorem Tracks.run (hs : s.Tracks cs) (steps : List Step) :
    (s.run steps).1.Tracks (cs.afterAll (steps.flatMap Step.calls)) := by
  induction steps generalizing s cs with
  | nil => exact hs
  | cons next rest ih =>
    rw [List.flatMap_cons, Containers.afterAll_append]
    exact ih (hs.step next)

theorem tracks_start (history : History) (files : Workspace) :
    (start history files).Tracks (Containers.fresh.afterAll [.take .shared, .take .own]) := by
  intro h
  cases h <;> rfl

/-- A batch is validated in a session as through the container. -/
theorem Tracks.answer_validate (hs : s.Tracks cs) (holder : Holder) (batch : Configuration) :
    (s.step (.validate (.provider holder) batch)).answer
      = ((cs.validateThrough holder batch).1.map .accepted).mapError .property := by
  rw [Containers.validateThrough_fst, ← hs holder]
  rfl

end Session

end TableProperties
