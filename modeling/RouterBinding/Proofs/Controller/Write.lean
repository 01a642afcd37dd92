import Mathlib.Logic.Relation
import RouterBinding.Event.Reactions
import RouterBinding.Proofs.Controller.Effect
import RouterBinding.Proofs.Directory.Presence

/-!
# What a request can do

`Store.Write` lists the changes of the store that requests are made of, each with what is known
when it is made. A request `Obeys` if it makes these changes only and puts links only; every request
of the controller does, so that an invariant of the bindings is shown by going through the
constructors of `Store.Write` once. A `Practice` narrows down which requests are made.
-/

namespace RouterBinding

open Relation

/-- Which routers requests bring along, and whether some drop a host binding on its own. -/
structure Practice where
  brings : Router → Prop
  dropsHosts : Prop

namespace Practice

/-- Any request at all. -/
def anything : Practice := ⟨fun _ => True, True⟩

end Practice

/-- The changes that requests make, while `routers` are the routers of the directory. -/
inductive Store.Write (w : Practice) (routers : Table String Router) : Store → Store → Prop where
  /-- The address translation of a distributed router with a gateway, on an agent that may run
  it. -/
  | bindSnat {s : Store} {router : Router} {agent : Agent}
      (hrouter : w.brings router ∨ ∃ id, routers.get? id = some router)
      (hdistributed : router.distributed) (hgateway : router.hasGateway)
      (hmode : agent.settings.mode = .dvrSnat) (hfree : s.snatRow? router.id = none) :
      Write w routers s (s.withSnat router agent)
  | bindHost {s : Store} (b : HostBinding) : Write w routers s (s.withHost b)
  | dropSnat {s : Store} {b : SnatBinding} (hrow : s.snatRow? b.router = some b) :
      Write w routers s (s.dropSnat b.router)
  | dropNode {s : Store} {b : SnatBinding} (hrow : s.snatRow? b.router = some b) :
      Write w routers s (s.withoutSnatNode b)
  /-- A host binding that is not that of a distributed router with a gateway on the agent that
  translates for it. -/
  | dropOther {s : Store} {id agent : String} {router : Router}
      (hknown : routers.get? id = some router)
      (hother : router.distributed → router.hasGateway →
        ∀ b, s.snatRow? id = some b → b.agent ≠ agent) :
      Write w routers s (s.dropHost ⟨id, agent⟩)
  | dropHost {s : Store} (hdrops : w.dropsHosts) (b : HostBinding) :
      Write w routers s (s.dropHost b)
  | purge {s s' : Store} (agent : String) (counts : Nat × Nat)
      (hpurge : Transaction.deleteAgent agent s = .ok (counts, s')) : Write w routers s s'

namespace Store

variable {w : Practice} {routers : Table String Router} {s s' : Store}

theorem Write.sound (h : Write w routers s s') (hs : s.Sound) : s'.Sound := by
  cases h with
  | bindSnat => exact hs.with_snat _ _
  | bindHost b => exact hs.with_host b
  | dropSnat => exact hs.drop_snat _
  | dropNode => exact hs.without_snat_node _
  | dropOther => exact hs.drop_host _
  | dropHost _ b => exact hs.drop_host b
  | purge agent counts hpurge =>
      obtain ⟨_, s₁, hrun, hs₁, -, -⟩ := Transaction.delete_agent_sound hs agent
      rw [hrun] at hpurge
      cases hpurge
      exact hs₁

/-- A property that every change keeps is kept by any number of them. -/
theorem Write.invariant {P : Store → Prop}
    (hstep : ∀ s s', s.Sound → P s → Write w routers s s' → P s')
    (h : ReflTransGen (Write w routers) s s') (hs : s.Sound) (hP : P s) : s'.Sound ∧ P s' := by
  induction h with
  | refl => exact ⟨hs, hP⟩
  | tail _ hwrite ih => exact ⟨hwrite.sound ih.1, hstep _ _ ih.1 ih.2 hwrite⟩

theorem Write.run_sound (h : ReflTransGen (Write w routers) s s') (hs : s.Sound) : s'.Sound :=
  (Write.invariant (P := fun _ => True) (fun _ _ _ _ _ => trivial) h hs trivial).1

end Store

namespace Controller

/-- How a request that obeys takes one controller to another. -/
structure Moves (w : Practice) (c c' : Controller) : Prop where
  links : c.directory.Relinks c'.directory
  store : ReflTransGen (Store.Write w c.directory.routers) c.store c'.store

namespace Moves

variable {w : Practice} {c c' c'' : Controller}

theorem of_eq (hdirectory : c'.directory = c.directory) (hstore : c'.store = c.store) :
    Moves w c c' :=
  ⟨hdirectory ▸ .refl _, hstore ▸ .refl⟩

theorem refl (c : Controller) : Moves w c c := of_eq rfl rfl

theorem routers_eq (h : Moves w c c') : c'.directory.routers = c.directory.routers :=
  h.links.routers_eq

theorem sound (h : Moves w c c') (hs : c.store.Sound) : c'.store.Sound :=
  Store.Write.run_sound h.store hs

theorem trans (h : Moves w c c') (h' : Moves w c' c'') : Moves w c c'' := by
  refine ⟨h.links.trans h'.links, h.store.trans ?_⟩
  -- links are no routers, so the second request finds the routers that the first one found
  have hstore := h'.store
  rwa [h.routers_eq] at hstore

end Moves

end Controller

namespace Action

open Controller

variable {α β : Type} {w : Practice} {routers : Table String Router}

/-- A request that changes the store by writes and the directory by putting links, whatever it
answers, while the directory knows some routers. -/
def Obeys (w : Practice) (routers : Table String Router) (a : Action α) : Prop :=
  ∀ c, c.store.Sound → c.directory.routers = routers → Moves w c (a.runOn c).2

namespace Obeys

theorem pure (x : α) : Obeys w routers (pure x : Action α) := fun c _ _ => .refl c

theorem throw (e : ControllerError) : Obeys w routers (throw e : Action α) := fun c _ _ => .refl c

theorem ask (question : Directory → Except Fault α) : Obeys w routers (ask question) :=
  fun c _ _ => .refl c

theorem consult (query : Store → Except StoreError α) : Obeys w routers (consult query) :=
  fun c _ _ => .refl c

theorem notify (n : Notice) : Obeys w routers (notify n) := fun _ _ _ => .of_eq rfl rfl

/-- A request that goes on only where the first one succeeded. -/
theorem bind_of {a : Action α} {f : α → Action β} (ha : Obeys w routers a)
    (hf : ∀ c x c', c.store.Sound → c'.store.Sound → c'.directory.routers = routers →
      a.runOn c = (.ok x, c') → Moves w c' ((f x).runOn c').2) :
    Obeys w routers (a >>= f) := by
  intro c hs hrouters
  have hmoves := ha c hs hrouters
  rw [run_on_bind]
  rcases hrun : a.runOn c with ⟨e | x, c'⟩
  · simpa [hrun] using hmoves
  · rw [hrun] at hmoves
    exact hmoves.trans (hf c x c' hs (hmoves.sound hs) (hmoves.routers_eq.trans hrouters) hrun)

theorem bind {a : Action α} {f : α → Action β} (ha : Obeys w routers a)
    (hf : ∀ x, Obeys w routers (f x)) :
    Obeys w routers (a >>= f) :=
  ha.bind_of fun _ x c' _ hs' hrouters' _ => hf x c' hs' hrouters'

theorem ite {p : Prop} [Decidable p] {a b : Action α} (ha : Obeys w routers a)
    (hb : Obeys w routers b) :
    Obeys w routers (if p then a else b) := by
  split
  · exact ha
  · exact hb

theorem for_m {f : α → Action Unit} {items : List α} (hf : ∀ x, Obeys w routers (f x)) :
    Obeys w routers (items.forM f) := by
  induction items with
  | nil => exact pure ()
  | cons x items ih => exact (hf x).bind fun _ => ih

theorem map_m {f : α → Action β} {items : List α} (hf : ∀ x, Obeys w routers (f x)) :
    Obeys w routers (items.mapM f) := by
  induction items with
  | nil => exact pure []
  | cons x items ih =>
      rw [List.mapM_cons]
      exact (hf x).bind fun _ => ih.bind fun _ => pure _

/-- A transaction that makes writes only. -/
theorem commit {t : Transaction ControllerError α}
    (h : ∀ s, s.Sound → ReflTransGen (Store.Write w routers) s (s.commit t).2) :
    Obeys w routers (commit t) :=
  fun c hs hrouters => ⟨.refl _, hrouters ▸ h c.store hs⟩

end Obeys

/-- A known router is the one that the directory has under its id. -/
theorem known_router_ok {id : String} {c c' : Controller} {r : Router}
    (h : (knownRouter id).runOn c = (.ok r, c')) :
    c' = c ∧ c.directory.routers.get? id = some r := by
  rw [knownRouter, run_on_bind, run_on_ask] at h
  cases hfound : c.directory.router? id with
  | error e => simp [hfound] at h
  | ok found =>
      rw [hfound] at h
      cases found with
      | none => simp at h
      | some r' =>
          simp only [map_error_ok, run_on_pure, Prod.mk.injEq, Except.ok.injEq] at h
          obtain ⟨rfl, rfl⟩ := h
          exact ⟨rfl, (Directory.of_ask_ok hfound).symm⟩

theorem known_router_obeys (id : String) : Obeys w routers (knownRouter id) := by
  refine (Obeys.ask _).bind fun found => ?_
  cases found with
  | none => exact .throw _
  | some r => exact .pure r

end Action

namespace Store

variable {w : Practice} {routers : Table String Router} {s : Store}

/-- A transaction that is refused writes nothing; one that is accepted writes what it leaves. -/
theorem writes_of_apply {α : Type} {t : Transaction ControllerError α}
    (h : ∀ a s', t s = .ok (a, s') → ReflTransGen (Write w routers) s s') :
    ReflTransGen (Write w routers) s (s.commit t).2 := by
  unfold commit
  split
  next a s' hrun => exact h a s' hrun
  next => exact .refl

end Store

namespace Transaction

variable {w : Practice} {routers : Table String Router} {s : Store}

open Store

theorem insert_host_writes {f : StoreError → ControllerError} (b : HostBinding) :
    ReflTransGen (Write w routers) s (s.commit ((insertHost b).mapError f)).2 := by
  refine writes_of_apply fun a s' h => ?_
  rw [map_error_apply, insert_host_eq] at h
  cases h
  exact .single (.bindHost b)

theorem delete_snat_writes (hs : s.Sound) (router : String) (scope : Option String) :
    ReflTransGen (Write w routers) s (s.commit (deleteSnat router scope).inRequest).2 := by
  refine writes_of_apply fun a s' h => ?_
  rw [inRequest, map_error_apply, delete_snat_sound hs] at h
  cases hrow : s.snatIn? router scope with
  | none =>
      rw [hrow] at h
      cases h
      exact .refl
  | some b =>
      rw [hrow] at h
      cases h
      have hrow := snat_in_some hrow
      obtain rfl := hs.router_of_snat_row hrow
      exact .single (.dropSnat hrow)

theorem release_snat_node_writes (hs : s.Sound) (d : Directory) (ctx : Context) (router : String)
    (scope : Option String) :
    ReflTransGen (Write w routers) s (s.commit (releaseSnatNode d ctx router scope)).2 := by
  refine writes_of_apply fun a s' h => ?_
  rw [release_snat_node_sound hs] at h
  cases hrow : s.snatIn? router scope with
  | none =>
      rw [hrow] at h
      cases h
      exact .refl
  | some b =>
      rw [hrow] at h
      have hrow := snat_in_some hrow
      obtain rfl := hs.router_of_snat_row hrow
      simp only at h
      rcases hneeds : d.needsRouter ctx b.host b.router none with e | _ | _ <;>
        rw [hneeds] at h <;> cases h
      · exact .single (.dropNode hrow)
      · exact .single (.dropSnat hrow)

theorem bind_snat_writes {f : StoreError → ControllerError} (hs : s.Sound) {router : Router}
    {agent : Agent} (hrouter : w.brings router ∨ ∃ id, routers.get? id = some router)
    (hdistributed : router.distributed) (hgateway : router.hasGateway)
    (hmode : agent.settings.mode = .dvrSnat) :
    ReflTransGen (Write w routers) s (s.commit ((bindSnat router agent).mapError f)).2 := by
  refine writes_of_apply fun a s' h => ?_
  rw [map_error_apply, bind_snat_sound hs] at h
  cases hrow : s.snatRow? router.id with
  | none =>
      rw [hrow] at h
      cases h
      exact .single (.bindSnat hrouter hdistributed hgateway hmode hrow)
  | some b =>
      rw [hrow] at h
      cases h

end Transaction

end RouterBinding
