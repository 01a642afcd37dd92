import RouterBinding.Proofs.Event.Run

/-!
# Releases by the operator and by the controller

The operator's tool and the controller release the SNAT binding of a router in transactions of
their own. `release_agrees` says that they answer and leave the same over stores of any content, as
long as the controller, which asks for the ports before it drops the host binding, does not keep it
and is answered. Where the ports cannot be listed the two part (`release_unlisted`).
-/

namespace RouterBinding

namespace Transaction

open RouterBinding.Action

/-- What the operator's release answers, as an answer of the controller. -/
def releasedBinding (answer : Except StoreError (Option Released)) :
    Except ControllerError (Option SnatBinding) :=
  (answer.map (Option.map Released.binding)).mapError .store

variable {s : Store} {router : String} {scope : Option String}

/-- How the operator's release ends as one unit. -/
theorem commit_release (router : String) (scope : Option String) (dropHost : Bool) (s : Store) :
    s.commit (release router scope dropHost) =
      match s.snatScoped? router scope with
      | .error e => (.error e, s)
      | .ok none => (.ok none, s)
      | .ok (some b) =>
        if dropHost then
          (.ok (some ⟨b, s.isBound router b.agent⟩),
            (s.dropSnat router).dropHost ⟨router, b.agent⟩)
        else (.ok (some ⟨b, false⟩), s.dropSnat router) := by
  rw [Store.commit, release_eq]
  rcases s.snatScoped? router scope with e | _ | b
  · rfl
  · rfl
  · cases dropHost <;> rfl

/-- Without the host binding the operator releases what the controller does. -/
theorem release_snat_agrees (router : String) (scope : Option String) (c : Controller) :
    (Controller.releaseSnat router scope).runOn c =
      (releasedBinding (c.store.commit (release router scope false)).1,
        { c with store := (c.store.commit (release router scope false)).2 }) := by
  rw [Controller.releaseSnat, run_on_commit_in_request, commit_release]
  unfold Store.commit
  rw [delete_snat_eq]
  rcases c.store.snatScoped? router scope with e | _ | b <;> rfl

/-- With the host binding the operator releases what the controller does, unless the controller
keeps the host binding or is not answered. -/
theorem release_snat_node_agrees {c c' : Controller} {ctx : Context}
    {answer : Except ControllerError (Option SnatRelease)}
    (hrun : (Controller.releaseSnatNode ctx router scope).runOn c = (answer, c'))
    (hremoved : ∀ b host, answer ≠ .ok (some ⟨b, .kept host⟩))
    (hanswered : ∀ reason, answer ≠ .error (.directory reason)) :
    answer.map (Option.map SnatRelease.binding) =
        releasedBinding (c.store.commit (release router scope true)).1 ∧
      c' = { c with store := (c.store.commit (release router scope true)).2 } := by
  rw [Controller.run_on_release_snat_node_eq] at hrun
  rw [commit_release]
  rcases hrow : c.store.snatScoped? router scope with e | _ | b <;> rw [hrow] at hrun
  · cases hrun
    exact ⟨rfl, rfl⟩
  · cases hrun
    exact ⟨rfl, rfl⟩
  · simp only at hrun
    rcases hneeded : c.directory.needsRouter ctx b.host router none with e | _ | _ <;>
      rw [hneeded] at hrun
    · cases hrun
      exact absurd rfl (hanswered e.message)
    · cases hrun
      exact ⟨rfl, rfl⟩
    · cases hrun
      exact absurd rfl (hremoved b b.host)

/-- A host binding is reported as dropped if it was stored. -/
theorem release_host_dropped {r : Released} {s' : Store}
    (hrun : s.commit (release router scope true) = (.ok (some r), s')) :
    r.hostDropped ↔
      ∃ text, s.hosts.get? (HostBinding.key ⟨router, r.binding.agent⟩) = some text := by
  rw [commit_release] at hrun
  rcases hrow : s.snatScoped? router scope with e | _ | b <;> rw [hrow] at hrun <;> cases hrun
  exact Option.isSome_iff_exists

/-- A release that is scoped to another agent than that of the row finds nothing. -/
theorem release_other_agent {b : SnatBinding} {agent : String}
    (hrow : s.snatOf? router = .ok (some b)) (hother : agent ≠ b.agent) (dropHost : Bool) :
    s.commit (release router (some agent) dropHost) = (.ok none, s) := by
  have hscoped : s.snatScoped? router (some agent) = .ok none := by
    rw [Store.snatScoped?, hrow]
    simp [Except.map, Option.filter_some, hother]
  rw [commit_release, hscoped]

/-- Over stores of any content the operator's release answers and leaves what the controller's does:
without the host binding always, and with the host binding unless the controller keeps it or cannot
list the ports. The host binding is reported as dropped exactly if it was stored, and a release that
is scoped to another agent than that of the row changes nothing. -/
theorem release_agrees (c : Controller) (router : String) (scope : Option String) :
    (Controller.releaseSnat router scope).runOn c =
      (releasedBinding (c.store.commit (release router scope false)).1,
        { c with store := (c.store.commit (release router scope false)).2 }) ∧
    (∀ ctx answer c', (Controller.releaseSnatNode ctx router scope).runOn c = (answer, c') →
      (∀ b host, answer ≠ .ok (some ⟨b, .kept host⟩)) →
      (∀ reason, answer ≠ .error (.directory reason)) →
      answer.map (Option.map SnatRelease.binding) =
          releasedBinding (c.store.commit (release router scope true)).1 ∧
        c' = { c with store := (c.store.commit (release router scope true)).2 }) ∧
    (∀ r s', c.store.commit (release router scope true) = (.ok (some r), s') →
      (r.hostDropped ↔
        ∃ text, c.store.hosts.get? (HostBinding.key ⟨router, r.binding.agent⟩) = some text)) ∧
    ∀ b agent, c.store.snatOf? router = .ok (some b) → agent ≠ b.agent → ∀ dropHost,
      c.store.commit (release router (some agent) dropHost) = (.ok none, c.store) :=
  ⟨release_snat_agrees router scope c,
    fun _ _ _ hrun hremoved hanswered => release_snat_node_agrees hrun hremoved hanswered,
    fun _ _ hrun => release_host_dropped hrun,
    fun _ _ hrow hother dropHost => release_other_agent hrow hother dropHost⟩

end Transaction

namespace SoleHost

/-- The binding of the router to the agent that translates for it. -/
def released : SnatBinding := ⟨"r1", "a1", "h1", none⟩

/-- The agent translates for the router, and no port holds the router on its host. -/
def unheld : Controller := { bound.controller with directory := directory.removePort port.id }

/-- The ports cannot be listed. -/
def unlisted : Controller :=
  { bound.controller with directory := { directory with outages := [.ports] } }

theorem bound_row : bound.controller.store.snatOf? "r1" = .ok (some released) :=
  Store.snat_of_with_snat ∅ router agent

theorem unheld_released : (Controller.releaseSnatNode .administrator "r1" none).runOn unheld =
    (.ok (some ⟨released, .removed "h1"⟩),
      { unheld with store := (unheld.store.dropSnat "r1").dropHost ⟨"r1", "a1"⟩ }) := by
  have hrow : unheld.store.snatScoped? "r1" none = .ok (some released) := by
    rw [Store.snat_scoped_none]
    exact bound_row
  have hneeded : unheld.directory.needsRouter .administrator "h1" "r1" none = .ok false := rfl
  rw [Controller.run_on_release_snat_node_eq, hrow]
  simp only [released]
  rw [hneeded]

theorem unlisted_asks :
    (Controller.releaseSnatNode .administrator "r1" none).runOn unlisted =
      (.error (Action.ofFault (.unavailable .ports)), unlisted) := by
  have hrow : unlisted.store.snatScoped? "r1" none = .ok (some released) := by
    rw [Store.snat_scoped_none]
    exact bound_row
  have hneeded : unlisted.directory.needsRouter .administrator "h1" "r1" none =
      .error (.unavailable .ports) := rfl
  rw [Controller.run_on_release_snat_node_eq, hrow]
  simp only [released]
  rw [hneeded]

end SoleHost

namespace Transaction

open SoleHost in
theorem release_agrees_unheld :
    ∃ answer c', (Controller.releaseSnatNode .administrator "r1" none).runOn unheld =
        (answer, c') ∧
      (∀ b host, answer ≠ .ok (some ⟨b, .kept host⟩)) ∧
      (∀ reason, answer ≠ .error (.directory reason)) ∧
      answer.map (Option.map SnatRelease.binding) =
        releasedBinding (unheld.store.commit (release "r1" none true)).1 ∧
      c' = { unheld with store := (unheld.store.commit (release "r1" none true)).2 } ∧
      unheld.store.snatOf? "r1" = .ok (some released) ∧ "a2" ≠ released.agent ∧
      unheld.store.commit (release "r1" (some "a2") true) = (.ok none, unheld.store) := by
  have hremoved : ∀ b host, (.ok (some ⟨released, .removed "h1"⟩) :
      Except ControllerError (Option SnatRelease)) ≠ .ok (some ⟨b, .kept host⟩) := by
    intro b host h
    cases h
  have hanswered : ∀ reason, (.ok (some ⟨released, .removed "h1"⟩) :
      Except ControllerError (Option SnatRelease)) ≠ .error (.directory reason) := by
    intro reason h
    cases h
  have hother : "a2" ≠ released.agent := by decide
  have hagrees := release_agrees unheld "r1" none
  obtain ⟨hanswer, hleft⟩ := hagrees.2.1 .administrator _ _ unheld_released hremoved hanswered
  exact ⟨_, _, unheld_released, hremoved, hanswered, hanswer, hleft, bound_row, hother,
    hagrees.2.2.2 released "a2" bound_row hother true⟩

open SoleHost in
/-- While the ports cannot be listed the controller releases nothing, and so does not keep the host
binding either; the operator does not ask for ports and releases both bindings. -/
theorem release_unlisted :
    ∃ answer c', (Controller.releaseSnatNode .administrator "r1" none).runOn unlisted =
        (answer, c') ∧
      (∀ b host, answer ≠ .ok (some ⟨b, .kept host⟩)) ∧
      answer.map (Option.map SnatRelease.binding) ≠
        releasedBinding (unlisted.store.commit (release "r1" none true)).1 := by
  have hrow : unlisted.store.snatScoped? "r1" none = .ok (some released) := by
    rw [Store.snat_scoped_none]
    exact bound_row
  refine ⟨_, _, unlisted_asks, ?_, ?_⟩
  · intro b host h
    cases h
  · intro h
    rw [commit_release, hrow] at h
    cases h

end Transaction

end RouterBinding
