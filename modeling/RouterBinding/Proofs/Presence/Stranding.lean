import RouterBinding.Proofs.Controller.Removal
import RouterBinding.Proofs.Presence.Following
import RouterBinding.Proofs.Presence.Overlap

/-!
# Routers that a deletion strands

While one port is deleted and another one created on the same host, each client can take its steps
whatever the other one does. When both have ended, the routers that the new port attaches to are
bound to the agent of the host, but for those that the deletion strands (`bound_iff_not_stranded`):
it found them before the new port needed them, and removed them afterwards. That happens
(`unbound_beside_new_port`), and nothing binds them again.
-/

namespace RouterBinding

open Controller Exchange

/-! ## How far the clients are -/

/-- Where a deletion that finds some removals stands after some steps. -/
def Deletion.after (removals : List Removal) : Nat → Deletion
  | 0 => pending
  | 1 => prepared removals
  | 2 => removed removals
  | _ + 3 => ended (.ok ())

/-- Where a creation stands after some steps. -/
def Creation.after : Nat → Creation
  | 0 => pending
  | 1 => stored
  | _ + 2 => ended (.ok ())

theorem Deletion.after_ended {removals : List Removal} {n : Nat} (h : 3 ≤ n) :
    after removals n = ended (.ok ()) := by
  obtain ⟨n, rfl⟩ := Nat.exists_eq_add_of_le' h
  rfl

theorem Creation.after_ended {n : Nat} (h : 2 ≤ n) : after n = ended (.ok ()) := by
  obtain ⟨n, rfl⟩ := Nat.exists_eq_add_of_le' h
  rfl

namespace Clients

/-- The clients meet on a host with an active agent. The directory serves and knows the routers of
all interfaces. -/
structure Meet (w : Clients) (x : Exchange) (host : String) (agent : Agent) : Prop where
  registered : x.Registered
  serving : x.controller.directory.Serving
  sound : x.controller.store.Sound
  known : ∀ q ∈ x.controller.directory.ports.values, q.owner = DeviceOwner.routerInterface →
    x.controller.directory.knows q.device
  found : x.controller.directory.agentOn? host = some agent
  active : agent.isActive
  leaves : w.leaving.host = some host
  arrives : w.arriving.host = some host
  serviced : w.arriving.isServiced
  admin : w.creator.admin = true

/-- What both clients leave as it is. -/
structure Settled (x y : Exchange) : Prop where
  registered : y.Registered
  serving : y.controller.directory.Serving
  sound : y.controller.store.Sound
  routers : y.controller.directory.routers = x.controller.directory.routers
  agents : y.controller.directory.agents = x.controller.directory.agents

/-- The removals that the deleter finds. -/
def removals (w : Clients) (x : Exchange) (schedule : List Client) : List Removal :=
  (w.searched x.controller.directory schedule).leaving w.deleter.elevated w.leaving.id
    w.leaving.host

/-- What holds after the steps of a schedule. -/
structure Tracks (w : Clients) (x : Exchange) (host : String) (agent : Agent)
    (schedule : List Client) (o : Overlap) : Prop where
  settled : Settled x o.exchange
  deletion : o.deletion = .after (w.removals x schedule) (schedule.count .deleter)
  creation : o.creation = .after (schedule.count .creator)
  /-- The deleter has not looked yet, so it will find what is searched. -/
  searched : schedule.count .deleter = 0 →
    (w.searched x.controller.directory schedule).Relinks o.exchange.controller.directory
  /-- Until the deleter removes routers no SNAT binding changes. -/
  snat : schedule.count .deleter ≤ 2 → ∀ router,
    o.exchange.controller.store.snatRow? router = x.controller.store.snatRow? router
  bound : 2 ≤ schedule.count .creator → ∀ router,
    o.exchange.controller.directory.Attaches w.arriving router →
      (o.exchange.controller.store.isBound router agent.id ↔
        ¬w.Strands x schedule o.exchange.controller.directory host agent.id router)

theorem Settled.relinked {x y : Exchange} (h : Settled x y) {d : Directory}
    (hd : y.controller.directory.Relinks d) :
    Settled x { y with controller := { y.controller with directory := d } } :=
  { registered := h.registered
    serving := h.serving.relinks hd
    sound := h.sound
    routers := hd.routers_eq.trans h.routers
    agents := (hd.same (·.agents) fun _ _ => rfl).trans h.agents }

/-- An event changes the store as it follows from it, and the directory in links only. -/
theorem Settled.publish {x y : Exchange} (h : Settled x y) (ctx : Context) (event : PortEvent) :
    ∃ z, Exchange.publish usualNesting ctx event y =
        some (PortOperation.outcome y.controller.directory ctx event, z) ∧ Settled x z ∧
      y.controller.directory.Relinks z.controller.directory ∧
      z.controller.store = y.controller.store.followed y.controller.directory ctx event := by
  obtain ⟨z, hrun, hbus, hlinks, hstore⟩ :=
    PortOperation.publish_serving h.registered h.serving h.sound 63 ctx event
  refine ⟨z, hrun, ⟨hbus, h.serving.relinks hlinks, ?_, hlinks.routers_eq.trans h.routers, ?_⟩,
    hlinks, hstore⟩
  · rw [hstore]
    exact h.sound.followed _ _ _
  · exact (hlinks.same (·.agents) fun _ _ => rfl).trans h.agents

theorem Settled.agent_on {x y : Exchange} (h : Settled x y) (host : String) :
    y.controller.directory.agentOn? host = x.controller.directory.agentOn? host := by
  unfold Directory.agentOn?
  rw [h.agents]

theorem Settled.knows {x y : Exchange} (h : Settled x y) (router : String) :
    y.controller.directory.knows router = x.controller.directory.knows router := by
  unfold Directory.knows
  rw [h.routers]

/-! ## One step -/

variable {w : Clients} {x : Exchange} {host : String} {agent : Agent} {schedule : List Client}
  {o : Overlap}

/-- A step that is not the deleter's third strands nothing. -/
theorem strands_concat {client : Client} {d : Directory} {id router : String}
    (hclient : ¬(client = .deleter ∧ schedule.count .deleter = 2 ∧ 2 ≤ schedule.count .creator))
    (hbegun : schedule ≠ []) :
    w.Strands x (schedule ++ [client]) d host id router ↔
      w.Strands x schedule d host id router := by
  have hovertaken : Overtaken (schedule ++ [client]) ↔ Overtaken schedule := by
    rw [overtaken_concat, or_iff_left hclient]
  have hsearched := w.searched_concat x.controller.directory client hbegun
  constructor
  · intro h
    exact ⟨hovertaken.1 h.overtaken, hsearched ▸ h.abandoned, h.unkept⟩
  · intro h
    exact ⟨hovertaken.2 h.overtaken, hsearched ▸ h.abandoned, h.unkept⟩

/-- Before the third step of the deleter nothing is stranded. -/
theorem not_strands_early {d : Directory} {id router : String}
    (h : schedule.count .deleter ≤ 2) : ¬w.Strands x schedule d host id router := by
  intro hstrands
  have hcounts := hstrands.overtaken.counts
  omega

/-- Before the creation has ended nothing is overtaken. -/
theorem not_overtaken_early (h : schedule.count .creator ≤ 1) : ¬Overtaken schedule := by
  intro hovertaken
  have hcounts := hovertaken.counts
  omega

theorem begun_of_count (client : Client) (h : schedule.count client ≠ 0) : schedule ≠ [] := by
  intro hnil
  rw [hnil] at h
  exact h List.count_nil

theorem removals_concat (client : Client) (h : schedule ≠ []) :
    w.removals x (schedule ++ [client]) = w.removals x schedule := by
  unfold removals
  rw [w.searched_concat _ client h]

/-- The routers that the deleter finds are known. -/
theorem known_of_removals (hmeet : w.Meet x host agent) {q : Removal}
    (hq : q ∈ w.removals x schedule) : x.controller.directory.knows q.router := by
  obtain ⟨_, _, -, -, habandons, -⟩ := Directory.mem_leaving.1 hq
  obtain ⟨p, hp, -, _, -, hinterface⟩ := Directory.mem_attached.1 habandons.attached
  suffices hstored : p ∈ x.controller.directory.ports.values from
    hinterface.device ▸ hmeet.known p hstored hinterface.owner
  unfold searched at hp
  split at hp
  · rcases hmeet.serving.mem_ports_put.1 hp with rfl | ⟨-, hp⟩
    · -- the new port is serviced, so it is no interface
      have hserviced := hmeet.serviced
      rw [Port.isServiced, hinterface.owner] at hserviced
      exact absurd hserviced (by decide)
    · exact hp
  · exact hp

/-- The deleter finds those routers that its port abandons. -/
theorem mem_removals_iff (hmeet : w.Meet x host agent) {router : String} :
    (∃ q ∈ w.removals x schedule, q.router = router ∧ q.agent = agent.id) ↔
      (w.searched x.controller.directory schedule).Abandons w.leaving.id host router := by
  have hfound : (w.searched x.controller.directory schedule).agentOn? host = some agent := by
    unfold searched
    split
    · exact hmeet.found
    · exact hmeet.found
  have hleft : (w.searched x.controller.directory schedule).left? w.leaving.id w.leaving.host =
      some host := by
    rw [Directory.left?, PortOperation.host_filter, hmeet.leaves]
  constructor
  · intro h
    obtain ⟨q, hq, rfl, -⟩ := h
    obtain ⟨left, _, hleft', -, habandons, -⟩ := Directory.mem_leaving.1 hq
    rw [hleft] at hleft'
    cases hleft'
    exact habandons
  · intro habandons
    exact ⟨⟨router, host, agent.id⟩,
      Directory.mem_leaving.2 ⟨host, agent, hleft, hfound, habandons, rfl⟩, rfl, rfl⟩

/-- When the creation has ended, the third step of the deleter strands what it found and does not
keep. -/
theorem strands_third (hmeet : w.Meet x host agent) (htwo : schedule.count .deleter = 2)
    (hcreated : 2 ≤ schedule.count .creator) {d : Directory} {router : String} :
    w.Strands x (schedule ++ [.deleter]) d host agent.id router ↔
      (∃ q ∈ w.removals x schedule, q.router = router ∧ q.agent = agent.id) ∧
        ¬x.controller.store.KeepsHost d .administrator router agent.id := by
  have hovertaken : Overtaken (schedule ++ [.deleter]) :=
    overtaken_concat.2 (.inr ⟨rfl, htwo, hcreated⟩)
  have hsearched := w.searched_deleter x.controller.directory schedule
  rw [mem_removals_iff hmeet, ← hsearched]
  constructor
  · intro h
    exact ⟨h.abandoned, h.unkept⟩
  · intro h
    exact ⟨hovertaken, h.1, h.2⟩

theorem pairwise_removals :
    (w.removals x schedule).Pairwise fun q q' => q.router ≠ q'.router := by
  refine Directory.pairwise_leaving.imp fun {q q'} hlt heq => ?_
  rw [heq] at hlt
  simp at hlt

namespace Tracks

/-- Before the third step of the deleter the routers of the new port stay bound. -/
theorem bound_early (h : w.Tracks x host agent schedule o) (hearly : schedule.count .deleter ≤ 2)
    (hcreated : 2 ≤ schedule.count .creator) {router : String}
    (hattaches : o.exchange.controller.directory.Attaches w.arriving router) :
    o.exchange.controller.store.isBound router agent.id :=
  (h.bound hcreated router hattaches).2 (not_strands_early hearly)

/-- Whether a removal keeps a host binding is a matter of the SNAT bindings from the start and of
the ports that are left. -/
theorem keeps_host_iff (h : w.Tracks x host agent schedule o)
    (hearly : schedule.count .deleter ≤ 2) {d : Directory}
    (hlinks : o.exchange.controller.directory.Relinks d) (ctx : Context) (router id : String) :
    o.exchange.controller.store.KeepsHost o.exchange.controller.directory ctx.elevated router id ↔
      x.controller.store.KeepsHost d .administrator router id := by
  rw [hlinks.same (x.controller.store.KeepsHost · .administrator router id) fun _ _ => rfl]
  exact Store.keeps_host_congr (h.snat hearly router)

/-- A step of the creator leaves the deletion where it stands. -/
theorem deletion_creator (h : w.Tracks x host agent schedule o) :
    o.deletion = .after (w.removals x (schedule ++ [.creator]))
      (List.count Client.deleter (schedule ++ [.creator])) := by
  rw [h.deletion]
  cases schedule with
  | nil => rfl
  | cons client schedule =>
      rw [removals_concat .creator (List.cons_ne_nil client schedule), List.count_append]
      rfl

/-- The deleter looks for the routers to remove. -/
theorem look (h : w.Tracks x host agent schedule o) (hnone : schedule.count .deleter = 0) :
    ∃ o', w.delete o = some o' ∧ w.Tracks x host agent (schedule ++ [.deleter]) o' := by
  have hpending : o.deletion = .pending := by
    rw [h.deletion, hnone]
    rfl
  obtain ⟨d, hrun, hlinks⟩ := tear_down_serving h.settled.serving w.deleter w.leaving.id
    w.leaving.host
  have hfound : o.exchange.controller.directory.leaving w.deleter.elevated w.leaving.id
      w.leaving.host = w.removals x schedule :=
    (h.searched hnone).same (·.leaving w.deleter.elevated w.leaving.id w.leaving.host)
      fun _ _ => rfl
  have hrequest : o.exchange.request (prepareDelete w.deleter w.leaving) =
      (.ok (w.removals x schedule), { o.exchange with
        controller := { o.exchange.controller with directory := d } }) := by
    rw [Exchange.request, prepareDelete, hrun, hfound]
  have hstep : w.delete o = some ⟨{ o.exchange with
      controller := { o.exchange.controller with directory := d } },
      .prepared (w.removals x schedule), o.creation⟩ := by
    rw [delete, hpending]
    simp only [hrequest]
  refine ⟨_, hstep, ?_⟩
  constructor
  case settled => exact h.settled.relinked hlinks
  case deletion => simp [hnone, removals, searched_deleter, Deletion.after]
  case creation => simpa using h.creation
  case searched => simp
  case snat => exact fun _ => h.snat (by omega)
  case bound =>
    intro hcreated router hattaches
    have hbound := h.bound_early (by omega) (by simpa using hcreated)
      ((Directory.attaches_relinks hlinks).1 hattaches)
    exact iff_of_true hbound (not_strands_early (by simp [hnone]))

/-- The deleted port is removed. -/
theorem remove (h : w.Tracks x host agent schedule o) (hone : schedule.count .deleter = 1) :
    ∃ o', w.delete o = some o' ∧ w.Tracks x host agent (schedule ++ [.deleter]) o' := by
  have hprepared : o.deletion = .prepared (w.removals x schedule) := by
    rw [h.deletion, hone]
    rfl
  refine ⟨⟨o.exchange.changeDirectory (·.removePort w.leaving.id),
    .removed (w.removals x schedule), o.creation⟩, by rw [delete, hprepared], ?_⟩
  constructor
  case settled => exact { h.settled with serving := h.settled.serving.remove_port _ }
  case deletion => simp [hone, removals, searched_deleter, Deletion.after]
  case creation => simpa using h.creation
  case searched => simp
  case snat => exact fun _ => h.snat (by omega)
  case bound =>
    intro hcreated router hattaches
    have hbound := h.bound_early (by omega) (by simpa using hcreated)
      (Directory.attaches_of_removed h.settled.serving hattaches)
    exact iff_of_true hbound (not_strands_early (by simp [hone]))

/-- The deleter removes the routers that it found. -/
theorem unbind (h : w.Tracks x host agent schedule o) (hmeet : w.Meet x host agent)
    (htwo : schedule.count .deleter = 2) :
    ∃ o', w.delete o = some o' ∧ w.Tracks x host agent (schedule ++ [.deleter]) o' := by
  have hremoved : o.deletion = .removed (w.removals x schedule) := by
    rw [h.deletion, htwo]
    rfl
  have hknown : ∀ q ∈ w.removals x schedule, o.exchange.controller.directory.knows q.router := by
    intro q hq
    rw [h.settled.knows]
    exact known_of_removals hmeet hq
  obtain ⟨y, hrun, hsettled, hlinks, hstore⟩ :=
    h.settled.publish w.deleter (.deleted w.leaving (w.removals x schedule))
  have houtcome : PortOperation.outcome o.exchange.controller.directory w.deleter
      (.deleted w.leaving (w.removals x schedule)) = .ok () := by
    show (o.exchange.controller.directory.removed (w.removals x schedule)).mapError _ = _
    rw [Directory.removed_eq_ok_iff.2 hknown]
    rfl
  refine ⟨⟨y, .ended (.ok ()), o.creation⟩, by simp [delete, hremoved, hrun, houtcome], ?_⟩
  constructor
  case settled => exact hsettled
  case deletion => simp [htwo, Deletion.after]
  case creation => simpa using h.creation
  case searched => simp
  case snat => simp [htwo]
  case bound =>
    intro hcreated router hattaches
    have hcreated : 2 ≤ schedule.count .creator := by simpa using hcreated
    have hbound := h.bound_early (by omega) hcreated
      ((Directory.attaches_relinks hlinks).1 hattaches)
    have hkept := h.keeps_host_iff (by omega) hlinks w.deleter router agent.id
    have hstore : y.controller.store = o.exchange.controller.store.removals
      o.exchange.controller.directory w.deleter.elevated (w.removals x schedule) := hstore
    rw [hstore, Store.is_bound_removals_iff h.settled.sound hknown pairwise_removals,
      and_iff_right hbound, strands_third hmeet htwo hcreated, ← hkept]
    simp only [← and_assoc, exists_and_right]

/-- The new port is stored. -/
theorem store (h : w.Tracks x host agent schedule o) (hnone : schedule.count .creator = 0) :
    ∃ o', w.create o = some o' ∧ w.Tracks x host agent (schedule ++ [.creator]) o' := by
  have hpending : o.creation = .pending := by
    rw [h.creation, hnone]
    rfl
  refine ⟨⟨o.exchange.changeDirectory (·.putPort w.arriving), o.deletion, .stored⟩,
    by rw [create, hpending], ?_⟩
  constructor
  case settled => exact { h.settled with serving := h.settled.serving.put_port _ }
  case deletion => exact h.deletion_creator
  case creation => simp [hnone, Creation.after]
  case searched =>
    intro hdeleter
    -- neither client has taken a step, so the creator comes first
    obtain rfl : schedule = [] := by
      refine List.eq_nil_iff_forall_not_mem.2 fun client hmem => ?_
      have hcount := List.count_pos_iff.2 hmem
      cases client
      · simp at hdeleter
        omega
      · omega
    exact PortOperation.directory_relinks (h.searched rfl) (.create w.arriving)
  case snat =>
    intro hdeleter
    exact h.snat (by simpa using hdeleter)
  case bound =>
    intro hcreated
    simp [hnone] at hcreated

/-- The routers of the new port are brought to its host. -/
theorem announce (h : w.Tracks x host agent schedule o) (hmeet : w.Meet x host agent)
    (hone : schedule.count .creator = 1) :
    ∃ o', w.create o = some o' ∧ w.Tracks x host agent (schedule ++ [.creator]) o' := by
  have hstored : o.creation = .stored := by
    rw [h.creation, hone]
    rfl
  have hbegun : schedule ≠ [] := begun_of_count .creator (by omega)
  obtain ⟨y, hrun, hsettled, hlinks, hstore⟩ :=
    h.settled.publish w.creator (.created w.arriving)
  have houtcome : PortOperation.outcome o.exchange.controller.directory w.creator
      (.created w.arriving) = .ok () := rfl
  refine ⟨⟨y, o.deletion, .ended (.ok ())⟩, by simp [create, hstored, hrun, houtcome], ?_⟩
  constructor
  case settled => exact hsettled
  case deletion => exact h.deletion_creator
  case creation => simp [hone, Creation.after]
  case searched =>
    intro hdeleter
    rw [w.searched_concat _ _ hbegun]
    exact (h.searched (by simpa using hdeleter)).trans hlinks
  case snat =>
    intro hdeleter router
    rw [hstore]
    exact (Store.snat_row_arrival_if _ _ _ _ _ router).trans
      (h.snat (by simpa using hdeleter) router)
  case bound =>
    intro _ router hattaches
    have hfree : ¬w.Strands x (schedule ++ [.creator]) y.controller.directory host agent.id
        router := by
      intro hstrands
      rw [strands_concat (by simp) hbegun] at hstrands
      exact not_overtaken_early (by omega) hstrands.overtaken
    have harrived : y.controller.store = o.exchange.controller.store.arrival
        o.exchange.controller.directory w.creator w.arriving := by
      rw [hstore, Store.followed, Store.arrivalIf, hmeet.serviced]
      rfl
    have hagent : w.arriving.host.bind o.exchange.controller.directory.agentOn? = some agent := by
      rw [hmeet.arrives, Option.bind_some, h.settled.agent_on]
      exact hmeet.found
    have hbound : y.controller.store.isBound router agent.id := by
      rw [harrived]
      refine (Store.is_bound_arrival _ _ _ _ router agent.id).2 (.inr ⟨agent, hagent,
        hmeet.active, rfl, ?_⟩)
      exact (Directory.mem_attached_iff hmeet.admin).2
        ((Directory.attaches_relinks hlinks).1 hattaches)
    exact iff_of_true hbound hfree

/-- A deletion that has ended stays as it is. -/
theorem idle_deleter (h : w.Tracks x host agent schedule o)
    (hended : 3 ≤ schedule.count .deleter) :
    ∃ o', w.delete o = some o' ∧ w.Tracks x host agent (schedule ++ [.deleter]) o' := by
  have hdeletion : o.deletion = .ended (.ok ()) := by
    rw [h.deletion, Deletion.after_ended hended]
  have hbegun : schedule ≠ [] := begun_of_count .deleter (by omega)
  have hcount : (schedule ++ [Client.deleter]).count .deleter = schedule.count .deleter + 1 := by
    simp
  refine ⟨o, by rw [delete, hdeletion], ?_⟩
  constructor
  case settled => exact h.settled
  case deletion => rw [hdeletion, Deletion.after_ended (by omega)]
  case creation => simpa using h.creation
  case searched => exact fun hnone => by omega
  case snat => exact fun hearly => by omega
  case bound =>
    intro hcreated router hattaches
    rw [strands_concat (by omega) hbegun]
    exact h.bound (by simpa using hcreated) router hattaches

/-- A creation that has ended stays as it is. -/
theorem idle_creator (h : w.Tracks x host agent schedule o)
    (hended : 2 ≤ schedule.count .creator) :
    ∃ o', w.create o = some o' ∧ w.Tracks x host agent (schedule ++ [.creator]) o' := by
  have hcreation : o.creation = .ended (.ok ()) := by
    rw [h.creation, Creation.after_ended hended]
  have hbegun : schedule ≠ [] := begun_of_count .creator (by omega)
  have hcount : (schedule ++ [Client.creator]).count .creator = schedule.count .creator + 1 := by
    simp
  refine ⟨o, by rw [create, hcreation], ?_⟩
  constructor
  case settled => exact h.settled
  case deletion => exact h.deletion_creator
  case creation => rw [hcreation, Creation.after_ended (by omega)]
  case searched =>
    intro hnone
    rw [w.searched_concat _ _ hbegun]
    exact h.searched (by simpa using hnone)
  case snat =>
    intro hearly
    exact h.snat (by simpa using hearly)
  case bound =>
    intro _ router hattaches
    rw [strands_concat (by simp) hbegun]
    exact h.bound hended router hattaches

/-- Either client can take a step, wherever the other one is. -/
theorem step (h : w.Tracks x host agent schedule o) (hmeet : w.Meet x host agent)
    (client : Client) :
    ∃ o', w.step o client = some o' ∧ w.Tracks x host agent (schedule ++ [client]) o' := by
  cases client with
  | deleter =>
      obtain hcount | hcount | hcount | hcount : schedule.count .deleter = 0 ∨
          schedule.count .deleter = 1 ∨ schedule.count .deleter = 2 ∨
          3 ≤ schedule.count .deleter := by omega
      · exact h.look hcount
      · exact h.remove hcount
      · exact h.unbind hmeet hcount
      · exact h.idle_deleter hcount
  | creator =>
      obtain hcount | hcount | hcount : schedule.count .creator = 0 ∨
          schedule.count .creator = 1 ∨ 2 ≤ schedule.count .creator := by omega
      · exact h.store hcount
      · exact h.announce hmeet hcount
      · exact h.idle_creator hcount

end Tracks

/-! ## Whole schedules -/

theorem tracks_nil (hmeet : w.Meet x host agent) :
    w.Tracks x host agent [] ⟨x, .pending, .pending⟩ := by
  constructor
  case settled => exact ⟨hmeet.registered, hmeet.serving, hmeet.sound, rfl, rfl⟩
  case deletion => rfl
  case creation => rfl
  case searched => exact fun _ => .refl _
  case snat => exact fun _ _ => rfl
  case bound =>
    intro hcreated
    simp at hcreated

/-- Wherever the clients are, they can go on by any schedule. -/
theorem Tracks.run (h : w.Tracks x host agent schedule o) (hmeet : w.Meet x host agent)
    (rest : List Client) :
    ∃ o', rest.foldlM w.step o = some o' ∧ w.Tracks x host agent (schedule ++ rest) o' := by
  induction rest generalizing schedule o with
  | nil => exact ⟨o, rfl, (List.append_nil schedule).symm ▸ h⟩
  | cons client rest ih =>
      obtain ⟨y, hstep, htracks⟩ := h.step hmeet client
      obtain ⟨z, hrun, htracks'⟩ := ih htracks
      refine ⟨z, by rw [List.foldlM_cons, hstep]; exact hrun, ?_⟩
      rwa [List.append_assoc] at htracks'

/-- In a fabric nothing that the new port attaches to is stranded if the port is stored before the
deleter looks. -/
theorem not_strands_stored_first (hmeet : w.Meet x host agent)
    (hfabric : x.controller.directory.Fabric)
    (hfree : x.controller.directory.Free w.arriving) (hother : w.arriving.id ≠ w.leaving.id)
    (hfirst : schedule.head? = some .creator) {d : Directory} {id router : String}
    (hattaches : (x.controller.directory.putPort w.arriving).Attaches w.arriving router) :
    ¬w.Strands x schedule d host id router := by
  intro hstrands
  have hfabric := hfabric.put_port hfree
  obtain ⟨r, hr, -⟩ := hfabric.known_of_attaches hattaches
  have habandons := hstrands.abandoned
  rw [searched, if_pos hfirst] at habandons
  have hneeded : (x.controller.directory.putPort w.arriving).NeededBeside w.leaving.id host
      router :=
    ⟨w.arriving, hmeet.serving.mem_ports_put.2 (.inl rfl), hother, hmeet.serviced, hmeet.arrives,
      hattaches⟩
  have hneeds := (hfabric.needs_iff (Directory.knows_of_found hr)).2 hneeded
  rw [habandons.free] at hneeds
  cases hneeds

/-- Once a deletion and a creation on one host have both ended, each of them has gone well, and a
router that the new port attaches to is bound to the agent of the host, unless the deletion strands
it. -/
theorem bound_iff_not_stranded (hmeet : w.Meet x host agent)
    (hdeleted : 3 ≤ schedule.count .deleter) (hcreated : 2 ≤ schedule.count .creator) :
    ∃ o, w.run x schedule = some o ∧ o.deletion = .ended (.ok ()) ∧
      o.creation = .ended (.ok ()) ∧
      ∀ router, o.exchange.controller.directory.Attaches w.arriving router →
        ∃ bound, o.exchange.controller.store.hasHost router agent.id = .ok bound ∧
          (bound ↔ ¬w.Strands x schedule o.exchange.controller.directory host agent.id
            router) := by
  obtain ⟨o, hrun, htracks⟩ := (tracks_nil hmeet).run hmeet schedule
  rw [List.nil_append] at htracks
  refine ⟨o, hrun, ?_, ?_, fun router hattaches => ?_⟩
  · rw [htracks.deletion, Deletion.after_ended hdeleted]
  · rw [htracks.creation, Creation.after_ended hcreated]
  · exact ⟨_, htracks.settled.sound.has_host router agent.id,
      htracks.bound hcreated router hattaches⟩

end Clients

namespace SoleHost

/-- Another serviced port on the host of the agent. -/
def newcomer : Port :=
  ⟨"p2", "t1", "n1", "vm2", "compute:nova", "m2", some "h1", [⟨"s1", "10.0.0.6"⟩]⟩

/-- The first port has come to the host, and brought the router. -/
def occupied : Exchange :=
  ((idle.changeDirectory (·.putPort port)).request
    (Call.bringRouters .administrator port).action).2

def clients : Clients := ⟨port, newcomer, .administrator, .administrator⟩

def overtaking : List Client := [.deleter, .creator, .creator, .deleter, .deleter]

theorem occupied_reachable : Reachable .anything Directory.Serving occupied := by
  have hserving : (plainDirectory.putPort port).Serving :=
    plain_directory_fabric.toServing.put_port port
  have hstart : Reachable .anything Directory.Serving (idle.changeDirectory (·.putPort port)) :=
    .start rfl rfl hserving
  exact .step hstart (.call (.bringRouters .administrator port) trivial)

theorem occupied_directory : occupied.controller.directory = plainDirectory.putPort port := rfl

theorem clients_meet : clients.Meet occupied "h1" agent := by
  obtain ⟨hbus, hserving, hsound⟩ := occupied_reachable.serving
  have hports : (plainDirectory.putPort port).ports.values = [interface, port] := rfl
  constructor
  case registered => exact hbus
  case serving => exact hserving
  case sound => exact hsound
  case known =>
    rw [occupied_directory, hports]
    decide +kernel
  case found =>
    rw [occupied_directory]
    rfl
  case active => rfl
  case leaves => rfl
  case arrives => rfl
  case serviced => decide +kernel
  case admin => rfl

end SoleHost

namespace Clients

open SoleHost in
theorem bound_iff_not_stranded_sole_host :
    clients.Meet occupied "h1" agent ∧ 3 ≤ overtaking.count .deleter ∧
      2 ≤ overtaking.count .creator ∧
      ∃ o, clients.run occupied overtaking = some o ∧ o.deletion = .ended (.ok ()) ∧
        o.creation = .ended (.ok ()) ∧
        ∀ router, o.exchange.controller.directory.Attaches newcomer router →
          ∃ bound, o.exchange.controller.store.hasHost router agent.id = .ok bound ∧
            (bound ↔ ¬clients.Strands occupied overtaking o.exchange.controller.directory "h1"
              agent.id router) := by
  have hdeleted : 3 ≤ overtaking.count .deleter := by decide
  have hcreated : 2 ≤ overtaking.count .creator := by decide
  exact ⟨clients_meet, hdeleted, hcreated,
    bound_iff_not_stranded clients_meet hdeleted hcreated⟩

open SoleHost in
/-- A port is deleted and another one is created on its host. When both have ended, the router of
the new port is not bound to the agent of the host. -/
theorem unbound_beside_new_port :
    Reachable .anything Directory.Serving occupied ∧ clients.Meet occupied "h1" agent ∧
      occupied.controller.directory.ports.get? port.id = some port ∧ port.isServiced ∧
      occupied.controller.directory.ports.get? newcomer.id = none ∧
      overtaking.count .deleter = 3 ∧ overtaking.count .creator = 2 ∧
      ∃ o, clients.run occupied overtaking = some o ∧ o.deletion = .ended (.ok ()) ∧
        o.creation = .ended (.ok ()) ∧
        o.exchange.controller.directory.Attaches newcomer plain.id ∧
        o.exchange.controller.store.hasHost plain.id agent.id = .ok false := by
  obtain ⟨o, hrun, htracks⟩ := (tracks_nil clients_meet).run clients_meet overtaking
  have hinterface : (clients.run occupied overtaking).map
      (·.exchange.controller.directory.ports.get? interface.id) = some (some interface) := by
    decide +kernel
  have hbound : (clients.run occupied overtaking).map
      (·.exchange.controller.store.isBound plain.id agent.id) = some false := by
    decide +kernel
  rw [show clients.run occupied overtaking = some o from hrun, Option.map_some,
    Option.some_inj] at hinterface hbound
  refine ⟨occupied_reachable, clients_meet, ?_, by decide +kernel, ?_, by decide, by decide,
    o, hrun, htracks.deletion, htracks.creation, ?_, ?_⟩
  · rw [occupied_directory]
    decide +kernel
  · rw [occupied_directory]
    decide +kernel
  · exact ⟨interface, Table.mem_values.2 ⟨interface.id, hinterface⟩, ⟨"s1", "10.0.0.6"⟩,
      List.mem_singleton_self _, rfl, rfl, by decide +kernel⟩
  · rw [htracks.settled.sound.has_host, hbound]

end Clients

end RouterBinding
