import RouterBinding.Proofs.Event.Run

/-!
# Scheduling races

Clients schedule the address translation of routers at the same time: each looks for an agent first
and runs its transaction later, when other clients may have bound, released or purged in between. A
`Race` is the controller, the clients that have looked and not yet bound, and the log of all
answers. One `Turn` says what an answer tells of the SNAT binding of a router; from it follows that
no binding is lost or doubled (`snat_bindings_conserved`).
-/

namespace RouterBinding

namespace Controller

open RouterBinding.Action

/-- Looks for an agent to translate for a router, or finds out why there is none. -/
def chooseAgent (router : Router) : Action (Except SnatOutcome Agent) := do
  if !router.hasGateway then return .error .noGateway
  let active ← ask (·.activeAgents)
  if active.isEmpty then return .error .noActiveAgents
  match ← chooseOne (candidates router active) with
  | none => return .error .noCandidates
  | some agent => return .ok agent

/-- To schedule is to look for an agent and to bind the one that is found. -/
theorem schedule_snat_eq (router : Router) :
    scheduleSnat router = (do
      match ← chooseAgent router with
      | .ok agent => bindChosen router agent
      | .error outcome => return outcome) := by
  funext c
  show (scheduleSnat router).runOn c = Action.runOn _ c
  unfold scheduleSnat chooseAgent
  cases router.hasGateway with
  | false => rfl
  | true =>
      simp only [Bool.not_true, Bool.false_eq_true, if_false, run_on_bind, run_on_ask]
      rcases c.directory.activeAgents with e | active
      · rfl
      · simp only [map_error_ok]
        cases active.isEmpty with
        | true => rfl
        | false =>
            simp only [Bool.false_eq_true, if_false, run_on_bind]
            rcases (chooseOne (candidates router active)).runOn c with ⟨e | _ | agent, c'⟩ <;> rfl

/-- Looking for an agent draws words and changes nothing else, and whoever finds none has bound
none. -/
theorem choose_agent_runs (router : Router) (c : Controller) :
    ∃ answer draws, (chooseAgent router).runOn c = (answer, { c with draws := draws }) ∧
      ∀ agent, answer ≠ .ok (.error (.bound agent)) := by
  unfold chooseAgent
  cases router.hasGateway with
  | false => exact ⟨_, c.draws, rfl, by simp⟩
  | true =>
      simp only [Bool.not_true, Bool.false_eq_true, if_false, run_on_bind, run_on_ask]
      rcases c.directory.activeAgents with e | active
      · exact ⟨_, c.draws, rfl, by simp⟩
      · simp only [map_error_ok]
        cases active.isEmpty with
        | true => exact ⟨_, c.draws, rfl, by simp⟩
        | false =>
            have hrun : (chooseOne (candidates router active)).runOn c =
                (.ok (c.draws.choose (candidates router active)).1,
                  { c with draws := (c.draws.choose (candidates router active)).2 }) := rfl
            simp only [Bool.false_eq_true, if_false, run_on_bind, hrun]
            cases (c.draws.choose (candidates router active)).1 with
            | none => exact ⟨_, _, rfl, by simp⟩
            | some agent => exact ⟨_, _, rfl, by simp⟩

/-- A client finds the agent that is drawn for it. -/
theorem choose_agent_draws {c : Controller} {router : Router} {active : List Agent}
    (hgateway : router.hasGateway) (hactive : c.directory.activeAgents = .ok active)
    (hsome : active ≠ []) {agent : Agent} {draws : Draws}
    (hdraw : c.draws.choose (candidates router active) = (some agent, draws)) :
    (chooseAgent router).runOn c = (.ok (.ok agent), { c with draws := draws }) := by
  have hone : (chooseOne (candidates router active)).runOn c =
      (.ok (some agent), { c with draws := draws }) := by
    show (Except.ok (c.draws.choose _).1, { c with draws := (c.draws.choose _).2 }) = _
    rw [hdraw]
  unfold chooseAgent
  simp [run_on_bind, hgateway, hactive, hsome, hone, map_error_ok]

/-- A client that comes second finds the router bound and leaves everything as it was, the host
binding of its own agent included; a client that comes first binds its agent. -/
theorem run_on_bind_chosen {c : Controller} (hs : c.store.Sound) (router : Router)
    (agent : Agent) :
    (bindChosen router agent).runOn c =
      if (c.store.snatRow? router.id).isSome then (.ok .alreadyBound, c)
      else (.ok (.bound agent), { c with store := c.store.withSnat router agent }) := by
  rw [bind_chosen_eq, hs.contains_snat]

end Controller

/-- The answer to a request that concerns address translation. -/
inductive Entry where
  | scheduled (router : Router) (answer : Except ControllerError SnatOutcome)
  | assigned (agent : Agent) (router : Router) (answer : Except ControllerError Unit)
  /-- Every form of release answers the SNAT binding that it dropped. -/
  | released (router : String) (answer : Except ControllerError (Option SnatBinding))
  /-- A purge answers only how many bindings it dropped, so the stores around it are noted. -/
  | purged (before after : Store)

namespace Entry

/-- The agent that the address translation of a router was bound to. -/
def winner? (router : String) : Entry → Option String
  | scheduled r (.ok (.bound agent)) => if r.id = router then some agent.id else none
  | assigned agent r (.ok ()) =>
    if Controller.translates agent r && r.id = router then some agent.id else none
  | _ => none

/-- Whether the SNAT binding of a router was dropped. -/
def drops (router : String) : Entry → Bool
  | released r (.ok (some _)) => r = router
  | purged before after => (before.snatRow? router).isSome && (after.snatRow? router).isNone
  | _ => false

end Entry

/-- Clients that schedule address translation at the same time. -/
structure Race where
  controller : Controller
  /-- The clients that have found an agent and not yet run their transaction. -/
  chosen : List (Router × Agent)
  /-- The answers so far, in order. -/
  log : List Entry

namespace Race

open Controller

/-- A request runs as one unit and its answer is logged. -/
def perform {α : Type} (r : Race) (a : Action α) (entry : Except ControllerError α → Entry) :
    Race :=
  { r with controller := (a.runOn r.controller).2,
           log := r.log ++ [entry (a.runOn r.controller).1] }

/-- A client looks for an agent. If it finds none, it is done. -/
def look (r : Race) (router : Router) : Race :=
  match (chooseAgent router).runOn r.controller with
  | (.ok (.ok agent), c) => { r with controller := c, chosen := r.chosen ++ [(router, agent)] }
  | (.ok (.error outcome), c) =>
    { r with controller := c, log := r.log ++ [.scheduled router (.ok outcome)] }
  | (.error e, c) => { r with controller := c, log := r.log ++ [.scheduled router (.error e)] }

theorem look_of_found {r : Race} {router : Router} {agent : Agent} {c : Controller}
    (h : (chooseAgent router).runOn r.controller = (.ok (.ok agent), c)) :
    r.look router = { r with controller := c, chosen := r.chosen ++ [(router, agent)] } := by
  rw [look, h]

/-- One step of a race: a client takes one of its two steps, another request runs, or the directory
and the words drawn for choices become any others. -/
inductive Step : Race → Race → Prop where
  | look (r : Race) (router : Router) : Step r (r.look router)
  | bind {r : Race} {before after : List (Router × Agent)} {router : Router} {agent : Agent}
      (hchosen : r.chosen = before ++ (router, agent) :: after) :
      Step r ({ r with chosen := before ++ after }.perform (bindChosen router agent)
        (.scheduled router))
  | assign (r : Race) (agent : Agent) (router : Router) :
      Step r (r.perform (bindRouter agent router) (.assigned agent router))
  | releaseSnat (r : Race) (router : String) (scope : Option String) :
      Step r (r.perform (releaseSnat router scope) (.released router))
  | releaseSnatNode (r : Race) (ctx : Context) (router : String) (scope : Option String) :
      Step r (r.perform (releaseSnatNode ctx router scope) fun answer =>
        .released router (answer.map fun found => found.map SnatRelease.binding))
  | release (r : Race) (router : String) (scope : Option String) (dropHost : Bool) :
      Step r (r.perform (Action.commit (Transaction.release router scope dropHost).inRequest)
        fun answer => .released router (answer.map fun found => found.map Released.binding))
  | purge (r : Race) (agent : String) :
      Step r (r.perform (purge agent) fun _ =>
        .purged r.controller.store ((purge agent).runOn r.controller).2.store)
  | change (r : Race) (d : Directory) (draws : Draws) :
      Step r { r with controller := { r.controller with directory := d, draws := draws } }

/-- The races that steps lead to from an empty store. -/
inductive Reachable : Race → Prop where
  | start (c : Controller) (hstore : c.store = ∅) : Reachable ⟨c, [], []⟩
  | step {r r' : Race} (hr : Reachable r) (hstep : Step r r') : Reachable r'

/-- The agents that the address translation of a router was bound to, one after the other. -/
def winners (r : Race) (router : String) : List String := r.log.filterMap (·.winner? router)

/-- How often the SNAT binding of a router was dropped. -/
def losses (r : Race) (router : String) : Nat := r.log.countP (·.drops router)

end Race

/-- What an answer tells of the SNAT binding of a router: the agent that it was bound to, if any,
whether it was dropped, and the row before and after. -/
inductive Turn : Option String → Bool → Option SnatBinding → Option SnatBinding → Prop where
  | kept (row : Option SnatBinding) : Turn none false row row
  | won (b : SnatBinding) : Turn (some b.agent) false none (some b)
  | lost (b : SnatBinding) : Turn none true (some b) none

namespace Entry

/-- An answer tells what became of the SNAT binding of every router. -/
structure Explains (e : Entry) (s s' : Store) : Prop where
  sound : s'.Sound
  turn : ∀ router, Turn (e.winner? router) (e.drops router) (s.snatRow? router) (s'.snatRow? router)

namespace Explains

variable {e : Entry} {s s' : Store}

theorem kept (hs' : s'.Sound) (hrows : ∀ router, s'.snatRow? router = s.snatRow? router)
    (hwinner : ∀ router, e.winner? router = none) (hdrops : ∀ router, e.drops router = false) :
    e.Explains s s' := by
  refine ⟨hs', fun router => ?_⟩
  rw [hwinner, hdrops, hrows]
  exact .kept _

theorem won (hs : s.Sound) {router : Router} {agent : Agent}
    (hfree : s.snatRow? router.id = none)
    (hwinner : ∀ id, e.winner? id = if router.id = id then some agent.id else none)
    (hdrops : ∀ id, e.drops id = false) : e.Explains s (s.withSnat router agent) := by
  refine ⟨hs.with_snat router agent, fun id => ?_⟩
  rw [hwinner, hdrops, Store.snat_row_with_snat]
  by_cases h : router.id = id
  · subst h
    rw [if_pos rfl, if_pos rfl, hfree]
    exact .won ⟨router.id, agent.id, agent.host, router.gatewayPort⟩
  · rw [if_neg h, if_neg h]
    exact .kept _

/-- A release drops the row of its router, which is the one that it answers. -/
theorem lost (hs' : s'.Sound) {router : String} {b : SnatBinding}
    (hrow : s.snatRow? router = some b)
    (hrows : ∀ id, s'.snatRow? id = if router = id then none else s.snatRow? id) :
    (released router (.ok (some b))).Explains s s' := by
  refine ⟨hs', fun id => ?_⟩
  rw [hrows]
  by_cases h : router = id
  · subst h
    have hdrops : (released router (.ok (some b))).drops router = true := decide_eq_true rfl
    rw [hdrops, if_pos rfl, hrow]
    exact .lost b
  · have hdrops : (released router (.ok (some b))).drops id = false := decide_eq_false h
    rw [hdrops, if_neg h]
    exact .kept _

/-- A release that answers no binding leaves the store as it was. -/
theorem unreleased (hs : s.Sound) {router : String}
    {answer : Except ControllerError (Option SnatBinding)} (hanswer : ∀ b, answer ≠ .ok (some b)) :
    (released router answer).Explains s s := by
  refine kept hs (fun _ => rfl) (fun _ => rfl) fun id => ?_
  rcases answer with e | _ | b
  · rfl
  · rfl
  · exact absurd rfl (hanswer b)

end Explains

end Entry

namespace Controller

variable {c : Controller}

theorem bind_chosen_explains (hs : c.store.Sound) (router : Router) (agent : Agent) :
    (Entry.scheduled router ((bindChosen router agent).runOn c).1).Explains c.store
      ((bindChosen router agent).runOn c).2.store := by
  rw [run_on_bind_chosen hs]
  cases hrow : c.store.snatRow? router.id with
  | some b => exact .kept hs (fun _ => rfl) (fun _ => rfl) fun _ => rfl
  | none => exact .won hs hrow (fun _ => rfl) fun _ => rfl

theorem bind_router_explains (hs : c.store.Sound) (agent : Agent) (router : Router) :
    (Entry.assigned agent router ((bindRouter agent router).runOn c).1).Explains c.store
      ((bindRouter agent router).runOn c).2.store := by
  unfold bindRouter
  cases htranslates : translates agent router with
  | false =>
      have hrun : (bindHost agent router).runOn c =
          (.ok (), { c with store := c.store.withHost ⟨router.id, agent.id⟩ }) := by
        rw [bindHost, Action.run_on_bind, Action.run_on_commit, Transaction.placing,
          Store.commit_map_error, Store.commit_of_ok (Transaction.insert_host_eq _ _)]
        rfl
      rw [if_neg Bool.false_ne_true, hrun]
      refine .kept (hs.with_host _) (fun _ => Store.snat_row_with_host _ _ _) (fun id => ?_)
        fun _ => rfl
      simp [Entry.winner?, htranslates]
  | true =>
      rw [if_pos rfl, Action.run_on_commit, Transaction.placing, Store.commit_map_error]
      unfold Store.commit
      rw [Transaction.bind_snat_sound hs]
      cases hrow : c.store.snatRow? router.id with
      | some b => exact .kept hs (fun _ => rfl) (fun _ => rfl) fun _ => rfl
      | none =>
          refine .won hs hrow (fun id => ?_) fun _ => rfl
          simp [Entry.winner?, htranslates]

theorem release_snat_explains (hs : c.store.Sound) (router : String) (scope : Option String) :
    (Entry.released router ((releaseSnat router scope).runOn c).1).Explains c.store
      ((releaseSnat router scope).runOn c).2.store := by
  rw [releaseSnat, Action.run_on_commit_in_request]
  unfold Store.commit
  rw [Transaction.delete_snat_sound hs]
  cases hrow : c.store.snatIn? router scope with
  | none => exact .unreleased hs fun b => by simp
  | some b =>
      exact .lost (hs.drop_snat router) (Store.snat_in_some hrow)
        fun id => Store.snat_row_drop_snat _ _ _

theorem release_snat_node_explains (hs : c.store.Sound) (ctx : Context) (router : String)
    (scope : Option String) :
    (Entry.released router (((releaseSnatNode ctx router scope).runOn c).1.map
      fun found => found.map SnatRelease.binding)).Explains c.store
      ((releaseSnatNode ctx router scope).runOn c).2.store := by
  rw [run_on_release_snat_node_sound hs]
  cases hrow : c.store.snatIn? router scope with
  | none => exact .unreleased hs fun b => by simp [Except.map]
  | some b =>
      have hrow := Store.snat_in_some hrow
      obtain rfl := hs.router_of_snat_row hrow
      simp only
      rcases c.directory.needsRouter ctx b.host b.router none with e | _ | _
      · exact .unreleased hs fun b => by simp [Except.map]
      · exact .lost (hs.without_snat_node b) hrow
          fun id => Store.snat_row_without_snat_node _ _ _
      · exact .lost (hs.drop_snat b.router) hrow fun id => Store.snat_row_drop_snat _ _ _

theorem release_explains (hs : c.store.Sound) (router : String) (scope : Option String)
    (dropHost : Bool) :
    (Entry.released router (((Action.commit
      (Transaction.release router scope dropHost).inRequest).runOn c).1.map
      fun found => found.map Released.binding)).Explains c.store
      ((Action.commit (Transaction.release router scope dropHost).inRequest).runOn c).2.store := by
  rw [Action.run_on_commit_in_request]
  unfold Store.commit
  rw [Transaction.release_sound hs]
  cases hrow : c.store.snatIn? router scope with
  | none => exact .unreleased hs fun b => by simp [Except.map]
  | some b =>
      have hrow := Store.snat_in_some hrow
      cases dropHost with
      | false =>
          exact .lost (hs.drop_snat router) hrow fun id => Store.snat_row_drop_snat _ _ _
      | true =>
          refine .lost ((hs.drop_snat router).drop_host _) hrow fun id => ?_
          rw [← Store.snat_row_drop_snat]
          exact Store.snat_row_drop_host _ _ _

theorem purge_explains (hs : c.store.Sound) (agent : String) :
    (Entry.purged c.store ((purge agent).runOn c).2.store).Explains c.store
      ((purge agent).runOn c).2.store := by
  obtain ⟨counts, s', hrun, hs', hrows, -⟩ := Transaction.delete_agent_sound hs agent
  have hstore : ((purge agent).runOn c).2.store = s' := by
    rw [purge, Action.run_on_commit_in_request, Store.commit_of_ok hrun]
  rw [hstore]
  refine ⟨hs', fun router => ?_⟩
  cases hrow : c.store.snatRow? router with
  | none =>
      have hrow' : s'.snatRow? router = none := by rw [hrows, hrow]; rfl
      rw [hrow', Entry.drops, hrow]
      exact .kept none
  | some b =>
      by_cases hagent : b.agent = agent
      · have hrow' : s'.snatRow? router = none := by simp [hrows, hrow, hagent, Option.filter]
        rw [hrow', Entry.drops, hrow, hrow']
        exact .lost b
      · have hrow' : s'.snatRow? router = some b := by simp [hrows, hrow, hagent, Option.filter]
        rw [hrow', Entry.drops, hrow, hrow']
        exact .kept (some b)

end Controller

namespace Race

open Controller

/-- The log accounts for the SNAT bindings of the store: a router has one exactly if it was bound
once more than dropped, and that binding names the agent it was bound to last. -/
structure Accounts (r : Race) : Prop where
  sound : r.controller.store.Sound
  count : ∀ router, (r.winners router).length =
    r.losses router + if (r.controller.store.snatRow? router).isSome then 1 else 0
  last : ∀ router b, r.controller.store.snatRow? router = some b →
    (r.winners router).getLast? = some b.agent

namespace Accounts

variable {r r' : Race}

theorem start {c : Controller} (hstore : c.store = ∅) : Accounts ⟨c, [], []⟩ := by
  refine ⟨?_, fun router => ?_, fun router b hrow => ?_⟩
  · show c.store.Sound
    exact hstore ▸ .empty
  · show 0 = 0 + if (c.store.snatRow? router).isSome then 1 else 0
    simp [hstore]
  · have hrow : c.store.snatRow? router = some b := hrow
    simp [hstore] at hrow

/-- A step that neither writes the store nor answers. -/
theorem silent (h : r.Accounts) (hlog : r'.log = r.log)
    (hstore : r'.controller.store = r.controller.store) : r'.Accounts := by
  have hwinners : ∀ router, r'.winners router = r.winners router := by
    intro router
    rw [winners, winners, hlog]
  have hlosses : ∀ router, r'.losses router = r.losses router := by
    intro router
    rw [losses, losses, hlog]
  refine ⟨hstore ▸ h.sound, fun router => ?_, fun router b hrow => ?_⟩
  · rw [hwinners, hlosses, hstore, h.count]
  · rw [hwinners]
    exact h.last router b (hstore ▸ hrow)

/-- A step whose answer tells what became of the bindings. -/
theorem logged (h : r.Accounts) {e : Entry} (hlog : r'.log = r.log ++ [e])
    (he : e.Explains r.controller.store r'.controller.store) : r'.Accounts := by
  have hwinners : ∀ router, r'.winners router = r.winners router ++ (e.winner? router).toList := by
    intro router
    rw [winners, winners, hlog, List.filterMap_append]
    cases hwinner : e.winner? router <;> simp [hwinner]
  have hlosses : ∀ router,
      r'.losses router = r.losses router + if e.drops router then 1 else 0 := by
    intro router
    rw [losses, losses, hlog, List.countP_append, List.countP_singleton]
  refine ⟨he.sound, fun router => ?_, fun router b hrow => ?_⟩
  · have hcount := h.count router
    have hturn := he.turn router
    rw [hwinners, hlosses, List.length_append]
    -- a turn is about four values, whatever answer and stores they were read from
    generalize e.winner? router = winner at hturn ⊢
    generalize e.drops router = drops at hturn ⊢
    generalize r.controller.store.snatRow? router = before at hturn hcount
    generalize r'.controller.store.snatRow? router = after at hturn ⊢
    cases hturn with
    | kept row => simpa using hcount
    | won b => simpa using hcount
    | lost b => simpa using hcount
  · have hlast := h.last router
    have hturn := he.turn router
    -- with a row afterwards the turn kept it or won it
    rw [hwinners]
    rw [hrow] at hturn
    generalize e.winner? router = winner at hturn ⊢
    generalize e.drops router = drops at hturn
    generalize r.controller.store.snatRow? router = before at hturn hlast
    cases hturn with
    | kept => simpa using hlast b rfl
    | won => simp

/-- Every step keeps the accounts. -/
theorem step (h : r.Accounts) (hstep : Step r r') : r'.Accounts := by
  have hs := h.sound
  cases hstep with
  | look router =>
      obtain ⟨answer, draws, hrun, hnot⟩ := choose_agent_runs router r.controller
      unfold look
      rw [hrun]
      rcases answer with e | outcome | agent
      · exact h.logged rfl (.kept hs (fun _ => rfl) (fun _ => rfl) fun _ => rfl)
      · refine h.logged rfl (.kept hs (fun _ => rfl) (fun _ => ?_) fun _ => rfl)
        cases outcome with
        | bound agent => exact absurd rfl (hnot agent)
        | _ => rfl
      · exact h.silent rfl rfl
  | bind hchosen => exact h.logged rfl (bind_chosen_explains hs _ _)
  | assign agent router => exact h.logged rfl (bind_router_explains hs agent router)
  | releaseSnat router scope => exact h.logged rfl (release_snat_explains hs router scope)
  | releaseSnatNode ctx router scope =>
      exact h.logged rfl (release_snat_node_explains hs ctx router scope)
  | release router scope dropHost =>
      exact h.logged rfl (release_explains hs router scope dropHost)
  | purge agent => exact h.logged rfl (purge_explains hs agent)
  | change d draws => exact h.silent rfl rfl

end Accounts

theorem Reachable.accounts {r : Race} (hr : Reachable r) : r.Accounts := by
  induction hr with
  | start c hstore => exact .start hstore
  | step hr hstep ih => exact ih.step hstep

/-- However clients race, a router is bound exactly as often as its SNAT binding was dropped, or
once more, and then that binding is stored and names the agent that it was bound to last. Whoever
finds it stored is told so and leaves everything as it was. -/
theorem snat_bindings_conserved {r : Race} (hr : Reachable r) :
    ∃ bs, r.controller.store.snatBindings = .ok bs ∧
      (∀ router, (r.winners router).length =
          r.losses router + bs.countP (fun b => b.router = router) ∧
        bs.countP (fun b => b.router = router) ≤ 1) ∧
      ∀ b ∈ bs, (r.winners b.router).getLast? = some b.agent ∧
        ∀ router agent, router.id = b.router →
          (bindChosen router agent).runOn r.controller = (.ok .alreadyBound, r.controller) := by
  have haccounts := hr.accounts
  obtain ⟨bs, hbs, hmem, hcount⟩ := haccounts.sound.snat_bindings
  refine ⟨bs, hbs, fun router => ?_, fun b hb => ⟨?_, fun router agent hid => ?_⟩⟩
  · rw [haccounts.count, hcount]
    refine ⟨rfl, ?_⟩
    split <;> omega
  · exact haccounts.last b.router b ((hmem b).1 hb)
  · rw [run_on_bind_chosen haccounts.sound, hid, (hmem b).1 hb]
    rfl

end Race

/-! ## A race of two clients -/

namespace Rivals

open SoleHost Controller

/-- The other agent that may translate for the router. -/
def rival : Agent := .reporting "a2" "h2" "dvr_snat"

/-- The first words of a sequence are drawn. -/
def drawn (words : Nat) : Draws := { Draws.ofSeed 3 with drawn := words }

/-- Two agents may translate for the router, and neither does. -/
def free (words : Nat) : Controller :=
  { start.controller with directory := directory.putAgent rival, draws := drawn words }

/-- One client has found the rival and another one the agent. -/
def looked : Race := ⟨free 2, [(router, rival), (router, agent)], []⟩

/-- The client that looked last is the first to run its transaction. -/
def won : Race :=
  ({ looked with chosen := [(router, rival)] } : Race).perform (bindChosen router agent)
    (.scheduled router)

/-- The other client runs its transaction too late. -/
def lost : Race :=
  ({ won with chosen := [] } : Race).perform (bindChosen router rival) (.scheduled router)

/-- The router is released, and then bound to the rival on request. -/
def rebound : Race :=
  (lost.perform (releaseSnat router.id none) (.released router.id)).perform
    (bindRouter rival router) (.assigned rival router)

theorem choose_agent_free {words i : Nat} {a : Agent}
    (hindex : Draws.index 2 Draws.patience (drawn words) = (i, drawn (words + 1)))
    (ha : [agent, rival][i]? = some a) :
    (chooseAgent router).runOn (free words) = (.ok (.ok a), free (words + 1)) := by
  have hdraw : (free words).draws.choose [agent, rival] = (some a, drawn (words + 1)) := by
    have hlength : [agent, rival].length = 2 := rfl
    rw [Draws.choose, if_neg (by decide), hlength, ← ha]
    exact congrArg (fun drawn => ([agent, rival][drawn.1]?, drawn.2)) hindex
  have hactive : (free words).directory.activeAgents = .ok [agent, rival] := rfl
  exact choose_agent_draws rfl hactive (List.cons_ne_nil _ _) hdraw

theorem first_index : Draws.index 2 Draws.patience (drawn 0) = (1, drawn 1) := by
  decide +kernel

theorem second_index : Draws.index 2 Draws.patience (drawn 1) = (0, drawn 2) := by
  decide +kernel

theorem looked_reachable : looked.Reachable := by
  have hfirst : (⟨free 0, [], []⟩ : Race).look router = ⟨free 1, [(router, rival)], []⟩ :=
    Race.look_of_found (choose_agent_free first_index rfl)
  have hsecond : (⟨free 1, [(router, rival)], []⟩ : Race).look router = looked :=
    Race.look_of_found (choose_agent_free second_index rfl)
  have hlook := Race.Reachable.step (.start (free 0) rfl) (.look _ router)
  rw [hfirst] at hlook
  have hlook := Race.Reachable.step hlook (.look _ router)
  rwa [hsecond] at hlook

theorem won_reachable : won.Reachable := by
  have hchosen : looked.chosen = [(router, rival)] ++ (router, agent) :: [] := rfl
  exact .step looked_reachable (.bind hchosen)

theorem rebound_reachable : rebound.Reachable := by
  have hchosen : won.chosen = [] ++ (router, rival) :: [] := rfl
  have hlost : lost.Reachable := .step won_reachable (.bind hchosen)
  exact .step (.step hlost (.releaseSnat _ router.id none)) (.assign _ rival router)

end Rivals

namespace Race

open Rivals SoleHost Controller in
/-- Two clients found the router unbound and chose different agents. The one that is too late is
told that the router is bound, and its agent gets no host binding. After a release the rival is
bound on request. -/
theorem snat_bindings_conserved_rivals :
    won.Reachable ∧ won.chosen = [(router, rival)] ∧
      (bindChosen router rival).runOn won.controller = (.ok .alreadyBound, won.controller) ∧
      won.controller.store.hasHost router.id rival.id = .ok false ∧
      rebound.Reachable ∧ rebound.winners router.id = [agent.id, rival.id] ∧
      rebound.losses router.id = 1 ∧
      ∃ bs, rebound.controller.store.snatBindings = .ok bs ∧
        (∀ router, (rebound.winners router).length =
            rebound.losses router + bs.countP (fun b => b.router = router) ∧
          bs.countP (fun b => b.router = router) ≤ 1) ∧
        ∀ b ∈ bs, (rebound.winners b.router).getLast? = some b.agent ∧
          ∀ router agent, router.id = b.router →
            (bindChosen router agent).runOn rebound.controller =
              (.ok .alreadyBound, rebound.controller) := by
  obtain ⟨bs, hbs, -, hbound⟩ := snat_bindings_conserved won_reachable
  have hstored : won.controller.store.snatBindings = .ok [⟨"r1", "a1", "h1", none⟩] := by
    decide +kernel
  obtain rfl := Except.ok.inj (hbs.symm.trans hstored)
  have htoolate := (hbound _ (List.mem_singleton_self _)).2 router rival rfl
  exact ⟨won_reachable, rfl, htoolate, by decide +kernel, rebound_reachable, by decide +kernel,
    by decide +kernel, snat_bindings_conserved rebound_reachable⟩

end Race

end RouterBinding
