import RouterBinding.Controller.Presence
import RouterBinding.Network.Agent
import RouterBinding.Network.Port
import RouterBinding.Network.Router
import RouterBinding.Proofs.Binding.Row
import RouterBinding.Proofs.Json.Record
import RouterBinding.Proofs.Json.Value

/-!
# The records of the library are faithful

Every record type is put together from the lemmas on members, one for each kind of member that it
has; `records_faithful` is the result for all of them. An agent is faithful with the reports that
can be decoded, which are canonical and not too deep.
-/

namespace RouterBinding

open Json

namespace Gateway

theorem of_tree_to_tree (g : Gateway) : ofTree? g.toTree = some g := by
  obtain ⟨network, port⟩ := g
  cases port <;>
    simp [ofTree?, toTree, Tree.record?, Tree.record, Record.ofMembers?, Record.named?, guard,
      Record.required?, Record.optional?, Record.get?, Tree.text, Tree.text?, Tree.optional]

theorem to_tree_valid (g : Gateway) : g.toTree.Valid :=
  record_valid_iff.2 (by simp [text_valid, optional_valid])

end Gateway

namespace FixedIp

theorem of_tree_to_tree (ip : FixedIp) : ofTree? ip.toTree = some ip := by
  simp [ofTree?, toTree, Tree.record?, Tree.record, Record.ofMembers?, Record.named?, guard,
    Record.required?, Record.get?, Tree.text, Tree.text?]

theorem to_tree_valid (ip : FixedIp) : ip.toTree.Valid :=
  record_valid_iff.2 (by simp [text_valid])

end FixedIp

theorem Router.faithful (router : Router) : Faithful toTree ofTree? router := by
  refine .of_record (fun _ => rfl) rfl rfl (by simp) ?_ fun r hget => ?_
  · obtain ⟨id, tenant, distributed, gateway⟩ := router
    cases gateway with
    | none => simp [text_valid, bool_valid, null_valid]
    | some g => simp [text_valid, bool_valid, Gateway.to_tree_valid]
  · simp only [List.forall_mem_cons] at hget
    obtain ⟨hid, htenant, hdistributed, hget, -⟩ := hget
    have hgateway : r.optional? "external_gateway" Gateway.ofTree? = some router.gateway := by
      rw [Record.optional?, hget]
      cases router.gateway with
      | none => rfl
      | some g => exact congrArg (Option.map some) g.of_tree_to_tree
    simp [Record.required_text hid, Record.required_text htenant,
      Record.required_bool hdistributed, hgateway]

theorem Port.faithful (port : Port) : Faithful toTree ofTree? port := by
  refine .of_record (fun _ => rfl) rfl rfl (by simp) ?_ fun r hget => ?_
  · have hips : (Tree.array (port.fixedIps.map (·.toTree))).Valid :=
      items_valid_iff.2 (by simp [FixedIp.to_tree_valid])
    simp [text_valid, optional_valid, hips]
  · simp only [List.forall_mem_cons] at hget
    obtain ⟨hid, htenant, hnetwork, hdevice, howner, hmac, hhost, hips, -⟩ := hget
    simp [Record.required_text hid, Record.required_text htenant, Record.required_text hnetwork,
      Record.required_text hdevice, Record.required_text howner, Record.required_text hmac,
      Record.optional_text hhost,
      Record.default_of_get hips (list_of_items FixedIp.of_tree_to_tree port.fixedIps)]

theorem InterfaceLink.faithful (link : InterfaceLink) : Faithful toTree ofTree? link := by
  refine .of_record (fun _ => rfl) rfl rfl (by simp) (by simp [text_valid, optional_valid])
    fun r hget => ?_
  simp only [List.forall_mem_cons] at hget
  obtain ⟨hport, hhost, hrouter, -⟩ := hget
  simp [Record.required_text hport, Record.required_text hhost, Record.optional_text hrouter]

theorem Removal.faithful (removal : Removal) : Faithful toTree ofTree? removal := by
  refine .of_record (fun _ => rfl) rfl rfl (by simp) (by simp [text_valid]) fun r hget => ?_
  simp only [List.forall_mem_cons] at hget
  obtain ⟨hrouter, hhost, hagent, -⟩ := hget
  simp [Record.required_text hrouter, Record.required_text hhost, Record.required_text hagent]

namespace Agent

/-- The report of the agent as a value. -/
def reportValue (a : Agent) : Value := .object a.report.rows

theorem faithful {agent : Agent} (hcanonical : agent.reportValue.Canonical)
    (hint : agent.reportValue.IntegersOnly) (hdepth : agent.reportValue.depth ≤ reportRoom) :
    Faithful toTree ofTree? agent := by
  refine .of_record (fun _ => rfl) rfl rfl (by simp) ?_ fun r hget => ?_
  · have hreport : (Value.tableTree agent.report).Valid := Value.to_tree_valid hint
    simp [text_valid, bool_valid, hreport]
  · simp only [List.forall_mem_cons] at hget
    obtain ⟨hid, hhost, hadmin, hget, hget', -⟩ := hget
    have halive : r.default? "alive" true Tree.bool? = some agent.alive :=
      Record.default_of_get hget rfl
    have hreport : r.default? "configurations" ∅ (Value.tableOfTree? reportRoom) =
        some agent.report :=
      Record.default_of_get hget' (Value.table_of_tree_to_tree hcanonical hint hdepth)
    simp [Record.required_text hid, Record.required_text hhost, Record.required_bool hadmin,
      halive, hreport]

/-- The report of a decoded agent is canonical and nests no deeper than it may. -/
theorem canonical_of_tree {tree : Tree} {agent : Agent} (h : ofTree? tree = some agent) :
    agent.reportValue.Canonical ∧ agent.reportValue.depth ≤ reportRoom := by
  simp only [ofTree?, Option.bind_eq_bind, Option.bind_eq_some_iff] at h
  obtain ⟨r, -, id, -, host, -, adminUp, -, alive, -, report, hreport, hagent⟩ := h
  obtain rfl := Option.some.inj hagent
  rw [Record.default?] at hreport
  split at hreport
  next =>
    obtain rfl := Option.some.inj hreport
    exact ⟨⟨List.Pairwise.nil, trivial⟩, (by decide : 1 ≤ reportRoom)⟩
  next => exact Value.canonical_of_tree (Value.of_tree_of_table hreport)

end Agent

/-- Routers, ports, interface links, bindings and removals are read back from their texts, and so is
an agent with no floating-point number in its report, exactly if the report is one that can be
decoded and nests no deeper than a decoder goes. Each of them is also read from any object that has
its members in another order and others of unknown names. -/
theorem records_faithful :
    (∀ r : Router, Faithful Router.toTree Router.ofTree? r) ∧
    (∀ p : Port, Faithful Port.toTree Port.ofTree? p) ∧
    (∀ l : InterfaceLink, Faithful InterfaceLink.toTree InterfaceLink.ofTree? l) ∧
    (∀ b : SnatBinding, Faithful SnatBinding.toTree SnatBinding.ofTree? b) ∧
    (∀ b : HostBinding, Faithful HostBinding.toTree HostBinding.ofTree? b) ∧
    (∀ r : Removal, Faithful Removal.toTree Removal.ofTree? r) ∧
    (∀ tree a, Agent.ofTree? tree = some a → a.reportValue.Canonical) ∧
    ∀ a : Agent, a.reportValue.IntegersOnly →
      (Faithful Agent.toTree Agent.ofTree? a ↔
        a.reportValue.Canonical ∧ a.reportValue.depth ≤ Agent.reportRoom) := by
  refine ⟨Router.faithful, Port.faithful, InterfaceLink.faithful, SnatBinding.faithful,
    HostBinding.faithful, Removal.faithful, fun tree a h => (Agent.canonical_of_tree h).1,
    fun a hint => ⟨fun h => ?_, fun ⟨hcanonical, hdepth⟩ => Agent.faithful hcanonical hint hdepth⟩⟩
  obtain ⟨tree, -, htree⟩ := Option.bind_eq_some_iff.1 h.read_back
  exact Agent.canonical_of_tree htree

/-- An agent that reports an array with the least integer is read from a text that gives its members
in reverse order, behind one of an unknown name. -/
theorem records_faithful_reversed :
    let report : Table String Value :=
      ⟨[("agent_mode", .string "dvr_snat"),
        ("limits", .array [.null, .number (.integer (-9223372036854775808))])], by decide +kernel⟩
    let agent : Agent := ⟨"a\"1\"", "h\\\n", true, false, report⟩
    let text := "\x7b\"x\":[null,\"é\"],\"configurations\":\x7b\"agent_mode\":\"dvr_snat\"," ++
      "\"limits\":[null,-9223372036854775808]\x7d,\"alive\":false," ++
      "\"admin_state_up\":true,\"host\":\"h\\\\\\n\",\"id\":\"a\\\"1\\\"\"\x7d"
    agent.reportValue.IntegersOnly ∧ agent.reportValue.Canonical ∧
      agent.reportValue.depth ≤ Agent.reportRoom ∧
      (Tree.parse? text).bind Agent.ofTree? = some agent := by
  intro report agent text
  have hint : agent.reportValue.IntegersOnly :=
    ⟨trivial, ⟨trivial, trivial, trivial⟩, trivial⟩
  have hleast : (Number.integer (-9223372036854775808)).Canonical := by
    constructor <;> decide
  have hcanonical : agent.reportValue.Canonical :=
    ⟨report.increasing, trivial, ⟨trivial, hleast, trivial⟩, trivial⟩
  have hdepth : agent.reportValue.depth ≤ Agent.reportRoom := by decide +kernel
  refine ⟨hint, hcanonical, hdepth, ?_⟩
  obtain ⟨-, -, -, -, -, -, -, hagent⟩ := records_faithful
  obtain ⟨known, hknown, hread⟩ := ((hagent agent hint).2 ⟨hcanonical, hdepth⟩).read_extended
  obtain rfl := record_injective hknown
  let extra := [("x", Tree.array [.null, .text "é"])]
  have hvalid : ∀ member ∈ extra, member.2.Valid := by
    simp [extra, Tree.Valid, ItemsValid, Tree.text]
  have hdecoded := (hread _ extra (List.reverse_perm _) (by decide)).2 hvalid
  -- The text is the compact form of the reversed members.
  convert hdecoded using 3
  decide +kernel

end RouterBinding
