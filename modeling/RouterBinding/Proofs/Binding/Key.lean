import RouterBinding.Proofs.Binding.Listing

/-!
# Keys of host bindings

A key holds the router id behind its length and the agent id behind both, so that ids with digits
or colons in them stay apart (`HostBinding.key_inj`). `HostBinding.keys_apart_ordered` adds how keys
are ordered: those of one router by the bytes of their agents.
-/

namespace RouterBinding

/-- Bindings under one key have the same router and the same agent. The keys of one router are
ordered by bytes as its agents are, and a table lists keys in the order of their bytes. -/
theorem HostBinding.keys_apart_ordered (router agent router' agent' : String) :
    (key ⟨router, agent⟩ = key ⟨router', agent'⟩ ↔ router = router' ∧ agent = agent') ∧
    (Text.utf8 (key ⟨router, agent⟩) < Text.utf8 (key ⟨router, agent'⟩) ↔
      Text.utf8 agent < Text.utf8 agent') ∧
    (compare (key ⟨router, agent⟩) (key ⟨router', agent'⟩) = .lt ↔
      Text.utf8 (key ⟨router, agent⟩) < Text.utf8 (key ⟨router', agent'⟩)) := by
  refine ⟨⟨fun h => ?_, ?_⟩, ?_, ?_⟩
  · obtain ⟨hrouter, hagent⟩ := HostBinding.mk.inj (key_inj h)
    exact ⟨hrouter, hagent⟩
  · rintro ⟨rfl, rfl⟩
    rfl
  · rw [Text.utf8_lt_utf8, Text.utf8_lt_utf8, key_lt_key]
  · rw [Text.utf8_lt_utf8, compare_lt_iff_lt]

end RouterBinding
