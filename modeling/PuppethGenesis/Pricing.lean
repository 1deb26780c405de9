import Mathlib.Data.Finset.Max
import PuppethGenesis.Accounts

/-!
# The versioned price tables of Format B

When Istanbul is scheduled, Format B prices the three `alt_bn128` contracts by a
table of versions: the price before the fork at block 0 and the price after it at
the Istanbul block. The table is a Go map keyed by `*common.Big` pointers, so two
versions can sit at one block, and it has no order: the model lists it in the order
of the Go literal, and no reading depends on that order (`priceAt_perm`). A price is
in force at a height only when one version sits at the greatest block not past it.
-/

namespace PuppethGenesis

/-- The blocks the versions of a price table sit at. -/
def ParityBuiltinPricing.blocks : ParityBuiltinPricing → List Int
  | .pricing _ => []
  | .versioned table => table.map (·.1)

/-- The versions a table holds at the greatest block not past `n`: every one of
them, since the map puts none before another. -/
def versionsAt (table : List (Int × ParityChainSpecVersionedPricing)) (n : Nat) :
    List ParityChainSpecVersionedPricing :=
  match (((table.map (·.1)).toFinset.filter (· ≤ (n : Int))).max : Option Int) with
  | some m => (table.filter (·.1 = m)).map (·.2)
  | none => []

/-- The price a builtin's pricing puts in force at `n`. Only a versioned table has
one, and only when a single version sits at the greatest block not past `n`: two
versions there reach the JSON in Go's random map order, and neither is in force. -/
def ParityBuiltinPricing.priceAt : ParityBuiltinPricing → Nat → Option ParityChainSpecAlternativePrice
  | .pricing _, _ => none
  | .versioned table, n =>
    match versionsAt table n with
    | [v] => v.price
    | _ => none

theorem versionsAt_perm {t₁ t₂ : List (Int × ParityChainSpecVersionedPricing)} (h : t₁.Perm t₂)
    (n : Nat) : (versionsAt t₁ n).Perm (versionsAt t₂ n) := by
  unfold versionsAt
  rw [List.toFinset_eq_of_perm _ _ (h.map _)]
  split
  · exact (h.filter _).map _
  · exact .nil

/-- No price read depends on the order the table lists its versions in. -/
theorem priceAt_perm {t₁ t₂ : List (Int × ParityChainSpecVersionedPricing)} (h : t₁.Perm t₂)
    (n : Nat) :
    (ParityBuiltinPricing.versioned t₁).priceAt n = (ParityBuiltinPricing.versioned t₂).priceAt n := by
  have hv := versionsAt_perm h n
  simp only [ParityBuiltinPricing.priceAt]
  generalize versionsAt t₁ n = l₁ at hv ⊢
  generalize versionsAt t₂ n = l₂ at hv ⊢
  rcases l₁ with _ | ⟨v, _ | ⟨w, l₁⟩⟩
  · rw [List.nil_perm.mp hv]
  · rw [← List.singleton_perm.mp hv]
  · have hlen := hv.length_eq
    rcases l₂ with _ | ⟨x, _ | ⟨y, l₂⟩⟩ <;> simp at hlen ⊢

/-- Two versions at distinct blocks `0 < istanbul`: the later one from its block on. -/
theorem versionedPricing_priceAt {istanbul : Int} (hi : 0 < istanbul)
    (before after : ParityChainSpecAlternativePrice) (n : Nat) :
    (versionedPricing istanbul before after).priceAt n = some (if istanbul ≤ n then after else before) := by
  have h0 : (0 : Int) ≤ n := Int.natCast_nonneg n
  by_cases hn : istanbul ≤ n <;>
    simp [versionedPricing, ParityBuiltinPricing.priceAt, versionsAt, Finset.filter_insert,
      Finset.filter_singleton, hn, h0, hi.ne, hi.ne', hi.le]

/-- Two versions at block 0: no price is in force at any height. -/
theorem versionedPricing_zero_priceAt (before after : ParityChainSpecAlternativePrice) (n : Nat) :
    (versionedPricing 0 before after).priceAt n = none := by
  simp [versionedPricing, ParityBuiltinPricing.priceAt, versionsAt, Finset.filter_singleton,
    Int.natCast_nonneg n]

theorem versionedPricing_blocks (istanbul : Int) (before after : ParityChainSpecAlternativePrice) :
    (versionedPricing istanbul before after).blocks = [0, istanbul] := rfl

/-- The prices of the `alt_bn128` contracts at `0x06`–`0x08`, before Istanbul and
from it on. -/
def istanbulRepricing (k : UInt8) : ParityChainSpecAlternativePrice × ParityChainSpecAlternativePrice :=
  if k = 6 then
    ({ altBnConstOperationPrice := some { price := 500 } },
     { altBnConstOperationPrice := some { price := 150 } })
  else if k = 7 then
    ({ altBnConstOperationPrice := some { price := 40000 } },
     { altBnConstOperationPrice := some { price := 6000 } })
  else
    ({ altBnPairingPrice := some { base := 100000, pair := 80000 } },
     { altBnPairingPrice := some { base := 45000, pair := 34000 } })

theorem lastWrite_parityIstanbulPrecompiles (byzantium istanbul : Int) {k : UInt8}
    (hk : k ∈ ({6, 7, 8} : Finset UInt8)) :
    ∃ d, lastWrite (parityIstanbulPrecompiles byzantium istanbul) (bytesToAddress k) = some d ∧
      d.pricing = versionedPricing istanbul (istanbulRepricing k).1 (istanbulRepricing k).2 := by
  simp only [Finset.mem_insert, Finset.mem_singleton] at hk
  rcases hk with rfl | rfl | rfl <;> exact ⟨_, rfl, rfl⟩

section

variable (pp : ProtocolParams) {network : String} {genesis : Genesis} {bootnodes : List String}
  {order : RangeOrder genesis.alloc} {spec : ParityChainSpec}

/-- With Byzantium and Istanbul scheduled, the three repriced contracts carry
Istanbul's versioned tables. -/
theorem newParityChainSpec_repriced
    (h : newParityChainSpec pp network genesis bootnodes order = .ok spec) {b i : Int}
    (hb : genesis.config.byzantiumBlock = some b) (hi : genesis.config.istanbulBlock = some i)
    {k : UInt8} (hk : k ∈ ({6, 7, 8} : Finset UInt8)) :
    ∃ e d, spec.accounts.lookup (bytesToAddress k) = some e ∧ e.builtin = some d ∧
      d.pricing = versionedPricing i (istanbulRepricing k).1 (istanbulRepricing k).2 := by
  have hP : k ∈ precompileAddresses genesis.config :=
    mem_precompileAddresses_of_byzantium (by rw [hb]; rfl)
      ((show ({6, 7, 8} : Finset UInt8) ⊆ {5, 6, 7, 8} by decide) hk)
  obtain ⟨e, he, hbe⟩ := (parityAccountTableLaw pp h).precompiled k hP
  obtain ⟨d, hd, hpricing⟩ := lastWrite_parityIstanbulPrecompiles b i hk
  exact ⟨e, d, he, hbe.trans (((parityRegistryLaw _).istanbul_wins b i hb hi k hk).trans hd), hpricing⟩

/-- From an Istanbul block past 0, each repriced contract's table has its versions
at distinct blocks, and the price it puts in force is the old one before Istanbul
and the new one from it on. -/
theorem parity_repriced_tables
    (h : newParityChainSpec pp network genesis bootnodes order = .ok spec) {b i : Int}
    (hb : genesis.config.byzantiumBlock = some b) (hi : genesis.config.istanbulBlock = some i)
    (hi0 : 0 < i) {k : UInt8} (hk : k ∈ ({6, 7, 8} : Finset UInt8)) :
    ∃ e d, spec.accounts.lookup (bytesToAddress k) = some e ∧ e.builtin = some d ∧
      d.pricing.blocks = [0, i] ∧ d.pricing.blocks.Nodup ∧
      ∀ n : Nat, d.pricing.priceAt n =
        some (if i ≤ n then (istanbulRepricing k).2 else (istanbulRepricing k).1) := by
  obtain ⟨e, d, he, hd, hpricing⟩ := newParityChainSpec_repriced pp h hb hi hk
  have hblocks : d.pricing.blocks = [0, i] := by rw [hpricing, versionedPricing_blocks]
  refine ⟨e, d, he, hd, hblocks, ?_, fun n => ?_⟩
  · rw [hblocks]
    simp [hi0.ne]
  · rw [hpricing, versionedPricing_priceAt hi0]

end

theorem parity_repriced_tables_at_one :
    ∃ spec, newParityChainSpec default ""
        (.ofConfig { ChainConfig.allForksAt 1 0 with istanbulBlock := some 1 } ∅) [] .nil = .ok spec ∧
      ∃ e d, spec.accounts.lookup (bytesToAddress 6) = some e ∧ e.builtin = some d ∧
        d.pricing.blocks = [0, 1] ∧ d.pricing.blocks.Nodup ∧
        ∀ n : Nat, d.pricing.priceAt n =
          some (if (1 : Int) ≤ n then (istanbulRepricing 6).2 else (istanbulRepricing 6).1) := by
  refine ⟨_, rfl, ?_⟩
  exact @parity_repriced_tables default ""
    (.ofConfig { ChainConfig.allForksAt 1 0 with istanbulBlock := some 1 } ∅) [] .nil _ rfl 0 1 rfl rfl
    (by decide) 6 (by decide)

/-- With Istanbul at block 0, both versions of each repriced contract's table sit at
block 0. -/
theorem parity_repriced_blocks_collide_at_zero :
    ∃ spec, newParityChainSpec default "" (.ofConfig (.allForksAt 1 0) ∅) [] .nil = .ok spec ∧
      ∀ k ∈ ({6, 7, 8} : Finset UInt8), ∃ e d, spec.accounts.lookup (bytesToAddress k) = some e ∧
        e.builtin = some d ∧ d.pricing.blocks = [0, 0] := by
  refine ⟨_, rfl, fun k hk => ?_⟩
  obtain ⟨e, d, he, hd, hpricing⟩ := @newParityChainSpec_repriced default ""
    (.ofConfig (.allForksAt 1 0) ∅) [] .nil _ rfl 0 0 rfl rfl k hk
  exact ⟨e, d, he, hd, by rw [hpricing, versionedPricing_blocks]⟩

end PuppethGenesis
