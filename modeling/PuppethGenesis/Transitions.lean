import PuppethGenesis.Dialects.Parity

/-!
# The transition fields of Format B

Each feature of a Format B document is a `*Transition` field holding the first
block at which it is active. The builder writes each from one fork block of the
configuration, through `Uint64()`, and leaves it at its zero value when that fork
is not scheduled. `newParityChainSpec_transition` says which fork feeds which
field; the rest of the module reads the fields against the fork schedule.
-/

namespace PuppethGenesis

/-- The feature-transition fields of a Format B document. -/
inductive Transition
  | homestead | eip100b | eip150 | eip155 | eip160 | eip161abc | eip161d
  | eip140 | eip211 | eip214 | eip658 | eip145 | eip1014 | eip1052 | eip1283
  | eip1283Disable | eip1283Reenable | eip1344 | eip1884 | eip2028
  deriving DecidableEq, Repr

def ParityChainSpec.transition (spec : ParityChainSpec) : Transition → UInt64
  | .homestead => spec.engine.homesteadTransition
  | .eip100b => spec.engine.eip100bTransition
  | .eip150 => spec.params.eip150Transition
  | .eip155 => spec.params.eip155Transition
  | .eip160 => spec.params.eip160Transition
  | .eip161abc => spec.params.eip161abcTransition
  | .eip161d => spec.params.eip161dTransition
  | .eip140 => spec.params.eip140Transition
  | .eip211 => spec.params.eip211Transition
  | .eip214 => spec.params.eip214Transition
  | .eip658 => spec.params.eip658Transition
  | .eip145 => spec.params.eip145Transition
  | .eip1014 => spec.params.eip1014Transition
  | .eip1052 => spec.params.eip1052Transition
  | .eip1283 => spec.params.eip1283Transition
  | .eip1283Disable => spec.params.eip1283DisableTransition
  | .eip1283Reenable => spec.params.eip1283ReenableTransition
  | .eip1344 => spec.params.eip1344Transition
  | .eip1884 => spec.params.eip1884Transition
  | .eip2028 => spec.params.eip2028Transition

/-- The fork whose block the builder writes into a field. -/
def Transition.source : Transition → Fork
  | .homestead => .homestead
  | .eip150 => .eip150
  | .eip155 | .eip160 => .eip155
  | .eip161abc | .eip161d => .eip158
  | .eip100b | .eip140 | .eip211 | .eip214 | .eip658 => .byzantium
  | .eip145 | .eip1014 | .eip1052 | .eip1283 => .constantinople
  | .eip1283Disable => .petersburg
  | .eip1283Reenable | .eip1344 | .eip1884 | .eip2028 => .istanbul

/-- What a field ends up holding when its fork is scheduled at `block`: the block
through `Uint64()`, or the zero value it starts at when the fork is not scheduled. -/
def transitionOf (block : Option Int) : UInt64 := (block.map uint64Of).getD 0

/-! ## What each statement of the builder writes -/

namespace ParityChainSpec

variable (pp : ProtocolParams) (spec : ParityChainSpec) (t : Transition)

/-- Every field starts at the zero value. -/
@[simp] theorem transition_init (name datadir : String) (nodes : List String) :
    ({ name, datadir, nodes } : ParityChainSpec).transition t = 0 := by
  cases t <;> rfl

@[simp] theorem transition_setAccounts (accounts : AccountTable ParityChainSpecAccount) :
    { spec with accounts }.transition t = spec.transition t := by
  cases t <;> rfl

@[simp] theorem transition_setFrontier : (spec.setFrontier pp).transition t = spec.transition t := by
  cases t <;> rfl

@[simp] theorem transition_setHomestead (v : UInt64) :
    (spec.setHomestead v).transition t = if t.source = .homestead then v else spec.transition t := by
  cases t <;> rfl

@[simp] theorem transition_setTangerineWhistle (v : UInt64) :
    (spec.setTangerineWhistle v).transition t = if t.source = .eip150 then v else spec.transition t := by
  cases t <;> rfl

@[simp] theorem transition_setSpuriousDragon (eip155 eip158 : UInt64) :
    (spec.setSpuriousDragon eip155 eip158).transition t =
      if t.source = .eip155 then eip155 else if t.source = .eip158 then eip158 else spec.transition t := by
  cases t <;> rfl

@[simp] theorem transition_setByzantium (num : Int) :
    (spec.setByzantium pp num).transition t =
      if t.source = .byzantium then uint64Of num else spec.transition t := by
  cases t <;> rfl

@[simp] theorem transition_setConstantinople (num : Int) :
    (spec.setConstantinople pp num).transition t =
      if t.source = .constantinople then uint64Of num else spec.transition t := by
  cases t <;> rfl

@[simp] theorem transition_setConstantinopleFix (num : Int) :
    (spec.setConstantinopleFix num).transition t =
      if t.source = .petersburg then uint64Of num else spec.transition t := by
  cases t <;> rfl

@[simp] theorem transition_setIstanbul (num : Int) :
    (spec.setIstanbul num).transition t =
      if t.source = .istanbul then uint64Of num else spec.transition t := by
  cases t <;> rfl

@[simp] theorem transition_setChainParams (chainID : UInt64) :
    (spec.setChainParams pp chainID).transition t = spec.transition t := by
  cases t <;> rfl

@[simp] theorem transition_setGenesis (genesis : Genesis) :
    (spec.setGenesis genesis).transition t = spec.transition t := by
  cases t <;> rfl

@[simp] theorem transition_setPrecompiles (ups : List (UInt8 × ParityChainSpecBuiltin)) :
    (spec.setPrecompiles ups).transition t = spec.transition t := by
  rw [setPrecompiles_eq]
  cases t <;> rfl

theorem transition_whenScheduled {f : Fork} {block : Option Int}
    {set : ParityChainSpec → Int → ParityChainSpec}
    (hset : ∀ s num, (set s num).transition t = if t.source = f then uint64Of num else s.transition t) :
    (spec.whenScheduled block set).transition t =
      if t.source = f then (block.map uint64Of).getD (spec.transition t) else spec.transition t := by
  cases block <;> simp [hset]

end ParityChainSpec

section

variable (pp : ProtocolParams) {network : String} {genesis : Genesis} {bootnodes : List String}
  {order : RangeOrder genesis.alloc} {spec : ParityChainSpec}

/-- Every transition field of a document holds what its source fork feeds it. -/
theorem newParityChainSpec_transition
    (h : newParityChainSpec pp network genesis bootnodes order = .ok spec) (t : Transition) :
    spec.transition t = transitionOf (genesis.config.forkBlock t.source) := by
  obtain ⟨-, -, homestead, eip150, eip155, eip158, -, -, hh, h150, h155, h158, -, -, rfl⟩ :=
    newParityChainSpec_ok pp h
  open ParityChainSpec in
  simp only [parityChainSpecOf, transition_setPrecompiles, transition_setAccounts,
    transition_setGenesis, transition_setChainParams,
    transition_whenScheduled _ t (transition_setIstanbul · t ·),
    transition_whenScheduled _ t (transition_setConstantinopleFix · t ·),
    transition_whenScheduled _ t (transition_setConstantinople pp · t ·),
    transition_whenScheduled _ t (transition_setByzantium pp · t ·),
    transition_setSpuriousDragon, transition_setTangerineWhistle, transition_setHomestead,
    transition_setFrontier, transition_init]
  cases t <;> simp [Transition.source, transitionOf, ChainConfig.forkBlock, hh, h150, h155, h158]

end

/-! ## Reading the fields against the schedule -/

/-- A feature is active at height `n` once `n` reaches its transition field. -/
def isActive (field : UInt64) (n : Nat) : Prop := field.toNat ≤ n

instance (field : UInt64) (n : Nat) : Decidable (isActive field n) :=
  inferInstanceAs (Decidable (field.toNat ≤ n))

/-- The fork that gates each feature in geth: EIP-160's `EXP` price comes with
EIP-158 at Spurious Dragon. -/
def Transition.gatingFork : Transition → Fork
  | .eip160 => .eip158
  | t => t.source

theorem gatingFork_eq_source {t : Transition} (ht : t ≠ .eip160) : t.gatingFork = t.source := by
  cases t <;> first | rfl | exact absurd rfl ht

/-- A Homestead block below 0 and a Tangerine Whistle block past `2^64` lose their
sign and their high bits in `Uint64()`: at block 0 the first feature is not active
though its fork is, and the second is active though its fork is not. -/
theorem transition_misread_outside_uint64 :
    ∃ spec, newParityChainSpec default "" (.ofConfig { ChainConfig.allForksAt 1 0 with
        homesteadBlock := some (-1), eip150Block := some (2 ^ 64) } ∅) [] .nil = .ok spec ∧
      ∀ t ∈ [Transition.homestead, .eip150], ¬ (isActive (spec.transition t) 0 ↔
        isForked ({ ChainConfig.allForksAt 1 0 with
          homesteadBlock := some (-1), eip150Block := some (2 ^ 64) }.forkBlock t.gatingFork) 0) :=
  ⟨_, rfl, by decide⟩

section

variable (pp : ProtocolParams) {network : String} {genesis : Genesis} {bootnodes : List String}
  {order : RangeOrder genesis.alloc} {spec : ParityChainSpec}

/-- A field other than EIP-160's whose gating fork is scheduled at a block that
`Uint64()` keeps holds that block, so the feature is active exactly from it. -/
theorem transition_active_iff_scheduled
    (h : newParityChainSpec pp network genesis bootnodes order = .ok spec)
    {t : Transition} (ht : t ≠ .eip160) {b : Int} (hb : genesis.config.forkBlock t.gatingFork = some b)
    (h0 : 0 ≤ b) (h64 : b < 2 ^ 64) (n : Nat) :
    ((spec.transition t).toNat : Int) = b ∧
      (isActive (spec.transition t) n ↔ isForked (genesis.config.forkBlock t.gatingFork) n) := by
  have hfield : ((spec.transition t).toNat : Int) = b := by
    rw [newParityChainSpec_transition pp h, ← gatingFork_eq_source ht, hb]
    exact uint64Of_toNat_of_lt h0 h64
  refine ⟨hfield, ?_⟩
  rw [hb, isForked_some, isActive]
  omega

end

/-- With every fork at block 5, the EIP-150 field holds 5, and at block 4 neither the
feature nor its fork is active. -/
theorem transition_active_iff_scheduled_at_block_five :
    ∃ spec, newParityChainSpec default "" (.ofConfig (.allForksAt 1 5) ∅) [] .nil = .ok spec ∧
      ((spec.transition .eip150).toNat : Int) = 5 ∧
      (isActive (spec.transition .eip150) 4 ↔ isForked (some 5) 4) := by
  refine ⟨_, rfl, ?_⟩
  exact @transition_active_iff_scheduled default "" (.ofConfig (.allForksAt 1 5) ∅) [] .nil _ rfl
    .eip150 (by decide) 5 rfl (by decide) (by decide) 4

end PuppethGenesis
