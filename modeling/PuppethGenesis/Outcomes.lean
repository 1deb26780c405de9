import PuppethGenesis.Dialects.Aleth
import PuppethGenesis.Dialects.Parity

/-!
# How the builders end

A builder returns a document, returns an error, or panics on a `nil` pointer. Each
outcome is read off the input here, in the order the builder makes its checks, and
each builder is shown to end exactly as its outcome says.
-/

namespace PuppethGenesis

/-- How `newAlethGenesisSpec` ends: `none` when it returns a document. -/
def alethOutcome (config : ChainConfig) : Option Fault :=
  if config.ethash.isNone then some (.error "unsupported consensus engine")
  else if config.chainID.isNone then some .panic
  else if config.istanbulBlock.isSome && config.byzantiumBlock.isNone then
    some (.error "invalid genesis, istanbul fork is enabled while byzantium is not")
  else none

/-- How `newParityChainSpec` ends: the engine check, then a panic on a `nil` fork
block, chain id or balance that it reads, then the Istanbul check. -/
def parityOutcome (genesis : Genesis) : Option Fault :=
  let config := genesis.config
  if config.ethash.isNone then some (.error "unsupported consensus engine")
  else if config.homesteadBlock.isNone || config.eip150Block.isNone || config.eip155Block.isNone ||
      config.eip158Block.isNone || config.chainID.isNone ||
      !genesis.alloc.all fun _ account => account.balance.isSome then some .panic
  else if config.istanbulBlock.isSome && config.byzantiumBlock.isNone then
    some (.error "invalid genesis, istanbul fork is enabled while byzantium is not")
  else none

section

variable (pp : ProtocolParams) (network : String) (genesis : Genesis) (bootnodes : List String)
  (order : RangeOrder genesis.alloc)

/-- Format A fails exactly as `alethOutcome` says, and otherwise returns a document. -/
theorem aleth_outcome (f : Fault) :
    newAlethGenesisSpec pp network genesis order = .error f ↔ alethOutcome genesis.config = some f := by
  unfold newAlethGenesisSpec alethOutcome
  cases he : genesis.config.ethash <;> cases hc : genesis.config.chainID <;>
    cases hb : genesis.config.byzantiumBlock <;> cases hi : genesis.config.istanbulBlock <;>
    simp [he, hc, hb, hi, bind, Except.bind, throw, throwThe, MonadExceptOf.throw, pure, Except.pure,
      eq_comm]

/-- A Format B run that fails has failed as `parityOutcome` says. -/
theorem newParityChainSpec_error {e : Fault}
    (h : newParityChainSpec pp network genesis bootnodes order = .error e) :
    parityOutcome genesis = some e := by
  unfold newParityChainSpec at h
  cases he : genesis.config.ethash with
  | none =>
    simp [he, throw, throwThe, MonadExceptOf.throw, bind, Except.bind] at h
    simp [parityOutcome, he, h]
  | some _ =>
    simp only [he, Option.isNone_some, Bool.false_eq_true, if_false, bind_eq_error, bigUint64_eq_error,
      bigUint64_eq_ok, pure_eq_ok, reduceCtorEq, false_or, Except.ok.injEq, true_and, exists_const] at h
    rcases h with ⟨hh, rfl⟩ | ⟨_, ⟨_, hh, rfl⟩, ⟨h150, rfl⟩ | ⟨_, ⟨_, h150, rfl⟩, ⟨h155, rfl⟩ |
      ⟨_, ⟨_, h155, rfl⟩, ⟨h158, rfl⟩ | ⟨_, ⟨_, h158, rfl⟩, ⟨hc, rfl⟩ | ⟨_, ⟨_, hc, rfl⟩, ha | ⟨_, ha, h⟩⟩⟩⟩⟩⟩
    · simp [parityOutcome, he, hh]
    · simp [parityOutcome, he, h150]
    · simp [parityOutcome, he, h155]
    · simp [parityOutcome, he, h158]
    · simp [parityOutcome, he, hc]
    · rw [parityAllocAccounts_eq] at ha
      split at ha
      · cases ha
      · next hall =>
        cases ha
        simp [parityOutcome, he, ← order.all_visit, hall]
    · rw [parityAllocAccounts_eq] at ha
      split at ha
      · next hall =>
        cases hi : genesis.config.istanbulBlock <;> cases hb : genesis.config.byzantiumBlock <;>
          simp [hi, hb, pure, Except.pure, throw, throwThe, MonadExceptOf.throw] at h
        simp [parityOutcome, he, hh, h150, h155, h158, hc, ← order.all_visit, hall, hi, hb, h]
      · cases ha

/-- A Format B run that returns a document has no outcome to report. -/
theorem parityOutcome_of_ok {spec : ParityChainSpec}
    (h : newParityChainSpec pp network genesis bootnodes order = .ok spec) : parityOutcome genesis = none := by
  obtain ⟨he, hib, _, _, _, _, _, _, hh, h150, h155, h158, hc, ha, -⟩ := newParityChainSpec_ok pp h
  rw [parityAllocAccounts_eq] at ha
  split at ha
  · next hall =>
    have hfunded : genesis.alloc.all (fun _ account => account.balance.isSome) = true := by
      rw [← order.all_visit]
      exact hall
    obtain ⟨_, he⟩ := Option.isSome_iff_exists.mp he
    cases hi : genesis.config.istanbulBlock <;> cases hb : genesis.config.byzantiumBlock <;>
      simp only [hi, hb, Option.isSome_some, Option.isSome_none, true_implies, Bool.false_eq_true] at hib <;>
      simp [parityOutcome, he, hh, h150, h155, h158, hc, hfunded, hi, hb]
  · cases ha

/-- Format B fails exactly as `parityOutcome` says, and otherwise returns a document. -/
theorem parity_outcome (f : Fault) :
    newParityChainSpec pp network genesis bootnodes order = .error f ↔ parityOutcome genesis = some f := by
  refine ⟨newParityChainSpec_error pp network genesis bootnodes order, fun hf => ?_⟩
  cases h : newParityChainSpec pp network genesis bootnodes order with
  | error e =>
    rw [newParityChainSpec_error pp network genesis bootnodes order h] at hf
    cases hf
    rfl
  | ok spec =>
    rw [parityOutcome_of_ok pp network genesis bootnodes order h] at hf
    cases hf

end

/-- Without a Homestead block, Format B panics where Format A returns a document. -/
theorem parity_panics_without_homestead :
    newParityChainSpec default ""
        (.ofConfig { ChainConfig.allForksAt 1 0 with homesteadBlock := none } ∅) [] .nil = .error .panic ∧
      ∃ spec, newAlethGenesisSpec default ""
        (.ofConfig { ChainConfig.allForksAt 1 0 with homesteadBlock := none } ∅) .nil = .ok spec :=
  ⟨rfl, _, rfl⟩

end PuppethGenesis
