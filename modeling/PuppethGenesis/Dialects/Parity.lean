import PuppethGenesis.Core.AccountTable

/-!
# Format B: the Parity chain specification

`parityChainSpec` and `newParityChainSpec`. Every feature is its own transition
field, written from the fork that carries it; the reward and difficulty-bomb
schedules are maps keyed by block number. Pointers that the builder always sets
are modelled by their values, and fields start at their Go zero values, as the
builder fills them in one statement after another.
-/

namespace PuppethGenesis

/-- A `map[string]string` keyed by `common.EncodeBig(block)`. The encoding is
injective and the consumer decodes it, so the model keys it by the block. -/
abbrev BlockMap (α : Type) := Finmap fun _ : Int => α

/-- The `engine.Ethash.params` object. -/
structure ParityChainSpecEthashParams where
  minimumDifficulty : Int := 0
  difficultyBoundDivisor : Int := 0
  durationLimit : Int := 0
  blockReward : BlockMap Int := ∅
  difficultyBombDelays : BlockMap Nat := ∅
  homesteadTransition : UInt64 := 0
  eip100bTransition : UInt64 := 0

/-- The `params` object. -/
structure ParityChainSpecParams where
  accountStartNonce : UInt64 := 0
  maximumExtraDataSize : UInt64 := 0
  minGasLimit : UInt64 := 0
  gasLimitBoundDivisor : UInt64 := 0
  networkID : UInt64 := 0
  chainID : UInt64 := 0
  maxCodeSize : UInt64 := 0
  maxCodeSizeTransition : UInt64 := 0
  eip98Transition : UInt64 := 0
  eip150Transition : UInt64 := 0
  eip160Transition : UInt64 := 0
  eip161abcTransition : UInt64 := 0
  eip161dTransition : UInt64 := 0
  eip155Transition : UInt64 := 0
  eip140Transition : UInt64 := 0
  eip211Transition : UInt64 := 0
  eip214Transition : UInt64 := 0
  eip658Transition : UInt64 := 0
  eip145Transition : UInt64 := 0
  eip1014Transition : UInt64 := 0
  eip1052Transition : UInt64 := 0
  eip1283Transition : UInt64 := 0
  eip1283DisableTransition : UInt64 := 0
  eip1283ReenableTransition : UInt64 := 0
  eip1344Transition : UInt64 := 0
  eip1884Transition : UInt64 := 0
  eip2028Transition : UInt64 := 0
  deriving DecidableEq, Repr

/-- The `genesis` object; `seal.ethereum` holds the nonce and the mix hash's bytes. -/
structure ParityChainSpecGenesis where
  nonce : BlockNonce := ⟨0⟩
  mixHash : Hash := 0
  difficulty : Option Int := none
  author : Address := 0
  timestamp : UInt64 := 0
  parentHash : Hash := 0
  extraData : Bytes := []
  gasLimit : UInt64 := 0
  deriving DecidableEq, Repr

structure ParityChainSpecLinearPricing where
  base : UInt64 := 0
  word : UInt64 := 0
  deriving DecidableEq, Repr

structure ParityChainSpecModExpPricing where
  divisor : UInt64 := 0
  deriving DecidableEq, Repr

/-- The price of an `alt_bn128` constant operation after Istanbul. -/
structure ParityChainSpecAltBnConstOperationPricing where
  price : UInt64 := 0
  deriving DecidableEq, Repr

structure ParityChainSepcAltBnPairingPricing where
  base : UInt64 := 0
  pair : UInt64 := 0
  deriving DecidableEq, Repr

structure ParityChainSpecBlakePricing where
  gasPerRound : UInt64 := 0
  deriving DecidableEq, Repr

/-- `parityChainSpecPricing`, the single-rule pricing of a builtin. -/
structure ParityChainSpecPricing where
  linear : Option ParityChainSpecLinearPricing := none
  modExp : Option ParityChainSpecModExpPricing := none
  altBnPairing : Option ParityChainSepcAltBnPairingPricing := none
  blake2F : Option ParityChainSpecBlakePricing := none
  deriving DecidableEq, Repr

structure ParityChainSpecAlternativePrice where
  altBnConstOperationPrice : Option ParityChainSpecAltBnConstOperationPricing := none
  altBnPairingPrice : Option ParityChainSepcAltBnPairingPricing := none
  deriving DecidableEq, Repr

/-- A single version of a price policy. -/
structure ParityChainSpecVersionedPricing where
  price : Option ParityChainSpecAlternativePrice := none
  info : String := ""
  deriving DecidableEq, Repr

/-- The `Pricing interface{}` of a builtin, as the builder fills it: a
`*parityChainSpecPricing`, or a `map[*common.Big]*parityChainSpecVersionedPricing`.
That map is keyed by pointers, so its entries are listed with the blocks they point
to, and two of them may carry the same block. -/
inductive ParityBuiltinPricing
  | pricing (p : ParityChainSpecPricing)
  | versioned (table : List (Int × ParityChainSpecVersionedPricing))
  deriving DecidableEq, Repr

/-- `parityChainSpecBuiltin`, a precompiled contract definition. -/
structure ParityChainSpecBuiltin where
  name : String
  pricing : ParityBuiltinPricing
  activateAt : Option Int := none
  deriving DecidableEq, Repr

/-- `parityChainSpecAccount`: a prefunded account, a builtin, or both. -/
structure ParityChainSpecAccount where
  balance : Nat := 0
  nonce : UInt64 := 0
  builtin : Option ParityChainSpecBuiltin := none
  deriving DecidableEq, Repr

/-- `parityChainSpec`; `dataDir`, the lower-cased network name, is not modelled. -/
structure ParityChainSpec where
  name : String := ""
  datadir : String := ""
  engine : ParityChainSpecEthashParams := {}
  params : ParityChainSpecParams := {}
  genesis : ParityChainSpecGenesis := {}
  nodes : List String := []
  accounts : AccountTable ParityChainSpecAccount := ∅

namespace ParityChainSpec

variable (pp : ProtocolParams)

/-- The write `setPrecompile` makes to an account. -/
def withBuiltin (a : ParityChainSpecAccount) (data : ParityChainSpecBuiltin) :
    ParityChainSpecAccount :=
  { a with builtin := some data }

def setPrecompile (spec : ParityChainSpec) (address : UInt8) (data : ParityChainSpecBuiltin) :
    ParityChainSpec :=
  { spec with accounts := upsert {} (withBuiltin · data) (bytesToAddress address) spec.accounts }

/-- Consecutive `spec.setPrecompile(address, data)` statements, in order. -/
def setPrecompiles (spec : ParityChainSpec) (ups : List (UInt8 × ParityChainSpecBuiltin)) :
    ParityChainSpec :=
  ups.foldl (fun spec u => spec.setPrecompile u.1 u.2) spec

theorem setPrecompiles_append (spec : ParityChainSpec) (l₁ l₂ : List (UInt8 × ParityChainSpecBuiltin)) :
    spec.setPrecompiles (l₁ ++ l₂) = (spec.setPrecompiles l₁).setPrecompiles l₂ :=
  List.foldl_append _ _ _ _

theorem setPrecompiles_eq (spec : ParityChainSpec) (ups : List (UInt8 × ParityChainSpecBuiltin)) :
    spec.setPrecompiles ups =
      { spec with accounts := PuppethGenesis.setPrecompiles {} withBuiltin ups spec.accounts } := by
  induction ups generalizing spec with
  | nil => rfl
  | cons u ups ih => exact ih _

theorem withBuiltin_withBuiltin (a : ParityChainSpecAccount) (d d' : ParityChainSpecBuiltin) :
    withBuiltin (withBuiltin a d) d' = withBuiltin a d' := rfl

/-- The statements under the source's `// Frontier` comment. -/
def setFrontier (spec : ParityChainSpec) : ParityChainSpec :=
  { spec with
    engine.minimumDifficulty := pp.minimumDifficulty
    engine.difficultyBoundDivisor := pp.difficultyBoundDivisor
    engine.durationLimit := pp.durationLimit
    engine.blockReward := spec.engine.blockReward.insert 0 pp.frontierBlockReward }

/-- The statement under `// Homestead`. -/
def setHomestead (spec : ParityChainSpec) (homestead : UInt64) : ParityChainSpec :=
  { spec with engine.homesteadTransition := homestead }

/-- The statement under `// Tangerine Whistle : 150`. -/
def setTangerineWhistle (spec : ParityChainSpec) (eip150 : UInt64) : ParityChainSpec :=
  { spec with params.eip150Transition := eip150 }

/-- The statements under `// Spurious Dragon: 155, 160, 161, 170`; the source
writes EIP-155's block into `EIP160Transition` too. -/
def setSpuriousDragon (spec : ParityChainSpec) (eip155 eip158 : UInt64) : ParityChainSpec :=
  { spec with
    params.eip155Transition := eip155
    params.eip160Transition := eip155
    params.eip161abcTransition := eip158
    params.eip161dTransition := eip158 }

def setByzantium (spec : ParityChainSpec) (num : Int) : ParityChainSpec :=
  let n := uint64Of num
  { spec with
    engine.blockReward := spec.engine.blockReward.insert num pp.byzantiumBlockReward
    engine.difficultyBombDelays := spec.engine.difficultyBombDelays.insert num 3000000
    engine.eip100bTransition := n
    params.eip140Transition := n
    params.eip211Transition := n
    params.eip214Transition := n
    params.eip658Transition := n }

def setConstantinople (spec : ParityChainSpec) (num : Int) : ParityChainSpec :=
  let n := uint64Of num
  { spec with
    engine.blockReward := spec.engine.blockReward.insert num pp.constantinopleBlockReward
    engine.difficultyBombDelays := spec.engine.difficultyBombDelays.insert num 2000000
    params.eip145Transition := n
    params.eip1014Transition := n
    params.eip1052Transition := n
    params.eip1283Transition := n }

def setConstantinopleFix (spec : ParityChainSpec) (num : Int) : ParityChainSpec :=
  { spec with params.eip1283DisableTransition := uint64Of num }

def setIstanbul (spec : ParityChainSpec) (num : Int) : ParityChainSpec :=
  { spec with
    params.eip1344Transition := uint64Of num
    params.eip1884Transition := uint64Of num
    params.eip2028Transition := uint64Of num
    params.eip1283ReenableTransition := uint64Of num }

/-- The constants and chain id written after the fork setters. -/
def setChainParams (spec : ParityChainSpec) (chainID : UInt64) : ParityChainSpec :=
  { spec with
    params.maximumExtraDataSize := pp.maximumExtraDataSize
    params.minGasLimit := pp.minGasLimit
    params.gasLimitBoundDivisor := pp.gasLimitBoundDivisor
    params.networkID := chainID
    params.chainID := chainID
    params.maxCodeSize := pp.maxCodeSize
    -- geth has it set from zero
    params.maxCodeSizeTransition := 0
    -- disable this one
    params.eip98Transition := maxInt64 }

/-- The `genesis` object, copied from the header. -/
def setGenesis (spec : ParityChainSpec) (genesis : Genesis) : ParityChainSpec :=
  { spec with
    genesis :=
      { nonce := encodeNonce genesis.nonce
        mixHash := genesis.mixhash
        difficulty := genesis.difficulty
        author := genesis.coinbase
        timestamp := genesis.timestamp
        parentHash := genesis.parentHash
        extraData := genesis.extraData
        gasLimit := genesis.gasLimit } }

/-- `if num := block; num != nil { set(num) }`. -/
def whenScheduled (spec : ParityChainSpec) (block : Option Int)
    (set : ParityChainSpec → Int → ParityChainSpec) : ParityChainSpec :=
  match block with
  | some num => set spec num
  | none => spec

@[simp] theorem whenScheduled_some (spec : ParityChainSpec) (num : Int)
    (set : ParityChainSpec → Int → ParityChainSpec) : spec.whenScheduled (some num) set = set spec num :=
  rfl

@[simp] theorem whenScheduled_none (spec : ParityChainSpec)
    (set : ParityChainSpec → Int → ParityChainSpec) : spec.whenScheduled none set = spec :=
  rfl

end ParityChainSpec

/-- The account the allocation loop writes for a visited entry with balance `bal`. -/
def parityAllocAccount (account : GenesisAccount) (bal : Nat) : ParityChainSpecAccount :=
  { balance := bal, nonce := account.nonce }

/-- `spec.Accounts = make(...)` and the `range` over the allocation, which
dereferences every balance. -/
def parityAllocAccounts (visit : List (Σ _ : Address, GenesisAccount)) :
    Except Fault (AccountTable ParityChainSpecAccount) :=
  visit.foldlM (fun accounts e => do
    let bal ← deref e.2.balance
    pure (accounts.insert e.1 (parityAllocAccount e.2 bal))) ∅

/-- The write of the allocation loop once the balance is known to be present. -/
def parityAllocEntry (account : GenesisAccount) (_ : Option ParityChainSpecAccount) :
    ParityChainSpecAccount :=
  parityAllocAccount account (account.balance.getD 0)

/-- The loop panics exactly when some visited balance is `nil`, and otherwise
writes each entry once. -/
theorem foldlM_parityAlloc (visit : List (Σ _ : Address, GenesisAccount))
    (t : AccountTable ParityChainSpecAccount) :
    visit.foldlM (fun accounts e => do
        let bal ← deref e.2.balance
        pure (accounts.insert e.1 (parityAllocAccount e.2 bal))) t =
      if visit.all (·.2.balance.isSome) then .ok (writeEach parityAllocEntry visit t)
      else .error .panic := by
  induction visit generalizing t with
  | nil => rfl
  | cons e visit ih =>
    obtain ⟨a, account⟩ := e
    cases hb : account.balance with
    | none => simp [hb]
    | some b =>
      have step : (do
          let bal ← deref account.balance
          pure (t.insert a (parityAllocAccount account bal)) : Except Fault _) =
          .ok (t.insert a (parityAllocAccount account b)) := by simp [hb]
      rw [List.foldlM_cons, step, ok_bind, ih]
      simp [hb, writeEach, parityAllocEntry]

theorem parityAllocAccounts_eq (visit : List (Σ _ : Address, GenesisAccount)) :
    parityAllocAccounts visit =
      if visit.all (·.2.balance.isSome) then .ok (writeEach parityAllocEntry visit ∅)
      else .error .panic :=
  foldlM_parityAlloc visit ∅

/-- The loop's outcome does not depend on the order it visits the allocation in. -/
theorem parityAllocAccounts_visit_eq {alloc : GenesisAlloc} (o₁ o₂ : RangeOrder alloc) :
    parityAllocAccounts o₁.visit = parityAllocAccounts o₂.visit := by
  have hall : o₁.visit.all (·.2.balance.isSome) = o₂.visit.all (·.2.balance.isSome) :=
    Bool.eq_iff_iff.mpr (by simp only [List.all_eq_true, (o₁.perm o₂).mem_iff])
  rw [parityAllocAccounts_eq, parityAllocAccounts_eq, writeEach_visit_eq _ o₁ o₂, hall]

/-! ## The precompile phases -/

def parityFrontierPrecompiles : List (UInt8 × ParityChainSpecBuiltin) :=
  [(1, { name := "ecrecover", pricing := .pricing { linear := some { base := 3000 } } }),
   (2, { name := "sha256", pricing := .pricing { linear := some { base := 60, word := 12 } } }),
   (3, { name := "ripemd160",
         pricing := .pricing { linear := some { base := 600, word := 120 } } }),
   (4, { name := "identity", pricing := .pricing { linear := some { base := 15, word := 3 } } })]

def parityByzantiumPrecompiles (byzantium : Int) : List (UInt8 × ParityChainSpecBuiltin) :=
  [(5, { name := "modexp", activateAt := some byzantium,
         pricing := .pricing { modExp := some { divisor := 20 } } }),
   (6, { name := "alt_bn128_add", activateAt := some byzantium,
         pricing := .pricing { linear := some { base := 500, word := 0 } } }),
   (7, { name := "alt_bn128_mul", activateAt := some byzantium,
         pricing := .pricing { linear := some { base := 40000, word := 0 } } }),
   (8, { name := "alt_bn128_pairing", activateAt := some byzantium,
         pricing := .pricing { altBnPairing := some { base := 100000, pair := 80000 } } })]

/-- A versioned price table: the price before the fork at block `0`, the price
after it at the fork block. -/
def versionedPricing (istanbul : Int) (before after : ParityChainSpecAlternativePrice) :
    ParityBuiltinPricing :=
  .versioned [(0, { price := some before }), (istanbul, { price := some after })]

def parityIstanbulPrecompiles (byzantium istanbul : Int) : List (UInt8 × ParityChainSpecBuiltin) :=
  [(6, { name := "alt_bn128_add", activateAt := some byzantium,
         pricing := versionedPricing istanbul
           { altBnConstOperationPrice := some { price := 500 } }
           { altBnConstOperationPrice := some { price := 150 } } }),
   (7, { name := "alt_bn128_mul", activateAt := some byzantium,
         pricing := versionedPricing istanbul
           { altBnConstOperationPrice := some { price := 40000 } }
           { altBnConstOperationPrice := some { price := 6000 } } }),
   (8, { name := "alt_bn128_pairing", activateAt := some byzantium,
         pricing := versionedPricing istanbul
           { altBnPairingPrice := some { base := 100000, pair := 80000 } }
           { altBnPairingPrice := some { base := 45000, pair := 34000 } } }),
   (9, { name := "blake2_f", activateAt := some istanbul,
         pricing := .pricing { blake2F := some { gasPerRound := 1 } } })]

@[simp] theorem parityFrontierPrecompiles_keys : parityFrontierPrecompiles.map Prod.fst = [1, 2, 3, 4] :=
  rfl

@[simp] theorem parityByzantiumPrecompiles_keys (byzantium : Int) :
    (parityByzantiumPrecompiles byzantium).map Prod.fst = [5, 6, 7, 8] := rfl

@[simp] theorem parityIstanbulPrecompiles_keys (byzantium istanbul : Int) :
    (parityIstanbulPrecompiles byzantium istanbul).map Prod.fst = [6, 7, 8, 9] := rfl

/-- Every `setPrecompile` call of a successful run, in order. -/
def parityPrecompiles (config : ChainConfig) : List (UInt8 × ParityChainSpecBuiltin) :=
  parityFrontierPrecompiles ++ config.byzantiumBlock.elim [] parityByzantiumPrecompiles ++
    match config.istanbulBlock, config.byzantiumBlock with
    | some istanbul, some byzantium => parityIstanbulPrecompiles byzantium istanbul
    | _, _ => []

/-! ## The builder -/

section

variable (pp : ProtocolParams)

/-- `newParityChainSpec`; each `Uint64()` on a fork block or the chain id panics
when it is `nil`, and so does the loop on a `nil` balance. -/
def newParityChainSpec (network : String) (genesis : Genesis) (bootnodes : List String)
    (order : RangeOrder genesis.alloc) : Except Fault ParityChainSpec := do
  let config := genesis.config
  if config.ethash.isNone then
    throw (.error "unsupported consensus engine")
  let spec := ParityChainSpec.setFrontier pp
    { name := network, datadir := pp.toLower network, nodes := bootnodes }
  let spec := spec.setHomestead (← bigUint64 config.homesteadBlock)
  let spec := spec.setTangerineWhistle (← bigUint64 config.eip150Block)
  let spec := spec.setSpuriousDragon (← bigUint64 config.eip155Block) (← bigUint64 config.eip158Block)
  let spec := spec.whenScheduled config.byzantiumBlock (·.setByzantium pp)
  let spec := spec.whenScheduled config.constantinopleBlock (·.setConstantinople pp)
  let spec := spec.whenScheduled config.petersburgBlock (·.setConstantinopleFix)
  let spec := spec.whenScheduled config.istanbulBlock (·.setIstanbul)
  let spec := spec.setChainParams pp (← bigUint64 config.chainID)
  let spec := spec.setGenesis genesis
  let spec := { spec with accounts := ← parityAllocAccounts order.visit }
  let spec := spec.setPrecompiles parityFrontierPrecompiles
  let spec := spec.whenScheduled config.byzantiumBlock fun spec num =>
    spec.setPrecompiles (parityByzantiumPrecompiles num)
  match config.istanbulBlock, config.byzantiumBlock with
  | none, _ => pure spec
  | some _, none => throw (.error "invalid genesis, istanbul fork is enabled while byzantium is not")
  | some istanbul, some byzantium =>
    pure (spec.setPrecompiles (parityIstanbulPrecompiles byzantium istanbul))

/-- The document a run of `newParityChainSpec` returns once every read has
succeeded: the same statements, applied to the values read. -/
def parityChainSpecOf (network : String) (genesis : Genesis) (bootnodes : List String)
    (homestead eip150 eip155 eip158 chainID : UInt64)
    (accounts : AccountTable ParityChainSpecAccount) : ParityChainSpec :=
  let config := genesis.config
  let spec := ParityChainSpec.setFrontier pp
      { name := network, datadir := pp.toLower network, nodes := bootnodes }
    |>.setHomestead homestead |>.setTangerineWhistle eip150 |>.setSpuriousDragon eip155 eip158
    |>.whenScheduled config.byzantiumBlock (·.setByzantium pp)
    |>.whenScheduled config.constantinopleBlock (·.setConstantinople pp)
    |>.whenScheduled config.petersburgBlock (·.setConstantinopleFix)
    |>.whenScheduled config.istanbulBlock (·.setIstanbul)
    |>.setChainParams pp chainID |>.setGenesis genesis
  { spec with accounts := accounts }.setPrecompiles (parityPrecompiles config)

theorem parityChainSpecOf_accounts (network : String) (genesis : Genesis) (bootnodes : List String)
    (homestead eip150 eip155 eip158 chainID : UInt64) (accounts : AccountTable ParityChainSpecAccount) :
    (parityChainSpecOf pp network genesis bootnodes homestead eip150 eip155 eip158 chainID accounts).accounts =
      setPrecompiles {} ParityChainSpec.withBuiltin (parityPrecompiles genesis.config) accounts := by
  rw [parityChainSpecOf, ParityChainSpec.setPrecompiles_eq]

/-- A successful run: the engine is Ethash, Istanbul comes with Byzantium, every
fork block and the chain id that the builder reads are set, every balance is, and
the document is `parityChainSpecOf` of the values read. -/
theorem newParityChainSpec_ok {network : String} {genesis : Genesis} {bootnodes : List String}
    {order : RangeOrder genesis.alloc} {spec : ParityChainSpec}
    (h : newParityChainSpec pp network genesis bootnodes order = .ok spec) :
    genesis.config.ethash.isSome ∧
      (genesis.config.istanbulBlock.isSome → genesis.config.byzantiumBlock.isSome) ∧
      ∃ homestead eip150 eip155 eip158 chainID accounts,
        genesis.config.homesteadBlock = some homestead ∧ genesis.config.eip150Block = some eip150 ∧
        genesis.config.eip155Block = some eip155 ∧ genesis.config.eip158Block = some eip158 ∧
        genesis.config.chainID = some chainID ∧ parityAllocAccounts order.visit = .ok accounts ∧
        spec = parityChainSpecOf pp network genesis bootnodes (uint64Of homestead) (uint64Of eip150)
          (uint64Of eip155) (uint64Of eip158) (uint64Of chainID) accounts := by
  unfold newParityChainSpec at h
  cases he : genesis.config.ethash with
  | none => simp [he, throw, throwThe, MonadExceptOf.throw, bind, Except.bind] at h
  | some e =>
    simp only [he, Option.isNone_some, Bool.false_eq_true, if_false, bind_eq_ok,
      bigUint64_eq_ok] at h
    obtain ⟨_, -, _, ⟨homestead, hh, rfl⟩, _, ⟨eip150, h150, rfl⟩, _, ⟨eip155, h155, rfl⟩,
      _, ⟨eip158, h158, rfl⟩, _, ⟨chainID, hc, rfl⟩, accounts, ha, h⟩ := h
    refine ⟨rfl, ?_, homestead, eip150, eip155, eip158, chainID, accounts,
      hh, h150, h155, h158, hc, ha, ?_⟩ <;>
      cases hi : genesis.config.istanbulBlock <;> cases hb : genesis.config.byzantiumBlock <;>
      simp only [hi, hb, pure, Except.pure, throw, throwThe, MonadExceptOf.throw, Except.ok.injEq,
        reduceCtorEq] at h <;>
      simp [← h, parityChainSpecOf, parityPrecompiles, hi, hb, ParityChainSpec.setPrecompiles_append]

end

end PuppethGenesis
