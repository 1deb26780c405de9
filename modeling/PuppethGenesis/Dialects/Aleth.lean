import PuppethGenesis.Core.AccountTable

/-!
# Format A: the Aleth chain specification

`alethGenesisSpec` and `newAlethGenesisSpec`. The builder checks the engine,
copies the fork blocks and the header, writes the allocation, then installs the
precompiles in three phases: four always, four more at the Byzantium block, and
at the Istanbul block two replacements and one new contract.

An allocation write sets an account's balance and nonce and a precompile call its
definition, so the two kinds of write commute: the document does not depend on
how they interleave (`aleth_writes_interleave`).
-/

namespace PuppethGenesis

/-- `alethGenesisSpecLinearPricing`. -/
structure AlethGenesisSpecLinearPricing where
  base : UInt64 := 0
  word : UInt64 := 0
  deriving DecidableEq, Repr

/-- `alethGenesisSpecBuiltin`, a precompiled contract definition. -/
structure AlethGenesisSpecBuiltin where
  name : String := ""
  startingBlock : Option Int := none
  linear : Option AlethGenesisSpecLinearPricing := none
  deriving DecidableEq, Repr

/-- `alethGenesisSpecAccount`: a prefunded account, a precompile, or both. -/
structure AlethGenesisSpecAccount where
  balance : Option Nat := none
  nonce : UInt64 := 0
  precompiled : Option AlethGenesisSpecBuiltin := none
  deriving DecidableEq, Repr

/-- The `params` object of a Format A document. -/
structure AlethGenesisSpecParams where
  accountStartNonce : UInt64
  maximumExtraDataSize : UInt64
  homesteadForkBlock : Option Int
  daoHardforkBlock : UInt64
  eip150ForkBlock : Option Int
  eip158ForkBlock : Option Int
  byzantiumForkBlock : Option Int
  constantinopleForkBlock : Option Int
  constantinopleFixForkBlock : Option Int
  istanbulForkBlock : Option Int
  minGasLimit : UInt64
  maxGasLimit : UInt64
  tieBreakingGas : Bool
  gasLimitBoundDivisor : UInt64
  minimumDifficulty : Int
  difficultyBoundDivisor : Int
  durationLimit : Int
  blockReward : Int
  networkID : UInt64
  chainID : UInt64
  allowFutureBlocks : Bool
  deriving DecidableEq, Repr

/-- The `genesis` object of a Format A document. -/
structure AlethGenesisSpecGenesis where
  nonce : BlockNonce
  difficulty : Option Int
  mixHash : Hash
  author : Address
  timestamp : UInt64
  parentHash : Hash
  extraData : Bytes
  gasLimit : UInt64
  deriving DecidableEq, Repr

/-- `alethGenesisSpec`. -/
structure AlethGenesisSpec where
  sealEngine : String
  params : AlethGenesisSpecParams
  genesis : AlethGenesisSpecGenesis
  accounts : AccountTable AlethGenesisSpecAccount

/-- One write to a Format A account table: an allocation entry, or a
`setPrecompile` call. -/
inductive AlethAccountWrite
  | account (e : Σ _ : Address, GenesisAccount)
  | precompile (u : UInt8 × AlethGenesisSpecBuiltin)

namespace AlethAccountWrite

def account? : AlethAccountWrite → Option (Σ _ : Address, GenesisAccount)
  | account e => some e
  | precompile _ => none

def precompile? : AlethAccountWrite → Option (UInt8 × AlethGenesisSpecBuiltin)
  | account _ => none
  | precompile u => some u

end AlethAccountWrite

namespace AlethGenesisSpec

/-- The write `setPrecompile` makes to an account. -/
def withPrecompiled (a : AlethGenesisSpecAccount) (data : AlethGenesisSpecBuiltin) :
    AlethGenesisSpecAccount :=
  { a with precompiled := some data }

def setPrecompile (spec : AlethGenesisSpec) (address : UInt8) (data : AlethGenesisSpecBuiltin) :
    AlethGenesisSpec :=
  { spec with
    accounts := upsert {} (withPrecompiled · data) (bytesToAddress address) spec.accounts }

/-- The write `setAccount` makes to the account at a visited address. -/
def withAllocation (account : GenesisAccount) (old : Option AlethGenesisSpecAccount) :
    AlethGenesisSpecAccount :=
  { old.getD {} with balance := account.balance, nonce := account.nonce }

def setAccount (spec : AlethGenesisSpec) (address : Address) (account : GenesisAccount) :
    AlethGenesisSpec :=
  { spec with accounts := spec.accounts.insert address (withAllocation account (spec.accounts.lookup address)) }

/-- Consecutive `spec.setPrecompile(address, data)` statements, in order. -/
def setPrecompiles (spec : AlethGenesisSpec) (ups : List (UInt8 × AlethGenesisSpecBuiltin)) :
    AlethGenesisSpec :=
  ups.foldl (fun spec u => spec.setPrecompile u.1 u.2) spec

theorem setPrecompiles_append (spec : AlethGenesisSpec) (l₁ l₂ : List (UInt8 × AlethGenesisSpecBuiltin)) :
    spec.setPrecompiles (l₁ ++ l₂) = (spec.setPrecompiles l₁).setPrecompiles l₂ :=
  List.foldl_append _ _ _ _

theorem setPrecompiles_eq (spec : AlethGenesisSpec) (ups : List (UInt8 × AlethGenesisSpecBuiltin)) :
    spec.setPrecompiles ups =
      { spec with accounts := PuppethGenesis.setPrecompiles {} withPrecompiled ups spec.accounts } := by
  induction ups generalizing spec with
  | nil => rfl
  | cons u ups ih => exact ih _

/-- The `range` over the allocation. -/
def setAccounts (spec : AlethGenesisSpec) (visit : List (Σ _ : Address, GenesisAccount)) :
    AlethGenesisSpec :=
  visit.foldl (fun spec e => spec.setAccount e.1 e.2) spec

theorem setAccounts_eq (spec : AlethGenesisSpec) (visit : List (Σ _ : Address, GenesisAccount)) :
    spec.setAccounts visit = { spec with accounts := writeEach withAllocation visit spec.accounts } := by
  induction visit generalizing spec with
  | nil => rfl
  | cons e visit ih => exact ih _

theorem withPrecompiled_withPrecompiled (a : AlethGenesisSpecAccount) (d d' : AlethGenesisSpecBuiltin) :
    withPrecompiled (withPrecompiled a d) d' = withPrecompiled a d' := rfl

/-! ### Interleaving the two kinds of write -/

def write (spec : AlethGenesisSpec) : AlethAccountWrite → AlethGenesisSpec
  | .account e => spec.setAccount e.1 e.2
  | .precompile u => spec.setPrecompile u.1 u.2

theorem lookup_setAccount (spec : AlethGenesisSpec) (address : Address) (account : GenesisAccount)
    (x : Address) :
    (spec.setAccount address account).accounts.lookup x =
      if x = address then some (withAllocation account (spec.accounts.lookup x))
      else spec.accounts.lookup x := by
  split_ifs with h
  · subst h
    exact Finmap.lookup_insert _
  · exact Finmap.lookup_insert_of_ne _ h

theorem lookup_setPrecompile (spec : AlethGenesisSpec) (address : UInt8) (data : AlethGenesisSpecBuiltin)
    (x : Address) :
    (spec.setPrecompile address data).accounts.lookup x =
      if x = bytesToAddress address then some (withPrecompiled ((spec.accounts.lookup x).getD {}) data)
      else spec.accounts.lookup x :=
  lookup_upsert _ _ _ _ _

/-- The two writes set disjoint fields, so they commute, at one address as at two. -/
theorem setAccount_setPrecompile (spec : AlethGenesisSpec) (address : Address)
    (account : GenesisAccount) (k : UInt8) (data : AlethGenesisSpecBuiltin) :
    (spec.setAccount address account).setPrecompile k data =
      (spec.setPrecompile k data).setAccount address account := by
  suffices h : ((spec.setAccount address account).setPrecompile k data).accounts =
      ((spec.setPrecompile k data).setAccount address account).accounts by
    cases spec
    exact congrArg (AlethGenesisSpec.mk _ _ _) h
  refine Finmap.ext_lookup fun x => ?_
  rw [lookup_setPrecompile, lookup_setAccount, lookup_setAccount, lookup_setPrecompile]
  split_ifs <;> rfl

theorem setAccounts_setPrecompile (spec : AlethGenesisSpec) (visit : List (Σ _ : Address, GenesisAccount))
    (k : UInt8) (data : AlethGenesisSpecBuiltin) :
    (spec.setPrecompile k data).setAccounts visit = (spec.setAccounts visit).setPrecompile k data := by
  induction visit generalizing spec with
  | nil => rfl
  | cons e visit ih =>
    rw [setAccounts, List.foldl_cons, ← setAccount_setPrecompile]
    exact ih _

/-- Any sequence of writes leaves what its allocation writes and then its
precompile calls leave, each kind kept in its own order. -/
theorem foldl_write (spec : AlethGenesisSpec) (ws : List AlethAccountWrite) :
    ws.foldl write spec =
      (spec.setAccounts (ws.filterMap AlethAccountWrite.account?)).setPrecompiles
        (ws.filterMap AlethAccountWrite.precompile?) := by
  induction ws generalizing spec with
  | nil => rfl
  | cons w ws ih =>
    cases w with
    | account e => exact ih _
    | precompile u =>
      rw [List.foldl_cons, ih, write, setAccounts_setPrecompile]
      rfl

end AlethGenesisSpec

/-! ## The precompile phases -/

def alethFrontierPrecompiles : List (UInt8 × AlethGenesisSpecBuiltin) :=
  [(1, { name := "ecrecover", linear := some { base := 3000 } }),
   (2, { name := "sha256", linear := some { base := 60, word := 12 } }),
   (3, { name := "ripemd160", linear := some { base := 600, word := 120 } }),
   (4, { name := "identity", linear := some { base := 15, word := 3 } })]

def alethByzantiumPrecompiles (byzantium : Int) : List (UInt8 × AlethGenesisSpecBuiltin) :=
  [(5, { name := "modexp", startingBlock := some byzantium }),
   (6, { name := "alt_bn128_G1_add", startingBlock := some byzantium,
         linear := some { base := 500 } }),
   (7, { name := "alt_bn128_G1_mul", startingBlock := some byzantium,
         linear := some { base := 40000 } }),
   (8, { name := "alt_bn128_pairing_product", startingBlock := some byzantium })]

/-- Aleth hardcodes the gas policy of the two repriced contracts. -/
def alethIstanbulPrecompiles (byzantium istanbul : Int) : List (UInt8 × AlethGenesisSpecBuiltin) :=
  [(6, { name := "alt_bn128_G1_add", startingBlock := some byzantium }),
   (7, { name := "alt_bn128_G1_mul", startingBlock := some byzantium }),
   (9, { name := "blake2_compression", startingBlock := some istanbul })]

@[simp] theorem alethFrontierPrecompiles_keys : alethFrontierPrecompiles.map Prod.fst = [1, 2, 3, 4] :=
  rfl

@[simp] theorem alethByzantiumPrecompiles_keys (byzantium : Int) :
    (alethByzantiumPrecompiles byzantium).map Prod.fst = [5, 6, 7, 8] := rfl

@[simp] theorem alethIstanbulPrecompiles_keys (byzantium istanbul : Int) :
    (alethIstanbulPrecompiles byzantium istanbul).map Prod.fst = [6, 7, 9] := rfl

/-- Every `setPrecompile` call of a successful run, in order. -/
def alethPrecompiles (config : ChainConfig) : List (UInt8 × AlethGenesisSpecBuiltin) :=
  alethFrontierPrecompiles ++ config.byzantiumBlock.elim [] alethByzantiumPrecompiles ++
    match config.istanbulBlock, config.byzantiumBlock with
    | some istanbul, some byzantium => alethIstanbulPrecompiles byzantium istanbul
    | _, _ => []

/-! ## The builder -/

section

variable (pp : ProtocolParams)

/-- Everything `newAlethGenesisSpec` writes before the allocation loop. -/
def alethGenesisSpecHeader (genesis : Genesis) (chainID : UInt64) : AlethGenesisSpec :=
  let config := genesis.config
  { sealEngine := "Ethash"
    params :=
      { accountStartNonce := 0
        tieBreakingGas := false
        allowFutureBlocks := false
        -- the DAO fork block is listed as 0; aleth syncs with ETC clients up to it
        daoHardforkBlock := 0
        homesteadForkBlock := config.homesteadBlock
        eip150ForkBlock := config.eip150Block
        eip158ForkBlock := config.eip158Block
        byzantiumForkBlock := config.byzantiumBlock
        constantinopleForkBlock := config.constantinopleBlock
        constantinopleFixForkBlock := config.petersburgBlock
        istanbulForkBlock := config.istanbulBlock
        networkID := chainID
        chainID := chainID
        maximumExtraDataSize := pp.maximumExtraDataSize
        minGasLimit := pp.minGasLimit
        maxGasLimit := maxInt64
        minimumDifficulty := pp.minimumDifficulty
        difficultyBoundDivisor := pp.difficultyBoundDivisor
        gasLimitBoundDivisor := pp.gasLimitBoundDivisor
        durationLimit := pp.durationLimit
        blockReward := pp.frontierBlockReward }
    genesis :=
      { nonce := encodeNonce genesis.nonce
        mixHash := genesis.mixhash
        difficulty := genesis.difficulty
        author := genesis.coinbase
        timestamp := genesis.timestamp
        parentHash := genesis.parentHash
        extraData := genesis.extraData
        gasLimit := genesis.gasLimit }
    accounts := ∅ }

/-- `newAlethGenesisSpec`; `network` is not read. -/
def newAlethGenesisSpec (_network : String) (genesis : Genesis) (order : RangeOrder genesis.alloc) :
    Except Fault AlethGenesisSpec := do
  let config := genesis.config
  if config.ethash.isNone then
    throw (.error "unsupported consensus engine")
  let chainID ← bigUint64 config.chainID
  let spec := alethGenesisSpecHeader pp genesis chainID
  let spec := spec.setAccounts order.visit
  let spec := spec.setPrecompiles alethFrontierPrecompiles
  let spec := match config.byzantiumBlock with
    | some num => spec.setPrecompiles (alethByzantiumPrecompiles num)
    | none => spec
  match config.istanbulBlock, config.byzantiumBlock with
  | none, _ => pure spec
  | some _, none => throw (.error "invalid genesis, istanbul fork is enabled while byzantium is not")
  | some istanbul, some byzantium =>
    pure (spec.setPrecompiles (alethIstanbulPrecompiles byzantium istanbul))

/-- A successful run: the engine is Ethash, Istanbul comes with Byzantium, the
chain id is set, and the document is the header, then the allocation, then every
precompile phase. -/
theorem newAlethGenesisSpec_ok {network : String} {genesis : Genesis}
    {order : RangeOrder genesis.alloc} {spec : AlethGenesisSpec}
    (h : newAlethGenesisSpec pp network genesis order = .ok spec) :
    genesis.config.ethash.isSome ∧
      (genesis.config.istanbulBlock.isSome → genesis.config.byzantiumBlock.isSome) ∧
      ∃ c, genesis.config.chainID = some c ∧
        spec = ((alethGenesisSpecHeader pp genesis (uint64Of c)).setAccounts order.visit).setPrecompiles
          (alethPrecompiles genesis.config) := by
  unfold newAlethGenesisSpec at h
  cases he : genesis.config.ethash <;> cases hc : genesis.config.chainID <;>
    cases hb : genesis.config.byzantiumBlock <;> cases hi : genesis.config.istanbulBlock <;>
    simp_all [alethPrecompiles, AlethGenesisSpec.setPrecompiles_append, bind, Except.bind, throw,
      throwThe, MonadExceptOf.throw, pure, Except.pure]

/-- A successful run's document is what the header takes from any interleaving of
the allocation writes, in any order, with the precompile calls, in theirs. -/
theorem aleth_writes_interleave {network : String} {genesis : Genesis}
    {order : RangeOrder genesis.alloc} {spec : AlethGenesisSpec}
    (h : newAlethGenesisSpec pp network genesis order = .ok spec) (ws : List AlethAccountWrite)
    (hacc : (ws.filterMap AlethAccountWrite.account? : Multiset _) = genesis.alloc.entries)
    (hpre : ws.filterMap AlethAccountWrite.precompile? = alethPrecompiles genesis.config) :
    ∃ c, genesis.config.chainID = some c ∧
      spec = ws.foldl AlethGenesisSpec.write (alethGenesisSpecHeader pp genesis (uint64Of c)) := by
  obtain ⟨-, -, c, hc, rfl⟩ := newAlethGenesisSpec_ok pp h
  refine ⟨c, hc, ?_⟩
  rw [AlethGenesisSpec.foldl_write, hpre, AlethGenesisSpec.setAccounts_eq,
    AlethGenesisSpec.setAccounts_eq, writeEach_visit_eq _ order ⟨_, hacc⟩]

end

/-- The precompiles first and the allocated account at `0x05` last. -/
theorem aleth_writes_interleave_allocation_last :
    let genesis :=
      Genesis.ofConfig (.allForksAt 1 0) (.singleton (bytesToAddress 5) { balance := some 1 })
    let ws := (alethPrecompiles genesis.config).map .precompile ++
      [.account ⟨bytesToAddress 5, { balance := some 1 }⟩]
    ∃ spec, newAlethGenesisSpec default "" genesis (.singleton _ _) = .ok spec ∧
      ∃ c, genesis.config.chainID = some c ∧
        spec = ws.foldl AlethGenesisSpec.write (alethGenesisSpecHeader default genesis (uint64Of c)) := by
  intro genesis ws
  refine ⟨_, rfl, ?_⟩
  exact @aleth_writes_interleave default "" genesis (.singleton _ _) _ rfl ws rfl rfl

end PuppethGenesis
