import Mathlib.Data.Finmap

/-!
# The genesis model read by the chain-spec translators

The part of `core.Genesis` and `params.ChainConfig` that `cmd/puppeth/genesis.go`
reads. A `*big.Int` is an `Option Int` (`nil` is `none`), a Go map is a `Finmap`,
which has no order, and the order in which a `range` loop visits a map is an
argument of the translator (`RangeOrder`). Dereferencing `nil` is the fault
`Fault.panic`; it ends the call like a returned error, but with no message.
-/

namespace PuppethGenesis

/-- A 20-byte `common.Address`, read big-endian. -/
abbrev Address := BitVec 160

/-- A 32-byte `common.Hash`. -/
abbrev Hash := BitVec 256

abbrev Bytes := List UInt8

/-- `types.BlockNonce`, the 8-byte big-endian encoding made by `types.EncodeNonce`. -/
structure BlockNonce where
  value : UInt64
  deriving DecidableEq, Repr

def encodeNonce (n : UInt64) : BlockNonce := ⟨n⟩

/-- `common.BytesToAddress([]byte{b})`: the address whose last byte is `b`. -/
def bytesToAddress (b : UInt8) : Address := BitVec.ofNat 160 b.toNat

theorem bytesToAddress_injective : Function.Injective bytesToAddress := by
  intro a b h
  have ha := a.toNat_lt_size
  have hb := b.toNat_lt_size
  have h' := congrArg BitVec.toNat h
  simp only [bytesToAddress, BitVec.toNat_ofNat] at h'
  apply UInt8.toNat.inj
  simp only [UInt8.size] at ha hb
  omega

@[simp] theorem bytesToAddress_inj {a b : UInt8} : bytesToAddress a = bytesToAddress b ↔ a = b :=
  bytesToAddress_injective.eq_iff

/-! ## Faults -/

/-- How a translator call ends without a document: a returned `error`, or a
runtime panic from dereferencing a `nil` pointer. -/
inductive Fault
  | error (msg : String)
  | panic
  deriving DecidableEq, Repr

/-- Reading through a pointer, which panics on `nil`. -/
def deref {α : Type} : Option α → Except Fault α
  | some a => .ok a
  | none => .error .panic

@[simp] theorem ok_bind {ε α β : Type} (a : α) (f : α → Except ε β) :
    (Except.ok a >>= f) = f a := rfl

@[simp] theorem error_bind {ε α β : Type} (e : ε) (f : α → Except ε β) :
    (Except.error e >>= f) = Except.error e := rfl

@[simp] theorem pure_eq_ok {ε α : Type} (a : α) : (pure a : Except ε α) = .ok a := rfl

theorem bind_eq_ok {ε α β : Type} {x : Except ε α} {f : α → Except ε β} {b : β} :
    x >>= f = .ok b ↔ ∃ a, x = .ok a ∧ f a = .ok b := by
  cases x <;> simp [bind, Except.bind]

theorem bind_eq_error {ε α β : Type} {x : Except ε α} {f : α → Except ε β} {e : ε} :
    x >>= f = .error e ↔ x = .error e ∨ ∃ a, x = .ok a ∧ f a = .error e := by
  cases x <;> simp [bind, Except.bind]

@[simp] theorem deref_some {α : Type} (a : α) : deref (some a) = .ok a := rfl
@[simp] theorem deref_none {α : Type} : deref (none : Option α) = .error .panic := rfl

/-- `(*big.Int).Uint64` on a non-`nil` value: the low 64 bits of the magnitude. -/
def uint64Of (x : Int) : UInt64 := UInt64.ofNat x.natAbs

theorem uint64Of_toNat (x : Int) : (uint64Of x).toNat = x.natAbs % 2 ^ 64 := by
  simp [uint64Of, UInt64.toNat, UInt64.ofNat, BitVec.toNat_ofNat]

example : uint64Of (2 ^ 64 + 5) = 5 ∧ uint64Of (-3) = 3 := by decide

/-- A block in `[0, 2^64)` keeps its value through `Uint64`. -/
theorem uint64Of_toNat_of_lt {x : Int} (h0 : 0 ≤ x) (h : x < 2 ^ 64) :
    ((uint64Of x).toNat : Int) = x := by
  rw [uint64Of_toNat, Nat.mod_eq_of_lt (by omega)]
  omega

/-- `math.MaxInt64`, the largest `int64`. -/
def maxInt64 : UInt64 := 9223372036854775807

/-- `x.Uint64()` on a `*big.Int`, panicking on `nil`. -/
def bigUint64 (x : Option Int) : Except Fault UInt64 := (deref x).map uint64Of

@[simp] theorem bigUint64_some (x : Int) : bigUint64 (some x) = .ok (uint64Of x) := rfl
@[simp] theorem bigUint64_none : bigUint64 none = .error .panic := rfl

theorem bigUint64_eq_ok {x : Option Int} {v : UInt64} :
    bigUint64 x = .ok v ↔ ∃ b, x = some b ∧ uint64Of b = v := by
  cases x <;> simp [Except.ok.injEq]

theorem bigUint64_eq_error {x : Option Int} {e : Fault} :
    bigUint64 x = .error e ↔ x = none ∧ e = .panic := by
  cases x <;> simp [eq_comm]

/-! ## The canonical genesis model -/

/-- `params.EthashConfig`: only whether it is present is read. -/
structure EthashConfig where
  deriving DecidableEq, Repr

/-- The fields of `params.ChainConfig` that the translators read. A fork block
that is `none` is a fork not scheduled. -/
structure ChainConfig where
  chainID : Option Int
  homesteadBlock : Option Int
  eip150Block : Option Int
  eip155Block : Option Int
  eip158Block : Option Int
  byzantiumBlock : Option Int
  constantinopleBlock : Option Int
  petersburgBlock : Option Int
  istanbulBlock : Option Int
  ethash : Option EthashConfig
  deriving DecidableEq, Repr

/-- The forks of `params.ChainConfig` that the translators read. -/
inductive Fork
  | homestead | eip150 | eip155 | eip158 | byzantium | constantinople | petersburg | istanbul
  deriving DecidableEq, Repr

/-- The block at which a configuration schedules a fork. -/
def ChainConfig.forkBlock (config : ChainConfig) : Fork → Option Int
  | .homestead => config.homesteadBlock
  | .eip150 => config.eip150Block
  | .eip155 => config.eip155Block
  | .eip158 => config.eip158Block
  | .byzantium => config.byzantiumBlock
  | .constantinople => config.constantinopleBlock
  | .petersburg => config.petersburgBlock
  | .istanbul => config.istanbulBlock

/-- `core.GenesisAccount`, each field at its Go zero value by default. The balance
is a `*big.Int` that the genesis decoder requires but Go code may leave `nil`. -/
structure GenesisAccount where
  code : Bytes := []
  storage : Finmap (fun _ : Hash => Hash) := ∅
  balance : Option Nat := none
  nonce : UInt64 := 0
  privateKey : Bytes := []
  deriving DecidableEq

/-- `core.GenesisAlloc`, a Go map from address to account. -/
abbrev GenesisAlloc := Finmap fun _ : Address => GenesisAccount

/-- `core.Genesis`, the fields the translators read. -/
structure Genesis where
  config : ChainConfig
  nonce : UInt64
  timestamp : UInt64
  extraData : Bytes
  gasLimit : UInt64
  difficulty : Option Int
  mixhash : Hash
  coinbase : Address
  alloc : GenesisAlloc
  parentHash : Hash

/-- A configuration that schedules every fork at block `b`, as development chains do. -/
def ChainConfig.allForksAt (chainID b : Int) : ChainConfig :=
  { chainID := some chainID, homesteadBlock := some b, eip150Block := some b,
    eip155Block := some b, eip158Block := some b, byzantiumBlock := some b,
    constantinopleBlock := some b, petersburgBlock := some b, istanbulBlock := some b,
    ethash := some ⟨⟩ }

/-- A genesis with the given configuration and allocation and a zero header. -/
def Genesis.ofConfig (config : ChainConfig) (alloc : GenesisAlloc) : Genesis :=
  { config, alloc, nonce := 0, timestamp := 0, extraData := [], gasLimit := 0,
    difficulty := none, mixhash := 0, coinbase := 0, parentHash := 0 }

/-- An order in which `for address, account := range genesis.Alloc` may visit the
allocation: each entry exactly once. Go randomises it from run to run. -/
structure RangeOrder (alloc : GenesisAlloc) where
  visit : List (Σ _ : Address, GenesisAccount)
  entries : (visit : Multiset (Σ _ : Address, GenesisAccount)) = alloc.entries

theorem RangeOrder.nodupKeys {alloc : GenesisAlloc} (order : RangeOrder alloc) :
    order.visit.NodupKeys :=
  Multiset.coe_nodupKeys.mp (order.entries ▸ alloc.nodupKeys)

theorem RangeOrder.mem_visit {alloc : GenesisAlloc} (order : RangeOrder alloc)
    {a : Address} {acc : GenesisAccount} : ⟨a, acc⟩ ∈ order.visit ↔ alloc.lookup a = some acc := by
  rw [← Option.mem_def, Finmap.mem_lookup_iff, ← order.entries, Multiset.mem_coe]

/-- The visit order reads the allocation back entry by entry. -/
theorem RangeOrder.dlookup_visit {alloc : GenesisAlloc} (order : RangeOrder alloc) (a : Address) :
    order.visit.dlookup a = alloc.lookup a := by
  cases h : alloc.lookup a with
  | some acc =>
    exact (List.mem_dlookup_iff order.nodupKeys).mpr (order.mem_visit.mpr h)
  | none =>
    refine Option.eq_none_iff_forall_not_mem.mpr fun acc hacc => ?_
    have := order.mem_visit.mp ((List.mem_dlookup_iff order.nodupKeys).mp hacc)
    simp_all

/-- Two orders of one allocation visit the same entries. -/
theorem RangeOrder.perm {alloc : GenesisAlloc} (o₁ o₂ : RangeOrder alloc) : o₁.visit.Perm o₂.visit :=
  Multiset.coe_eq_coe.mp (o₁.entries.trans o₂.entries.symm)

/-- The order of the empty allocation. -/
def RangeOrder.nil : RangeOrder ∅ := ⟨[], rfl⟩

theorem foldl_and_eq_all {β : Type} (g : β → Bool) (l : List β) (b : Bool) :
    l.foldl (fun x s => x && g s) b = (b && l.all g) := by
  induction l generalizing b with
  | nil => simp
  | cons x l ih => simp [ih, Bool.and_assoc]

/-- A test of every entry reads the same over the allocation and over any visit order. -/
theorem RangeOrder.all_visit {alloc : GenesisAlloc} (order : RangeOrder alloc)
    (f : Address → GenesisAccount → Bool) : order.visit.all (fun e => f e.1 e.2) = alloc.all f := by
  rw [Finmap.all, Finmap.foldl, ← order.entries]
  exact (foldl_and_eq_all _ _ true).symm

/-- The one order in which a one-entry allocation is visited. -/
def RangeOrder.singleton (a : Address) (acc : GenesisAccount) :
    RangeOrder (Finmap.singleton a acc) :=
  ⟨[⟨a, acc⟩], rfl⟩

/-- What `genesis.go` takes from outside this repository: the protocol constants of
the `params` and `ethash` packages, and `strings.ToLower`. Every result holds for
any values of them. -/
structure ProtocolParams where
  maximumExtraDataSize : UInt64
  minGasLimit : UInt64
  gasLimitBoundDivisor : UInt64
  minimumDifficulty : Int
  difficultyBoundDivisor : Int
  durationLimit : Int
  maxCodeSize : UInt64
  frontierBlockReward : Int
  byzantiumBlockReward : Int
  constantinopleBlockReward : Int
  toLower : String → String
  deriving Inhabited

/-! ## Reading the fork schedule -/

/-- The fork schedule's rule: a fork scheduled at block `b` is active at every
height from `b` on, and a fork that is not scheduled is never active. -/
def isForked (s : Option Int) (n : Nat) : Prop :=
  match s with
  | some b => b ≤ n
  | none => False

instance (s : Option Int) (n : Nat) : Decidable (isForked s n) :=
  match s with
  | some b => inferInstanceAs (Decidable (b ≤ n))
  | none => inferInstanceAs (Decidable False)

@[simp] theorem isForked_some (b : Int) (n : Nat) : isForked (some b) n ↔ b ≤ n := Iff.rfl
@[simp] theorem isForked_none (n : Nat) : ¬ isForked none n := id

end PuppethGenesis
