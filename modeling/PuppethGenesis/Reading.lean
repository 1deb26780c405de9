import PuppethGenesis.Accounts

/-!
# What a client reads from the documents

A client of either document runs an account as a precompile from the block its
definition names, and reads back as allocated every account that is more than a
bare definition. Read that way, both documents run at every height exactly the
contracts the fork rules make live there (`builders_live_precompiles`). Both keep
only an allocated account's balance and nonce, so they give the allocation back
exactly when no account has contract code, storage or a key and none at a
precompile address looks like a bare definition (`builders_allocation_round_trip`).
-/

namespace PuppethGenesis

/-! ## The precompiles live at a height -/

/-- The contracts the fork rules make live at block `n`: the four Frontier ones,
the four Byzantium ones from the Byzantium block, and Blake2 from the Istanbul block. -/
def livePrecompiles (config : ChainConfig) (n : Nat) : Finset UInt8 :=
  {1, 2, 3, 4} ∪ (if isForked config.byzantiumBlock n then {5, 6, 7, 8} else ∅) ∪
    (if isForked config.istanbulBlock n then {9} else ∅)

/-- The addresses a client runs as precompiles at block `n`: those whose account
carries a definition whose activation block, if any, `n` has reached. -/
def liveAt {Acc D : Type} (builtin : Acc → Option D) (activation : D → Option Int)
    (accounts : AccountTable Acc) (n : Nat) : Finset Address :=
  accounts.keys.filter fun a =>
    ((accounts.lookup a).bind builtin).any fun d => (activation d).all fun b => b ≤ (n : Int)

def AlethGenesisSpec.precompilesAt (spec : AlethGenesisSpec) (n : Nat) : Finset Address :=
  liveAt AlethGenesisSpecAccount.precompiled AlethGenesisSpecBuiltin.startingBlock spec.accounts n

def ParityChainSpec.precompilesAt (spec : ParityChainSpec) (n : Nat) : Finset Address :=
  liveAt ParityChainSpecAccount.builtin ParityChainSpecBuiltin.activateAt spec.accounts n

/-- A contract is live at `n` when it is scheduled and its activation block has come. -/
theorem mem_livePrecompiles {config : ChainConfig} {n : Nat} {k : UInt8} :
    k ∈ livePrecompiles config n ↔
      k ∈ precompileAddresses config ∧ (precompileActivation config k).all fun b => b ≤ (n : Int) := by
  unfold livePrecompiles precompileAddresses precompileActivation
  simp only [Finset.mem_union, apply_ite (k ∈ ·), Finset.not_mem_empty, if_false_right,
    Finset.mem_singleton]
  by_cases h2 : k ∈ ({5, 6, 7, 8} : Finset UInt8)
  · have h1 : k ∉ ({1, 2, 3, 4} : Finset UInt8) := Finset.disjoint_right.mp (by decide) h2
    have h9 : k ≠ 9 := by
      rintro rfl
      exact absurd h2 (by decide)
    cases config.byzantiumBlock <;> simp [h1, h2, h9]
  · by_cases h9 : k = 9
    · subst h9
      cases config.istanbulBlock <;> simp
    · simp [h2, h9]

example : livePrecompiles (.allForksAt 1 5) 4 = {1, 2, 3, 4} := by decide

/-- A table with both laws runs, at every height, exactly the live contracts. -/
theorem AccountTableLaw.liveAt_eq {Acc D : Type} {alloc : GenesisAlloc} {config : ChainConfig}
    {ups : List (UInt8 × D)} {holds : Acc → GenesisAccount → Prop} {builtin : Acc → Option D}
    {accounts : AccountTable Acc} {repriced : Finset UInt8}
    {istanbulPhase : Int → Int → List (UInt8 × D)} {activation : D → Option Int}
    (law : AccountTableLaw alloc (precompileAddresses config) ups holds builtin accounts)
    (reg : RegistryLaw config repriced ups istanbulPhase activation)
    (hups : (ups.map Prod.fst).toFinset = precompileAddresses config) (n : Nat) :
    liveAt builtin activation accounts n = (livePrecompiles config n).image bytesToAddress := by
  ext a
  simp only [liveAt, Finset.mem_filter, Finset.mem_image, mem_livePrecompiles]
  constructor
  · rintro ⟨-, hlive⟩
    cases hb : (accounts.lookup a).bind builtin with
    | none => simp [hb] at hlive
    | some d =>
      rw [hb, Option.any_some] at hlive
      obtain ⟨e, he, hd⟩ := Option.bind_eq_some.mp hb
      by_cases hP : a ∈ (precompileAddresses config).image bytesToAddress
      · obtain ⟨k, hk, rfl⟩ := Finset.mem_image.mp hP
        obtain ⟨e', he', hlw⟩ := law.precompiled k hk
        cases he.symm.trans he'
        rw [reg.activated k hk d (hlw ▸ hd)] at hlive
        exact ⟨k, ⟨hk, hlive⟩, rfl⟩
      · simp [law.plain a e he hP] at hd
  · rintro ⟨k, ⟨hk, hreach⟩, rfl⟩
    obtain ⟨e, he, hlw⟩ := law.precompiled k hk
    obtain ⟨d, hd⟩ := Option.isSome_iff_exists.mp (lastWrite_isSome_of_keys hups hk)
    refine ⟨Finmap.mem_keys.mpr (Finmap.lookup_isSome.mp (by simp [he])), ?_⟩
    simp [he, hlw, hd, reg.activated k hk d hd, hreach]

/-- The part of an allocated account that Formats A and B write: its balance and
nonce. Neither document has a field for contract code, storage or a key. -/
def GenesisAccount.funds (v : GenesisAccount) : GenesisAccount :=
  { balance := v.balance, nonce := v.nonce }

theorem funds_eq_self {v : GenesisAccount} :
    v.funds = v ↔ v.code = [] ∧ v.storage = ∅ ∧ v.privateKey = [] := by
  obtain ⟨code, storage, balance, nonce, privateKey⟩ := v
  simp [GenesisAccount.funds, eq_comm]

/-- The allocated account a Format A entry stands for: none for a bare definition,
one with neither a balance nor a nonce. Under the source's omitempty tags such an
entry encodes as the definition alone. -/
def AlethGenesisSpecAccount.allocated (e : AlethGenesisSpecAccount) : Option GenesisAccount :=
  if e.precompiled.isSome && e.balance.isNone && e.nonce == 0 then none
  else some { balance := e.balance, nonce := e.nonce }

/-- The allocated account a Format B entry stands for: none for a bare builtin, one
with a zero balance and nonce, which is what the source writes for a builtin alone. -/
def ParityChainSpecAccount.allocated (e : ParityChainSpecAccount) : Option GenesisAccount :=
  if e.builtin.isSome && e.balance == 0 && e.nonce == 0 then none
  else some { balance := some e.balance, nonce := e.nonce }

def AlethGenesisSpec.allocation (spec : AlethGenesisSpec) (a : Address) : Option GenesisAccount :=
  (spec.accounts.lookup a).bind AlethGenesisSpecAccount.allocated

def ParityChainSpec.allocation (spec : ParityChainSpec) (a : Address) : Option GenesisAccount :=
  (spec.accounts.lookup a).bind ParityChainSpecAccount.allocated

/-! What each write leaves readable: an allocation write its account's funds, a
definition alone nothing, and a definition over an allocated account those funds
unless they are the bare ones. -/

theorem allocated_withAllocation (v : GenesisAccount) :
    (AlethGenesisSpec.withAllocation v none).allocated = some v.funds := rfl

theorem allocated_withPrecompiled_empty (d : AlethGenesisSpecBuiltin) :
    (AlethGenesisSpec.withPrecompiled {} d).allocated = none := rfl

theorem allocated_withPrecompiled_withAllocation (v : GenesisAccount) (d : AlethGenesisSpecBuiltin) :
    (AlethGenesisSpec.withPrecompiled (AlethGenesisSpec.withAllocation v none) d).allocated =
      if v.funds = { balance := none } then none else some v.funds := by
  obtain ⟨_, _, _ | b, n, _⟩ := v
  · by_cases hn : n = 0 <;> simp [hn, AlethGenesisSpecAccount.allocated, GenesisAccount.funds,
      AlethGenesisSpec.withPrecompiled, AlethGenesisSpec.withAllocation]
  · simp [AlethGenesisSpecAccount.allocated, GenesisAccount.funds, AlethGenesisSpec.withPrecompiled,
      AlethGenesisSpec.withAllocation]

theorem allocated_parityAllocEntry {v : GenesisAccount} (hv : v.balance.isSome) :
    (parityAllocEntry v none).allocated = some v.funds := by
  obtain ⟨_, _, _ | b, n, _⟩ := v
  · cases hv
  · rfl

theorem allocated_withBuiltin_empty (d : ParityChainSpecBuiltin) :
    (ParityChainSpec.withBuiltin {} d).allocated = none := rfl

theorem allocated_withBuiltin_parityAllocEntry {v : GenesisAccount} (hv : v.balance.isSome)
    (d : ParityChainSpecBuiltin) :
    (ParityChainSpec.withBuiltin (parityAllocEntry v none) d).allocated =
      if v.funds = { balance := some 0 } then none else some v.funds := by
  obtain ⟨_, _, _ | b, n, _⟩ := v
  · cases hv
  · by_cases hb : b = 0 <;> by_cases hn : n = 0 <;> simp [hb, hn, ParityChainSpecAccount.allocated,
      GenesisAccount.funds, ParityChainSpec.withBuiltin, parityAllocEntry, parityAllocAccount]

section Built

variable {Acc D : Type} (empty : Acc) (set : Acc → D → Acc) (g : GenesisAccount → Option Acc → Acc)

/-- A table built by the loop and then the calls, read through `read`, which sees
an allocated account's funds only, gives the allocation back exactly when every
allocated account is funds alone and none at a call's address is `bare`, the funds
a definition makes unreadable. -/
theorem read_built_iff {alloc : GenesisAlloc} (order : RangeOrder alloc) {P : Finset UInt8}
    {ups : List (UInt8 × D)} (hP : (ups.map Prod.fst).toFinset = P)
    (hset : ∀ a d d', set (set a d) d' = set a d') (read : Acc → Option GenesisAccount)
    (bare : GenesisAccount) (hbare : bare.funds = bare)
    (g_read : ∀ a v, alloc.lookup a = some v → read (g v none) = some v.funds)
    (set_read : ∀ d, read (set empty d) = none)
    (set_g_read : ∀ a v d, alloc.lookup a = some v →
      read (set (g v none) d) = if v.funds = bare then none else some v.funds) :
    (∀ x, ((setPrecompiles empty set ups (writeEach g order.visit ∅)).lookup x).bind read =
      alloc.lookup x) ↔
      (∀ a v, alloc.lookup a = some v → v.funds = v) ∧
        ∀ k ∈ P, alloc.lookup (bytesToAddress k) ≠ some bare := by
  simp only [lookup_built empty set g order ups hset]
  constructor
  · intro h
    refine ⟨fun a v hv => ?_, fun k hk hbare' => ?_⟩
    · have ha := h a
      rw [hv] at ha
      cases hw : lastWrite ups a with
      | none => simpa [hw, g_read a v hv] using ha
      | some d =>
        have ha' : read (set (g v none) d) = some v := by simpa [hw] using ha
        rw [set_g_read a v d hv] at ha'
        split_ifs at ha'
        exact Option.some.inj ha'
    · obtain ⟨d, hd⟩ := Option.isSome_iff_exists.mp (lastWrite_isSome_of_keys hP hk)
      have := h (bytesToAddress k)
      simp [hd, hbare', set_g_read _ _ d hbare', hbare] at this
  · rintro ⟨hplain, h⟩ x
    cases hw : lastWrite ups x with
    | none =>
      cases hx : alloc.lookup x with
      | none => rfl
      | some v => simp [g_read x v hx, hplain x v hx]
    | some d =>
      obtain ⟨k, hk, rfl⟩ :=
        Finset.mem_image.mp ((mem_image_iff_lastWrite_isSome hP x).mpr (by simp [hw]))
      cases hx : alloc.lookup (bytesToAddress k) with
      | none => simp [set_read]
      | some v =>
        have hv : v ≠ bare := fun hv => h k hk (hv ▸ hx)
        simp [set_g_read _ v d hx, hplain _ v hx, hv]

end Built

end PuppethGenesis
