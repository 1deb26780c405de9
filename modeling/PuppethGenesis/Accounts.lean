import PuppethGenesis.Dialects.Aleth
import PuppethGenesis.Dialects.Parity

/-!
# The account tables of Format A and Format B

Both builders run the allocation loop and then a sequence of `setPrecompile`
calls. Whatever order the loop visits the allocation in, and whichever allocated
addresses collide with precompile addresses, the table holds exactly the allocated
and the precompile addresses; an allocated account keeps its balance and nonce;
a precompile address carries the last definition written there; and no other
account carries one.
-/

namespace PuppethGenesis

/-- The precompile addresses: `0x01`–`0x04` always, `0x05`–`0x08` when Byzantium is
scheduled, `0x09` when Istanbul is. -/
def precompileAddresses (config : ChainConfig) : Finset UInt8 :=
  {1, 2, 3, 4} ∪ (if config.byzantiumBlock.isSome then {5, 6, 7, 8} else ∅) ∪
    (if config.istanbulBlock.isSome then {9} else ∅)

theorem mem_precompileAddresses_of_byzantium {config : ChainConfig} {k : UInt8}
    (hb : config.byzantiumBlock.isSome) (hk : k ∈ ({5, 6, 7, 8} : Finset UInt8)) :
    k ∈ precompileAddresses config := by
  unfold precompileAddresses
  rw [if_pos hb]
  exact Finset.mem_union_left _ (Finset.mem_union_right _ hk)

/-- The block a precompile is activated at: Byzantium's for `0x05`–`0x08`,
Istanbul's for `0x09`, none for the others. -/
def precompileActivation (config : ChainConfig) (k : UInt8) : Option Int :=
  if k ∈ ({5, 6, 7, 8} : Finset UInt8) then config.byzantiumBlock
  else if k = 9 then config.istanbulBlock else none

/-- An account table built from `alloc` and the `setPrecompile` calls `ups`:
`holds e v` says that account `e` keeps the allocated account `v`, and `builtin`
reads an account's precompile definition. -/
structure AccountTableLaw {Acc D : Type} (alloc : GenesisAlloc) (P : Finset UInt8)
    (ups : List (UInt8 × D)) (holds : Acc → GenesisAccount → Prop) (builtin : Acc → Option D)
    (accounts : AccountTable Acc) : Prop where
  keys : accounts.keys = alloc.keys ∪ P.image bytesToAddress
  allocated : ∀ a v, alloc.lookup a = some v → ∃ e, accounts.lookup a = some e ∧ holds e v
  precompiled : ∀ k ∈ P, ∃ e, accounts.lookup (bytesToAddress k) = some e ∧
    builtin e = lastWrite ups (bytesToAddress k)
  plain : ∀ a e, accounts.lookup a = some e → a ∉ P.image bytesToAddress → builtin e = none

/-- What the last write at each precompile address is: activated as
`precompileActivation` says, and, when Istanbul is scheduled, the Istanbul phase's
definition at the `repriced` addresses. -/
structure RegistryLaw {D : Type} (config : ChainConfig) (repriced : Finset UInt8)
    (ups : List (UInt8 × D)) (istanbulPhase : Int → Int → List (UInt8 × D))
    (activation : D → Option Int) : Prop where
  activated : ∀ k ∈ precompileAddresses config, ∀ d, lastWrite ups (bytesToAddress k) = some d →
    activation d = precompileActivation config k
  istanbul_wins : ∀ byzantium istanbul, config.byzantiumBlock = some byzantium →
    config.istanbulBlock = some istanbul → ∀ k ∈ repriced,
      lastWrite ups (bytesToAddress k) = lastWrite (istanbulPhase byzantium istanbul) (bytesToAddress k)

/-! ## Tables built by the loop and then the registry -/

section Built

variable {Acc D : Type}

theorem lastWrite_isSome (ups : List (UInt8 × D)) (x : Address) :
    (lastWrite ups x).isSome ↔ ∃ u ∈ ups, bytesToAddress u.1 = x := by
  simp [lastWrite, List.find?_isSome]

theorem lastWrite_isSome_of_keys {ups : List (UInt8 × D)} {P : Finset UInt8}
    (hP : (ups.map Prod.fst).toFinset = P) {k : UInt8} (hk : k ∈ P) :
    (lastWrite ups (bytesToAddress k)).isSome := by
  rw [← hP, List.mem_toFinset, List.mem_map] at hk
  obtain ⟨u, hu, rfl⟩ := hk
  exact (lastWrite_isSome ups _).mpr ⟨u, hu, rfl⟩

/-- The calls write exactly at the addresses of their keys. -/
theorem mem_image_iff_lastWrite_isSome {ups : List (UInt8 × D)} {P : Finset UInt8}
    (hP : (ups.map Prod.fst).toFinset = P) (x : Address) :
    x ∈ P.image bytesToAddress ↔ (lastWrite ups x).isSome := by
  simp only [← hP, Finset.mem_image, List.mem_toFinset, List.mem_map, lastWrite_isSome]
  constructor
  · rintro ⟨k, ⟨u, hu, rfl⟩, rfl⟩
    exact ⟨u, hu, rfl⟩
  · rintro ⟨u, hu, rfl⟩
    exact ⟨u.1, ⟨u, hu, rfl⟩, rfl⟩

/-- The registry law from what each call writes and from the Istanbul phase. -/
theorem RegistryLaw.of_calls {config : ChainConfig} {repriced : Finset UInt8}
    {ups : List (UInt8 × D)} {istanbulPhase : Int → Int → List (UInt8 × D)}
    {activation : D → Option Int}
    (hcalls : ∀ u ∈ ups, activation u.2 = precompileActivation config u.1)
    (hwins : ∀ byzantium istanbul, config.byzantiumBlock = some byzantium →
      config.istanbulBlock = some istanbul → ∀ k ∈ repriced,
        lastWrite ups (bytesToAddress k) =
          lastWrite (istanbulPhase byzantium istanbul) (bytesToAddress k)) :
    RegistryLaw config repriced ups istanbulPhase activation where
  activated k _ d hd := by
    obtain ⟨u, hu, hk, rfl⟩ := lastWrite_eq_some hd
    rw [hcalls u hu, bytesToAddress_injective hk]
  istanbul_wins := hwins

variable (empty : Acc) (set : Acc → D → Acc) (g : GenesisAccount → Option Acc → Acc)
  (holds : Acc → GenesisAccount → Prop) (builtin : Acc → Option D)

/-- What the loop and then the calls leave at each address: the allocated account,
if any, with the last definition written there, if any. -/
theorem lookup_built {alloc : GenesisAlloc} (order : RangeOrder alloc) (ups : List (UInt8 × D))
    (hset : ∀ a d d', set (set a d) d' = set a d') (x : Address) :
    (setPrecompiles empty set ups (writeEach g order.visit ∅)).lookup x =
      (lastWrite ups x).elim ((alloc.lookup x).map (g · none))
        fun d => some (set (((alloc.lookup x).map (g · none)).getD empty) d) := by
  rw [lookup_setPrecompiles empty set hset, lookup_writeEach_visit]
  cases alloc.lookup x <;> rfl

/-- The law for a table that the allocation loop and then the calls `ups` build. -/
theorem accountTableLaw_of {alloc : GenesisAlloc} (order : RangeOrder alloc) {P : Finset UInt8}
    {ups : List (UInt8 × D)} (hP : (ups.map Prod.fst).toFinset = P)
    (hset : ∀ a d d', set (set a d) d' = set a d') (set_builtin : ∀ a d, builtin (set a d) = some d)
    (set_holds : ∀ a d v, holds a v → holds (set a d) v)
    (g_holds : ∀ a v, alloc.lookup a = some v → holds (g v none) v)
    (g_builtin : ∀ v, builtin (g v none) = none) :
    AccountTableLaw alloc P ups holds builtin
      (setPrecompiles empty set ups (writeEach g order.visit ∅)) := by
  have hlookup := lookup_built empty set g order ups hset
  have himage := mem_image_iff_lastWrite_isSome hP
  refine ⟨?_, fun a v hv => ?_, fun k hk => ?_, fun a e he hP' => ?_⟩
  · ext x
    rw [Finmap.mem_keys, Finset.mem_union, Finmap.mem_keys, himage, ← Finmap.lookup_isSome,
      ← Finmap.lookup_isSome, hlookup]
    cases lastWrite ups x <;> cases alloc.lookup x <;> simp
  · rw [hlookup]
    cases lastWrite ups a <;> simp [hv, g_holds a v hv, set_holds]
  · have hk' := (himage _).mp (Finset.mem_image_of_mem _ hk)
    rw [hlookup]
    obtain ⟨d, hd⟩ := Option.isSome_iff_exists.mp hk'
    simp [hd, set_builtin]
  · have hw : lastWrite ups a = none := by
      simpa [himage] using hP'
    rw [hlookup, hw] at he
    cases ha : alloc.lookup a <;> simp only [ha, Option.map_none', Option.map_some', Option.elim,
      reduceCtorEq, Option.some.injEq] at he
    rw [← he, g_builtin]

end Built

/-! ## Format A -/

theorem alethPrecompiles_keys {config : ChainConfig}
    (h : config.istanbulBlock.isSome → config.byzantiumBlock.isSome) :
    ((alethPrecompiles config).map Prod.fst).toFinset = precompileAddresses config := by
  cases hb : config.byzantiumBlock <;> cases hi : config.istanbulBlock
  case none.some => simp [hb, hi] at h
  all_goals
    simp only [alethPrecompiles, precompileAddresses, hb, hi, Option.elim, List.map_append,
      alethFrontierPrecompiles_keys, alethByzantiumPrecompiles_keys, alethIstanbulPrecompiles_keys,
      Option.isSome_some, Option.isSome_none, if_true, if_false, Bool.false_eq_true, List.append_nil]
    decide

theorem alethRegistryLaw (config : ChainConfig) :
    RegistryLaw config {6, 7} (alethPrecompiles config) alethIstanbulPrecompiles
      AlethGenesisSpecBuiltin.startingBlock := by
  refine .of_calls ?_ fun b i hb hi k hk => ?_
  · cases hb : config.byzantiumBlock <;> cases hi : config.istanbulBlock <;>
      simp [alethPrecompiles, alethFrontierPrecompiles, alethByzantiumPrecompiles,
        alethIstanbulPrecompiles, precompileActivation, hb, hi]
  · simp only [Finset.mem_insert, Finset.mem_singleton] at hk
    rcases hk with rfl | rfl <;>
      simp [alethPrecompiles, hb, hi, alethFrontierPrecompiles, alethByzantiumPrecompiles,
        alethIstanbulPrecompiles]

/-- A successful Format A run builds its table by the loop and then the calls. -/
theorem newAlethGenesisSpec_accounts (pp : ProtocolParams) {network : String} {genesis : Genesis}
    {order : RangeOrder genesis.alloc} {spec : AlethGenesisSpec}
    (h : newAlethGenesisSpec pp network genesis order = .ok spec) :
    spec.accounts = setPrecompiles {} AlethGenesisSpec.withPrecompiled (alethPrecompiles genesis.config)
      (writeEach AlethGenesisSpec.withAllocation order.visit ∅) := by
  obtain ⟨-, -, c, -, rfl⟩ := newAlethGenesisSpec_ok pp h
  rw [AlethGenesisSpec.setPrecompiles_eq, AlethGenesisSpec.setAccounts_eq]
  rfl

/-- Format A's account table, from the allocation loop and the precompile phases. -/
theorem alethAccountTableLaw (pp : ProtocolParams) {network : String} {genesis : Genesis}
    {order : RangeOrder genesis.alloc} {spec : AlethGenesisSpec}
    (h : newAlethGenesisSpec pp network genesis order = .ok spec) :
    AccountTableLaw genesis.alloc (precompileAddresses genesis.config)
      (alethPrecompiles genesis.config) (fun e v => e.balance = v.balance ∧ e.nonce = v.nonce)
      AlethGenesisSpecAccount.precompiled spec.accounts := by
  rw [newAlethGenesisSpec_accounts pp h]
  exact (accountTableLaw_of {} AlethGenesisSpec.withPrecompiled AlethGenesisSpec.withAllocation
    (fun e v => e.balance = v.balance ∧ e.nonce = v.nonce) AlethGenesisSpecAccount.precompiled order
    (alethPrecompiles_keys (newAlethGenesisSpec_ok pp h).2.1)
    AlethGenesisSpec.withPrecompiled_withPrecompiled (fun _ _ => rfl)
    (fun _ _ _ h => h)
    (fun _ _ _ => ⟨rfl, rfl⟩) (fun _ => rfl) :)

/-! ## Format B -/

theorem parityPrecompiles_keys {config : ChainConfig}
    (h : config.istanbulBlock.isSome → config.byzantiumBlock.isSome) :
    ((parityPrecompiles config).map Prod.fst).toFinset = precompileAddresses config := by
  cases hb : config.byzantiumBlock <;> cases hi : config.istanbulBlock
  case none.some => simp [hb, hi] at h
  all_goals
    simp only [parityPrecompiles, precompileAddresses, hb, hi, Option.elim, List.map_append,
      parityFrontierPrecompiles_keys, parityByzantiumPrecompiles_keys, parityIstanbulPrecompiles_keys,
      Option.isSome_some, Option.isSome_none, if_true, if_false, Bool.false_eq_true, List.append_nil]
    decide

theorem parityRegistryLaw (config : ChainConfig) :
    RegistryLaw config {6, 7, 8} (parityPrecompiles config) parityIstanbulPrecompiles
      ParityChainSpecBuiltin.activateAt := by
  refine .of_calls ?_ fun b i hb hi k hk => ?_
  · cases hb : config.byzantiumBlock <;> cases hi : config.istanbulBlock <;>
      simp [parityPrecompiles, parityFrontierPrecompiles, parityByzantiumPrecompiles,
        parityIstanbulPrecompiles, precompileActivation, hb, hi]
  · simp only [Finset.mem_insert, Finset.mem_singleton] at hk
    rcases hk with rfl | rfl | rfl <;>
      simp [parityPrecompiles, hb, hi, parityFrontierPrecompiles, parityByzantiumPrecompiles,
        parityIstanbulPrecompiles]

/-- A successful Format B run found every balance, so the loop wrote each entry,
and then the calls ran. -/
theorem newParityChainSpec_accounts (pp : ProtocolParams) {network : String} {genesis : Genesis}
    {bootnodes : List String} {order : RangeOrder genesis.alloc} {spec : ParityChainSpec}
    (h : newParityChainSpec pp network genesis bootnodes order = .ok spec) :
    (∀ a v, genesis.alloc.lookup a = some v → v.balance.isSome) ∧
      spec.accounts = setPrecompiles {} ParityChainSpec.withBuiltin (parityPrecompiles genesis.config)
        (writeEach parityAllocEntry order.visit ∅) := by
  obtain ⟨-, -, _, _, _, _, _, accounts, -, -, -, -, -, ha, rfl⟩ := newParityChainSpec_ok pp h
  rw [parityAllocAccounts_eq] at ha
  split at ha
  case isFalse => cases ha
  case isTrue hall =>
    cases ha
    exact ⟨fun a v hv => List.all_eq_true.mp hall _ (order.mem_visit.mpr hv),
      parityChainSpecOf_accounts ..⟩

/-- Format B's account table. The loop returned, so every balance was present. -/
theorem parityAccountTableLaw (pp : ProtocolParams) {network : String} {genesis : Genesis}
    {bootnodes : List String} {order : RangeOrder genesis.alloc} {spec : ParityChainSpec}
    (h : newParityChainSpec pp network genesis bootnodes order = .ok spec) :
    AccountTableLaw genesis.alloc (precompileAddresses genesis.config)
      (parityPrecompiles genesis.config) (fun e v => some e.balance = v.balance ∧ e.nonce = v.nonce)
      ParityChainSpecAccount.builtin spec.accounts := by
  obtain ⟨hfunded, haccounts⟩ := newParityChainSpec_accounts pp h
  rw [haccounts]
  have g_holds : ∀ a v, genesis.alloc.lookup a = some v →
      some (parityAllocEntry v none).balance = v.balance ∧ (parityAllocEntry v none).nonce = v.nonce := by
    intro a v hv
    obtain ⟨b, hb⟩ := Option.isSome_iff_exists.mp (hfunded a v hv)
    simp [parityAllocEntry, parityAllocAccount, hb]
  exact (accountTableLaw_of {} ParityChainSpec.withBuiltin parityAllocEntry
    (fun e v => some e.balance = v.balance ∧ e.nonce = v.nonce) ParityChainSpecAccount.builtin order
    (parityPrecompiles_keys (newParityChainSpec_ok pp h).2.1) ParityChainSpec.withBuiltin_withBuiltin
    (fun _ _ => rfl) (fun _ _ _ h => h) g_holds (fun _ => rfl) :)

/-! ## Both formats -/

/-- Neither builder's outcome depends on the order the allocation loop runs in. -/
theorem builders_order_independent (pp : ProtocolParams) (network : String) (genesis : Genesis)
    (bootnodes : List String) (o₁ o₂ : RangeOrder genesis.alloc) :
    newAlethGenesisSpec pp network genesis o₁ = newAlethGenesisSpec pp network genesis o₂ ∧
      newParityChainSpec pp network genesis bootnodes o₁ =
        newParityChainSpec pp network genesis bootnodes o₂ := by
  constructor
  · simp only [newAlethGenesisSpec, AlethGenesisSpec.setAccounts_eq, writeEach_visit_eq _ o₁ o₂]
  · simp only [newParityChainSpec, parityAllocAccounts_visit_eq o₁ o₂]

/-- Where both builders return a document, their account tables hold the same
addresses, agree on each allocated account's balance and nonce, and activate each
precompile at the same block. -/
theorem builders_agree (pp : ProtocolParams) {network : String} {genesis : Genesis}
    {bootnodes : List String} {order : RangeOrder genesis.alloc} {sa : AlethGenesisSpec}
    {sp : ParityChainSpec} (ha : newAlethGenesisSpec pp network genesis order = .ok sa)
    (hp : newParityChainSpec pp network genesis bootnodes order = .ok sp) :
    sa.accounts.keys = sp.accounts.keys ∧
      (∀ a v, genesis.alloc.lookup a = some v → ∃ ea ep, sa.accounts.lookup a = some ea ∧
        sp.accounts.lookup a = some ep ∧ ea.balance = some ep.balance ∧ ea.nonce = ep.nonce) ∧
      ∀ a ea ep, sa.accounts.lookup a = some ea → sp.accounts.lookup a = some ep →
        ea.precompiled.map (·.startingBlock) = ep.builtin.map (·.activateAt) := by
  have la := alethAccountTableLaw pp ha
  have lp := parityAccountTableLaw pp hp
  obtain ⟨-, hib, -⟩ := newAlethGenesisSpec_ok pp ha
  refine ⟨la.keys.trans lp.keys.symm, fun a v hv => ?_, fun a ea ep hea hep => ?_⟩
  · obtain ⟨ea, hea, hbal, hnonce⟩ := la.allocated a v hv
    obtain ⟨ep, hep, hbal', hnonce'⟩ := lp.allocated a v hv
    exact ⟨ea, ep, hea, hep, hbal.trans hbal'.symm, hnonce.trans hnonce'.symm⟩
  · by_cases hP : a ∈ (precompileAddresses genesis.config).image bytesToAddress
    · obtain ⟨k, hk, rfl⟩ := Finset.mem_image.mp hP
      obtain ⟨_, hea', hda⟩ := la.precompiled k hk
      obtain ⟨_, hep', hdp⟩ := lp.precompiled k hk
      cases hea.symm.trans hea'
      cases hep.symm.trans hep'
      obtain ⟨da, hla⟩ :=
        Option.isSome_iff_exists.mp (lastWrite_isSome_of_keys (alethPrecompiles_keys hib) hk)
      obtain ⟨dp, hlp⟩ :=
        Option.isSome_iff_exists.mp (lastWrite_isSome_of_keys (parityPrecompiles_keys hib) hk)
      rw [hda, hla, hdp, hlp, Option.map_some', Option.map_some',
        (alethRegistryLaw _).activated k hk da hla, (parityRegistryLaw _).activated k hk dp hlp]
    · rw [la.plain a ea hea hP, lp.plain a ep hep hP]
      rfl

theorem builders_agree_at_collision :
    let genesis :=
      Genesis.ofConfig (.allForksAt 1 0) (.singleton (bytesToAddress 5) { balance := some 1 })
    let order : RangeOrder genesis.alloc := .singleton _ _
    ∃ sa sp, newAlethGenesisSpec default "" genesis order = .ok sa ∧
      newParityChainSpec default "" genesis [] order = .ok sp ∧
      sa.accounts.keys = sp.accounts.keys := by
  intro genesis order
  refine ⟨_, _, rfl, rfl, ?_⟩
  exact (@builders_agree default "" genesis [] order _ _ rfl rfl).1

/-- Both builders' account tables, and the registry their precompile calls make. -/
theorem builders_account_table (pp : ProtocolParams) (network : String) (genesis : Genesis)
    (bootnodes : List String) (order : RangeOrder genesis.alloc) :
    (∀ spec, newAlethGenesisSpec pp network genesis order = .ok spec →
      AccountTableLaw genesis.alloc (precompileAddresses genesis.config)
        (alethPrecompiles genesis.config) (fun e v => e.balance = v.balance ∧ e.nonce = v.nonce)
        AlethGenesisSpecAccount.precompiled spec.accounts ∧
      RegistryLaw genesis.config {6, 7} (alethPrecompiles genesis.config) alethIstanbulPrecompiles
        AlethGenesisSpecBuiltin.startingBlock) ∧
    (∀ spec, newParityChainSpec pp network genesis bootnodes order = .ok spec →
      AccountTableLaw genesis.alloc (precompileAddresses genesis.config)
        (parityPrecompiles genesis.config) (fun e v => some e.balance = v.balance ∧ e.nonce = v.nonce)
        ParityChainSpecAccount.builtin spec.accounts ∧
      RegistryLaw genesis.config {6, 7, 8} (parityPrecompiles genesis.config)
        parityIstanbulPrecompiles ParityChainSpecBuiltin.activateAt) :=
  ⟨fun _ h => ⟨alethAccountTableLaw pp h, alethRegistryLaw _⟩,
    fun _ h => ⟨parityAccountTableLaw pp h, parityRegistryLaw _⟩⟩

/-- Both builders succeed on a schedule with every fork at block 0 and a prefunded
account at the precompile address `0x05`. -/
theorem builders_account_table_at_collision :
    let genesis :=
      Genesis.ofConfig (.allForksAt 1 0) (.singleton (bytesToAddress 5) { balance := some 1 })
    let order : RangeOrder genesis.alloc := .singleton _ _
    (∃ spec, newAlethGenesisSpec default "" genesis order = .ok spec ∧
      AccountTableLaw genesis.alloc (precompileAddresses genesis.config)
        (alethPrecompiles genesis.config) (fun e v => e.balance = v.balance ∧ e.nonce = v.nonce)
        AlethGenesisSpecAccount.precompiled spec.accounts) ∧
    (∃ spec, newParityChainSpec default "" genesis [] order = .ok spec ∧
      AccountTableLaw genesis.alloc (precompileAddresses genesis.config)
        (parityPrecompiles genesis.config) (fun e v => some e.balance = v.balance ∧ e.nonce = v.nonce)
        ParityChainSpecAccount.builtin spec.accounts) := by
  intro genesis order
  exact ⟨⟨_, rfl, ((builders_account_table default "" genesis [] order).1 _ rfl).1⟩,
    ⟨_, rfl, ((builders_account_table default "" genesis [] order).2 _ rfl).1⟩⟩

end PuppethGenesis
