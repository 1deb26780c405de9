import Mathlib.Algebra.BigOperators.Group.Finset
import Mathlib.Data.Finset.Max
import PuppethGenesis.Dialects.Parity

/-!
# The reward and difficulty-bomb schedules of Format B

`engine.Ethash.params` holds two maps keyed by block: `blockReward`, read at the
greatest key not past a height, and `difficultyBombDelays`, whose values at keys
not past a height add up. The builder seeds the reward at block 0 and writes one
entry into each map per scheduled major fork, so two forks at one block share a
key and the later write replaces the earlier.
-/

namespace PuppethGenesis

/-! ## Reading the schedules -/

/-- The reward in force at height `n`: the value at the greatest key not past `n`. -/
def rewardAt (m : BlockMap Int) (n : Nat) : Option Int :=
  ((m.keys.filter (· ≤ (n : Int))).max : Option Int).bind m.lookup

/-- The delay in force at height `n`: the delays at keys not past `n`, added up. -/
def bombDelayAt (m : BlockMap Nat) (n : Nat) : Nat :=
  ∑ k ∈ m.keys.filter (· ≤ (n : Int)), (m.lookup k).getD 0

section Reading

variable {α : Type} {n : Nat} {b k : Int}

theorem rewardAt_eq_lookup {m : BlockMap Int} (hk : k ∈ m) (hkn : k ≤ n)
    (hmax : ∀ k' ∈ m, k' ≤ n → k' ≤ k) : rewardAt m n = m.lookup k := by
  have hfilter : (m.keys.filter (· ≤ (n : Int))).max = k :=
    le_antisymm
      (Finset.max_le fun a ha => by
        rw [Finset.mem_filter, Finmap.mem_keys] at ha
        exact WithBot.coe_le_coe.mpr (hmax a ha.1 ha.2))
      (Finset.le_max (Finset.mem_filter.mpr ⟨Finmap.mem_keys.mpr hk, hkn⟩))
  rw [rewardAt, hfilter]
  rfl

/-- A key not past `n` and above every older key takes over the reading. -/
theorem rewardAt_insert_of_le {m : BlockMap Int} {v : Int} (hb : ∀ k ∈ m, k ≤ b) (hbn : b ≤ n) :
    rewardAt (m.insert b v) n = some v := by
  rw [rewardAt_eq_lookup (Finmap.mem_insert.mpr (.inl rfl)) hbn, Finmap.lookup_insert]
  intro k' hk' _
  rcases Finmap.mem_insert.mp hk' with rfl | hk'
  · exact le_rfl
  · exact hb k' hk'

theorem keys_filter_insert_of_lt {m : BlockMap α} {v : α} (h : (n : Int) < b) :
    (m.insert b v).keys.filter (· ≤ (n : Int)) = m.keys.filter (· ≤ (n : Int)) := by
  ext k
  simp only [Finset.mem_filter, Finmap.mem_keys, Finmap.mem_insert]
  constructor
  · rintro ⟨rfl | hk, hkn⟩
    · omega
    · exact ⟨hk, hkn⟩
  · exact fun ⟨hk, hkn⟩ => ⟨.inr hk, hkn⟩

/-- A key past `n` does not change the reading at `n`. -/
theorem rewardAt_insert_of_lt {m : BlockMap Int} {v : Int} (h : (n : Int) < b) :
    rewardAt (m.insert b v) n = rewardAt m n := by
  unfold rewardAt
  rw [keys_filter_insert_of_lt h]
  cases hmax : (m.keys.filter (· ≤ (n : Int))).max with
  | bot => rfl
  | coe k =>
    have hk := (Finset.mem_filter.mp (Finset.mem_of_max hmax)).2
    exact Finmap.lookup_insert_of_ne _ (by omega)

example : rewardAt (((∅ : BlockMap Int).insert 0 5).insert 10 3) 9 = some 5 := by decide

theorem bombDelayAt_empty : bombDelayAt ∅ n = 0 := rfl

/-- A new key not past `n` adds its delay to the reading. -/
theorem bombDelayAt_insert_of_not_mem {m : BlockMap Nat} {v : Nat} (hb : b ∉ m) :
    bombDelayAt (m.insert b v) n = bombDelayAt m n + if b ≤ n then v else 0 := by
  unfold bombDelayAt
  have hkeys : (m.insert b v).keys.filter (· ≤ (n : Int)) =
      (if b ≤ n then {b} else ∅) ∪ m.keys.filter (· ≤ (n : Int)) := by
    ext k
    by_cases hk : k = b <;> split_ifs <;> simp [Finmap.mem_keys, Finmap.mem_insert, hk, *]
  have hdisj : Disjoint (if b ≤ n then {b} else ∅) (m.keys.filter (· ≤ (n : Int))) := by
    split_ifs <;> simp [Finmap.mem_keys, hb]
  rw [hkeys, Finset.sum_union hdisj, add_comm]
  congr 1
  · refine Finset.sum_congr rfl fun k hk => ?_
    have hkm := Finmap.mem_keys.mp (Finset.mem_filter.mp hk).1
    rw [Finmap.lookup_insert_of_ne _ (ne_of_mem_of_not_mem hkm hb)]
  · split_ifs <;> simp [Finmap.lookup_insert]

end Reading

/-! ## What the builder writes -/

/-- `m` with `v` written at `block`, when the fork is scheduled there. -/
def insertAt {α : Type} (m : BlockMap α) (block : Option Int) (v : α) : BlockMap α :=
  block.elim m fun b => m.insert b v

theorem mem_insertAt {α : Type} {m : BlockMap α} {block : Option Int} {v : α} {k : Int} :
    k ∈ insertAt m block v ↔ block = some k ∨ k ∈ m := by
  cases block <;> simp [insertAt, Finmap.mem_insert, eq_comm]

namespace ParityChainSpec

/-- The two block-keyed maps of `engine.Ethash.params`. -/
def schedules (spec : ParityChainSpec) : BlockMap Int × BlockMap Nat :=
  (spec.engine.blockReward, spec.engine.difficultyBombDelays)

variable (pp : ProtocolParams) (spec : ParityChainSpec)

@[simp] theorem schedules_init (name datadir : String) (nodes : List String) :
    ({ name, datadir, nodes } : ParityChainSpec).schedules = (∅, ∅) := rfl

@[simp] theorem schedules_setAccounts (accounts : AccountTable ParityChainSpecAccount) :
    { spec with accounts }.schedules = spec.schedules := rfl

@[simp] theorem schedules_setFrontier :
    (spec.setFrontier pp).schedules = (spec.schedules.1.insert 0 pp.frontierBlockReward, spec.schedules.2) :=
  rfl

@[simp] theorem schedules_setHomestead (v : UInt64) : (spec.setHomestead v).schedules = spec.schedules :=
  rfl

@[simp] theorem schedules_setTangerineWhistle (v : UInt64) :
    (spec.setTangerineWhistle v).schedules = spec.schedules := rfl

@[simp] theorem schedules_setSpuriousDragon (eip155 eip158 : UInt64) :
    (spec.setSpuriousDragon eip155 eip158).schedules = spec.schedules := rfl

theorem schedules_setByzantium (num : Int) :
    (spec.setByzantium pp num).schedules =
      (spec.schedules.1.insert num pp.byzantiumBlockReward, spec.schedules.2.insert num 3000000) := rfl

theorem schedules_setConstantinople (num : Int) :
    (spec.setConstantinople pp num).schedules =
      (spec.schedules.1.insert num pp.constantinopleBlockReward, spec.schedules.2.insert num 2000000) :=
  rfl

theorem schedules_setConstantinopleFix (num : Int) :
    (spec.setConstantinopleFix num).schedules = spec.schedules := rfl

theorem schedules_setIstanbul (num : Int) : (spec.setIstanbul num).schedules = spec.schedules := rfl

@[simp] theorem schedules_setChainParams (chainID : UInt64) :
    (spec.setChainParams pp chainID).schedules = spec.schedules := rfl

@[simp] theorem schedules_setGenesis (genesis : Genesis) :
    (spec.setGenesis genesis).schedules = spec.schedules := rfl

@[simp] theorem schedules_setPrecompiles (ups : List (UInt8 × ParityChainSpecBuiltin)) :
    (spec.setPrecompiles ups).schedules = spec.schedules := by
  rw [setPrecompiles_eq]
  rfl

variable {block : Option Int} {set : ParityChainSpec → Int → ParityChainSpec}

/-- A major fork's setter, run when the fork is scheduled. -/
theorem schedules_whenScheduled_fork {reward : Int} {delay : Nat}
    (hset : ∀ s num, (set s num).schedules = (s.schedules.1.insert num reward, s.schedules.2.insert num delay)) :
    (spec.whenScheduled block set).schedules =
      (insertAt spec.schedules.1 block reward, insertAt spec.schedules.2 block delay) := by
  cases block <;> simp [hset, insertAt]

theorem schedules_whenScheduled_of_eq (hset : ∀ s num, (set s num).schedules = s.schedules) :
    (spec.whenScheduled block set).schedules = spec.schedules := by
  cases block <;> simp [hset]

end ParityChainSpec

section

variable (pp : ProtocolParams) {network : String} {genesis : Genesis} {bootnodes : List String}
  {order : RangeOrder genesis.alloc} {spec : ParityChainSpec}

/-- The schedules of a document: the Frontier reward at block 0, then one entry in
each map per scheduled major fork, Byzantium's before Constantinople's. -/
theorem newParityChainSpec_schedules
    (h : newParityChainSpec pp network genesis bootnodes order = .ok spec) :
    spec.schedules =
      (insertAt (insertAt ((∅ : BlockMap Int).insert 0 pp.frontierBlockReward)
          genesis.config.byzantiumBlock pp.byzantiumBlockReward)
        genesis.config.constantinopleBlock pp.constantinopleBlockReward,
       insertAt (insertAt ∅ genesis.config.byzantiumBlock 3000000)
        genesis.config.constantinopleBlock 2000000) := by
  obtain ⟨-, -, -, -, -, -, -, -, -, -, -, -, -, -, rfl⟩ := newParityChainSpec_ok pp h
  open ParityChainSpec in
  simp only [parityChainSpecOf, schedules_setPrecompiles, schedules_setAccounts, schedules_setGenesis,
    schedules_setChainParams,
    schedules_whenScheduled_of_eq _ (schedules_setIstanbul · ·),
    schedules_whenScheduled_of_eq _ (schedules_setConstantinopleFix · ·),
    schedules_whenScheduled_fork _ (schedules_setConstantinople pp · ·),
    schedules_whenScheduled_fork _ (schedules_setByzantium pp · ·),
    schedules_setSpuriousDragon, schedules_setTangerineWhistle, schedules_setHomestead,
    schedules_setFrontier, schedules_init]

end

/-! ## The schedules against the fork schedule -/

/-- The reward the fork schedule puts in force at `n`. -/
def scheduledReward (pp : ProtocolParams) (config : ChainConfig) (n : Nat) : Int :=
  if isForked config.constantinopleBlock n then pp.constantinopleBlockReward
  else if isForked config.byzantiumBlock n then pp.byzantiumBlockReward
  else pp.frontierBlockReward

/-- The difficulty-bomb delay the fork schedule puts in force at `n`. -/
def scheduledBombDelay (config : ChainConfig) (n : Nat) : Nat :=
  if isForked config.constantinopleBlock n then 5000000
  else if isForked config.byzantiumBlock n then 3000000
  else 0

section Readings

variable {byz const : Option Int} (n : Nat)

theorem rewardAt_frontier_byzantium (frontier byzantium : Int) (hb : ∀ b ∈ byz, 0 ≤ b) :
    rewardAt (insertAt ((∅ : BlockMap Int).insert 0 frontier) byz byzantium) n =
      some (if isForked byz n then byzantium else frontier) := by
  have hfrontier : rewardAt ((∅ : BlockMap Int).insert 0 frontier) n = some frontier :=
    rewardAt_insert_of_le (fun k hk => absurd hk (Finmap.not_mem_empty)) (Int.natCast_nonneg n)
  cases byz with
  | none => exact hfrontier
  | some b =>
    by_cases hbn : b ≤ n
    · rw [if_pos (show isForked (some b) n from hbn)]
      refine rewardAt_insert_of_le (fun k hk => ?_) hbn
      rcases Finmap.mem_insert.mp hk with rfl | hk
      · exact hb b rfl
      · exact absurd hk Finmap.not_mem_empty
    · rw [if_neg (show ¬ isForked (some b) n from hbn), insertAt, Option.elim,
        rewardAt_insert_of_lt (by omega), hfrontier]

/-- With the forks in order, the reward map read at `n` gives the latest fork's reward. -/
theorem rewardAt_schedule (frontier byzantium constantinople : Int) (hb : ∀ b ∈ byz, 0 ≤ b)
    (hc : ∀ c ∈ const, 0 ≤ c) (hord : ∀ b ∈ byz, ∀ c ∈ const, b ≤ c) :
    rewardAt (insertAt (insertAt ((∅ : BlockMap Int).insert 0 frontier) byz byzantium) const
        constantinople) n =
      some (if isForked const n then constantinople else if isForked byz n then byzantium else frontier) := by
  cases const with
  | none => exact rewardAt_frontier_byzantium n frontier byzantium hb
  | some c =>
    by_cases hcn : c ≤ n
    · rw [if_pos (show isForked (some c) n from hcn)]
      refine rewardAt_insert_of_le (fun k hk => ?_) hcn
      rcases mem_insertAt.mp hk with hk | hk
      · exact hord k hk c rfl
      · rcases Finmap.mem_insert.mp hk with rfl | hk
        · exact hc c rfl
        · exact absurd hk Finmap.not_mem_empty
    · rw [if_neg (show ¬ isForked (some c) n from hcn), insertAt, Option.elim,
        rewardAt_insert_of_lt (by omega)]
      exact rewardAt_frontier_byzantium n frontier byzantium hb

/-- The delay map read at `n`: Byzantium's delay counts only when Constantinople
does not share its key. -/
theorem bombDelayAt_schedule :
    bombDelayAt (insertAt (insertAt ∅ byz 3000000) const 2000000) n =
      (if isForked byz n ∧ byz ≠ const then 3000000 else 0) +
        if isForked const n then 2000000 else 0 := by
  have hone : ∀ b : Int, ∀ v, bombDelayAt ((∅ : BlockMap Nat).insert b v) n = if b ≤ n then v else 0 :=
    fun b v => by rw [bombDelayAt_insert_of_not_mem Finmap.not_mem_empty, bombDelayAt_empty, zero_add]
  cases byz <;> cases const
  case none.none => rfl
  case none.some c => simp [insertAt, hone]
  case some.none b => simp [insertAt, hone]
  case some.some b c =>
    by_cases hbc : b = c
    · subst hbc
      simp [insertAt, Finmap.insert_insert, hone]
    · have hc : c ∉ (∅ : BlockMap Nat).insert b 3000000 := by
        simp [Finmap.mem_insert, Ne.symm hbc, Finmap.not_mem_empty]
      simp [insertAt, bombDelayAt_insert_of_not_mem hc, hone, hbc]

end Readings

section

variable (pp : ProtocolParams) {network : String} {genesis : Genesis} {bootnodes : List String}
  {order : RangeOrder genesis.alloc} {spec : ParityChainSpec}

/-- With Byzantium and Constantinople at non-negative blocks, in order, the reward
read at every height is the one the fork schedule puts in force. -/
theorem parity_block_reward_schedule
    (h : newParityChainSpec pp network genesis bootnodes order = .ok spec)
    (hb : ∀ b ∈ genesis.config.byzantiumBlock, 0 ≤ b)
    (hc : ∀ c ∈ genesis.config.constantinopleBlock, 0 ≤ c)
    (hord : ∀ b ∈ genesis.config.byzantiumBlock, ∀ c ∈ genesis.config.constantinopleBlock, b ≤ c)
    (n : Nat) :
    rewardAt spec.engine.blockReward n = some (scheduledReward pp genesis.config n) := by
  have hmap : spec.engine.blockReward = spec.schedules.1 := rfl
  rw [hmap, newParityChainSpec_schedules pp h]
  exact rewardAt_schedule n _ _ _ hb hc hord

/-- Rewards 5, 3 and 2 with Byzantium at block 4 and Constantinople at block 7: the
reward read at block 5 is Byzantium's. -/
theorem parity_block_reward_schedule_at_byzantium :
    let pp : ProtocolParams :=
      { (default : ProtocolParams) with
        frontierBlockReward := 5, byzantiumBlockReward := 3, constantinopleBlockReward := 2 }
    let config : ChainConfig := { ChainConfig.allForksAt 1 0 with
      byzantiumBlock := some 4, constantinopleBlock := some 7, petersburgBlock := some 7,
      istanbulBlock := none }
    ∃ spec, newParityChainSpec pp "" (.ofConfig config ∅) [] .nil = .ok spec ∧
      rewardAt spec.engine.blockReward 5 = some (scheduledReward pp config 5) ∧
      scheduledReward pp config 5 = 3 := by
  intro pp config
  refine ⟨_, rfl, ?_, by decide⟩
  exact @parity_block_reward_schedule pp "" (.ofConfig config ∅) [] .nil _ rfl
    (by simp [config, Genesis.ofConfig]) (by simp [config, Genesis.ofConfig])
    (by simp [config, Genesis.ofConfig]) 5

/-- When Constantinople comes strictly after Byzantium, the delay read at every
height is the one the fork schedule puts in force. -/
theorem parity_bomb_delay_schedule
    (h : newParityChainSpec pp network genesis bootnodes order = .ok spec)
    (hord : ∀ c ∈ genesis.config.constantinopleBlock, ∃ b ∈ genesis.config.byzantiumBlock, b < c)
    (n : Nat) :
    bombDelayAt spec.engine.difficultyBombDelays n = scheduledBombDelay genesis.config n := by
  have hmap : spec.engine.difficultyBombDelays = spec.schedules.2 := rfl
  rw [hmap, newParityChainSpec_schedules pp h, bombDelayAt_schedule, scheduledBombDelay]
  cases hc : genesis.config.constantinopleBlock with
  | none => cases genesis.config.byzantiumBlock <;> simp
  | some c =>
    obtain ⟨b, hb, hbc⟩ := hord c hc
    rw [hb]
    by_cases hcn : c ≤ n
    · have hbn : b ≤ n := by omega
      simp [hcn, hbn, hbc.ne]
    · by_cases hbn : b ≤ n <;> simp [hcn, hbn, hbc.ne]

theorem parity_bomb_delay_schedule_at_one :
    ∃ spec, newParityChainSpec default ""
        (.ofConfig { ChainConfig.allForksAt 1 0 with constantinopleBlock := some 1 } ∅) [] .nil = .ok spec ∧
      bombDelayAt spec.engine.difficultyBombDelays 1 =
        scheduledBombDelay { ChainConfig.allForksAt 1 0 with constantinopleBlock := some 1 } 1 := by
  refine ⟨_, rfl, ?_⟩
  exact @parity_bomb_delay_schedule default ""
    (.ofConfig { ChainConfig.allForksAt 1 0 with constantinopleBlock := some 1 } ∅) [] .nil _ rfl
    (by simp [ChainConfig.allForksAt, Genesis.ofConfig]) 1

/-- When Constantinople is in force and Byzantium has no key of its own, because it
is not scheduled or shares Constantinople's block, the delay read is Constantinople's
2,000,000 alone, where the fork schedule puts 5,000,000 in force. -/
theorem parity_bomb_delay_lost
    (h : newParityChainSpec pp network genesis bootnodes order = .ok spec) {c : Int}
    (hc : genesis.config.constantinopleBlock = some c)
    (hb : genesis.config.byzantiumBlock = none ∨ genesis.config.byzantiumBlock = some c)
    {n : Nat} (hcn : c ≤ n) :
    bombDelayAt spec.engine.difficultyBombDelays n = 2000000 ∧
      scheduledBombDelay genesis.config n = 5000000 := by
  have hmap : spec.engine.difficultyBombDelays = spec.schedules.2 := rfl
  rw [hmap, newParityChainSpec_schedules pp h, bombDelayAt_schedule, scheduledBombDelay, hc]
  rcases hb with hb | hb <;> simp [hb, hcn]

theorem parity_bomb_delay_lost_without_byzantium :
    ∃ spec, newParityChainSpec default "" (.ofConfig { ChainConfig.allForksAt 1 0 with
        byzantiumBlock := none, istanbulBlock := none } ∅) [] .nil = .ok spec ∧
      bombDelayAt spec.engine.difficultyBombDelays 0 = 2000000 ∧
      scheduledBombDelay { ChainConfig.allForksAt 1 0 with byzantiumBlock := none, istanbulBlock := none } 0 =
        5000000 := by
  refine ⟨_, rfl, ?_⟩
  exact @parity_bomb_delay_lost default "" (.ofConfig { ChainConfig.allForksAt 1 0 with
    byzantiumBlock := none, istanbulBlock := none } ∅) [] .nil _ rfl 0 rfl (.inl rfl) 0 le_rfl

end

/-- With every fork at block 0, the delay read at block 0 is 2,000,000, where the
fork schedule puts 5,000,000 in force. -/
theorem parity_bomb_delay_all_forks_at_zero :
    ∃ spec, newParityChainSpec default "" (.ofConfig (.allForksAt 1 0) ∅) [] .nil = .ok spec ∧
      bombDelayAt spec.engine.difficultyBombDelays 0 = 2000000 ∧
      scheduledBombDelay (.allForksAt 1 0) 0 = 5000000 :=
  ⟨_, rfl, by decide, by decide⟩

end PuppethGenesis
