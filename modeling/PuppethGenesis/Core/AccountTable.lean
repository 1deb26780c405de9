import PuppethGenesis.Core.Genesis

/-!
# Account tables and the precompile registry

Both Format A and Format B documents hold a Go map from address to account. Two
kinds of loop write it: the `range` over the allocation, which writes each
allocated address once, and a sequence of `setPrecompile` calls, each an upsert
that replaces the builtin of one account and keeps the rest of it. The registry
view of the second is `lastWrite`: at each address, the last definition written.
-/

namespace PuppethGenesis

variable {Acc D V : Type}

/-- A document's account table, `map[common.Address]*account`. -/
abbrev AccountTable (Acc : Type) := Finmap fun _ : Address => Acc

/-- `spec.Accounts[addr]`, created as `empty` when absent, then changed by `f`. -/
def upsert (empty : Acc) (f : Acc → Acc) (addr : Address) (t : AccountTable Acc) :
    AccountTable Acc :=
  t.insert addr (f ((t.lookup addr).getD empty))

theorem lookup_upsert (empty : Acc) (f : Acc → Acc) (addr x : Address) (t : AccountTable Acc) :
    (upsert empty f addr t).lookup x =
      if x = addr then some (f ((t.lookup x).getD empty)) else t.lookup x := by
  unfold upsert
  split_ifs with h
  · subst h
    exact Finmap.lookup_insert _
  · exact Finmap.lookup_insert_of_ne _ h

/-! ## The allocation loop -/

/-- A `range` loop over entries with distinct keys that writes `g v old` at each
entry `⟨a, v⟩`, `old` being what the table held at `a`. -/
def writeEach (g : V → Option Acc → Acc) (l : List (Σ _ : Address, V)) (t : AccountTable Acc) :
    AccountTable Acc :=
  l.foldl (fun t e => t.insert e.1 (g e.2 (t.lookup e.1))) t

/-- Each key is written once, so the loop's result at `x` is the one write there. -/
theorem lookup_writeEach (g : V → Option Acc → Acc) {l : List (Σ _ : Address, V)}
    (hl : l.NodupKeys) (t : AccountTable Acc) (x : Address) :
    (writeEach g l t).lookup x =
      (l.dlookup x).elim (t.lookup x) fun v => some (g v (t.lookup x)) := by
  induction l generalizing t with
  | nil => rfl
  | cons e l ih =>
    obtain ⟨a, v⟩ := e
    obtain ⟨ha, hl⟩ := List.nodupKeys_cons.mp hl
    rw [writeEach, List.foldl_cons, ← writeEach, ih hl]
    by_cases hx : x = a
    · subst hx
      simp [List.dlookup_eq_none.mpr ha, List.dlookup_cons_eq]
    · simp [List.dlookup_cons_ne l ⟨a, v⟩ hx, Finmap.lookup_insert_of_ne _ hx]

/-- Over a whole allocation, the loop's result does not depend on the visit order. -/
theorem lookup_writeEach_visit (g : GenesisAccount → Option Acc → Acc) {alloc : GenesisAlloc}
    (order : RangeOrder alloc) (t : AccountTable Acc) (x : Address) :
    (writeEach g order.visit t).lookup x =
      (alloc.lookup x).elim (t.lookup x) fun v => some (g v (t.lookup x)) := by
  rw [lookup_writeEach g order.nodupKeys, order.dlookup_visit]

theorem writeEach_visit_eq (g : GenesisAccount → Option Acc → Acc) {alloc : GenesisAlloc}
    (o₁ o₂ : RangeOrder alloc) (t : AccountTable Acc) :
    writeEach g o₁.visit t = writeEach g o₂.visit t :=
  Finmap.ext_lookup fun x => by rw [lookup_writeEach_visit, lookup_writeEach_visit]

/-! ## The precompile registry -/

/-- The definition that a sequence of `setPrecompile(address, data)` calls leaves at
`x`: the last one written there. -/
def lastWrite (ups : List (UInt8 × D)) (x : Address) : Option D :=
  (ups.reverse.find? fun u => bytesToAddress u.1 = x).map Prod.snd

theorem lastWrite_append_singleton (ups : List (UInt8 × D)) (u : UInt8 × D) (x : Address) :
    lastWrite (ups ++ [u]) x = if bytesToAddress u.1 = x then some u.2 else lastWrite ups x := by
  by_cases h : bytesToAddress u.1 = x <;> simp [lastWrite, h]

@[simp] theorem lastWrite_cons (u : UInt8 × D) (ups : List (UInt8 × D)) (x : Address) :
    lastWrite (u :: ups) x =
      (lastWrite ups x).or (if bytesToAddress u.1 = x then some u.2 else none) := by
  unfold lastWrite
  rw [List.reverse_cons, List.find?_append]
  cases (ups.reverse.find? fun u => bytesToAddress u.1 = x) <;>
    by_cases h : bytesToAddress u.1 = x <;> simp [h]

/-- The last write at `x` is one of the calls, made at `x`. -/
theorem lastWrite_eq_some {ups : List (UInt8 × D)} {x : Address} {d : D}
    (h : lastWrite ups x = some d) : ∃ u ∈ ups, bytesToAddress u.1 = x ∧ u.2 = d := by
  obtain ⟨u, hu, rfl⟩ := Option.map_eq_some'.mp h
  exact ⟨u, List.mem_reverse.mp (List.mem_of_find?_eq_some hu), by simpa using List.find?_some hu, rfl⟩

@[simp] theorem lastWrite_nil (x : Address) : lastWrite ([] : List (UInt8 × D)) x = none := rfl

/-- `setPrecompile` over a list of `(address, data)` calls, in order; `set` writes
the builtin field of an account. -/
def setPrecompiles (empty : Acc) (set : Acc → D → Acc) (ups : List (UInt8 × D))
    (t : AccountTable Acc) : AccountTable Acc :=
  ups.foldl (fun t u => upsert empty (fun a => set a u.2) (bytesToAddress u.1) t) t

theorem setPrecompiles_append_singleton (empty : Acc) (set : Acc → D → Acc)
    (ups : List (UInt8 × D)) (u : UInt8 × D) (t : AccountTable Acc) :
    setPrecompiles empty set (ups ++ [u]) t =
      upsert empty (fun a => set a u.2) (bytesToAddress u.1) (setPrecompiles empty set ups t) := by
  simp [setPrecompiles]

/-- Refinement of the registry: after the calls, each address holds its account as
it was, with the builtin the registry's last write there. -/
theorem lookup_setPrecompiles (empty : Acc) (set : Acc → D → Acc)
    (hset : ∀ a d d', set (set a d) d' = set a d') (ups : List (UInt8 × D))
    (t : AccountTable Acc) (x : Address) :
    (setPrecompiles empty set ups t).lookup x =
      (lastWrite ups x).elim (t.lookup x) fun d => some (set ((t.lookup x).getD empty) d) := by
  induction ups using List.reverseRecOn with
  | nil => rfl
  | append_singleton ups u ih =>
    rw [setPrecompiles_append_singleton, lookup_upsert, lastWrite_append_singleton, ih]
    by_cases h : x = bytesToAddress u.1
    · subst h
      cases lastWrite ups (bytesToAddress u.1) <;> simp [hset]
    · simp [h, Ne.symm h]

end PuppethGenesis
