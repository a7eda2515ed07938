import PicassoBootstrap.PoolPlan

set_option autoImplicit false

namespace PicassoBootstrap

open Async

def ConfiguredDelay (pool : PoolEntry) (delay : Nat) : Prop :=
  match pool.startDelay with
  | some text => Spells text delay
  | none => delay = 25

instance (pool : PoolEntry) (delay : Nat) : Decidable (ConfiguredDelay pool delay) := by
  unfold ConfiguredDelay
  split <;> infer_instance

theorem configured_delay_unique (pool : PoolEntry) (delay other : Nat) (configured : ConfiguredDelay pool delay) :
    ConfiguredDelay pool other ↔ delay = other := by
  cases text : pool.startDelay with
  | none =>
      simp only [ConfiguredDelay, text] at configured ⊢
      omega
  | some digits =>
      simp only [ConfiguredDelay, text] at configured ⊢
      constructor
      · intro spelled
        exact configured.2.2.symm.trans spelled.2.2
      · rintro rfl
        exact configured

def RunsAsConfigured (height start «end» delay : Nat) : Call → Prop
  | .pabloCreate (.liquidityBootstrapping _ _ sale _) =>
      sale.startBlock = height + start + delay ∧ sale.endBlock = sale.startBlock + «end»
  | _ => False

instance (height start «end» delay : Nat) (call : Call) : Decidable (RunsAsConfigured height start «end» delay call) := by
  unfold RunsAsConfigured
  split <;> infer_instance

-- The end block is computed from the re-printed start block; a start that the
-- codec takes prints without an exponent, so nothing is lost on the way.
theorem to_dex_sale_ok (start «end» initialWeight finalWeight : String) (height delay s e : Nat) (sale : DexSale)
    (spelledStart : Spells start s) (spelledEnd : Spells «end» e)
    (built : toDexSale start «end» initialWeight finalWeight (BigNumber.ofNat height) (some delay) = .ok sale) :
    sale.startBlock = height + s + delay ∧ sale.endBlock = height + s + delay + e := by
  simp only [toDexSale, of_string_spells _ _ spelledStart, of_string_spells _ _ spelledEnd, Option.getD_some,
    BigNumber.plus_of_nat, Fallible.bind_ok_iff, Fallible.pure_ok_iff] at built
  obtain ⟨saleStart, first, saleEnd, last, _, _, _, _, rfl⟩ := built
  obtain ⟨sameStart, short, _⟩ := (create_uint_to_string _ _ _).mp first
  have startBlock := BigNumber.of_nat_injective _ _ sameStart
  rw [BigNumber.of_string_to_string _ (by omega), BigNumber.plus_of_nat] at last
  have endBlock := BigNumber.of_nat_injective _ _ ((create_uint_to_string _ _ _).mp last).1
  exact ⟨startBlock.symm, endBlock.symm⟩

theorem lbp_config_sale (owner : KeyringPair) (pool : PoolEntry) (sale : SaleEntry) (height delay s e : Nat)
    (config : PoolInitConfiguration) (entry : pool.sale = some sale) (spelledStart : Spells sale.start s)
    (spelledEnd : Spells sale.«end» e)
    (built : toLiquidityBootstrappingPoolInitConfig owner pool (BigNumber.ofNat height) (some delay) = .ok config) :
    ∃ owner pair dexSale feeConfig, config = .liquidityBootstrapping owner pair dexSale feeConfig ∧
      dexSale.startBlock = height + s + delay ∧ dexSale.endBlock = height + s + delay + e := by
  simp only [toLiquidityBootstrappingPoolInitConfig, entry, objectField, Option.getD_some, Fallible.bind_ok_iff,
    Fallible.pure_ok_iff, Except.ok.injEq, exists_eq_left'] at built
  obtain ⟨_, _, pair, _, dexSale, converted, _, _, feeConfig, _, rfl⟩ := built
  exact ⟨_, pair, dexSale, feeConfig, rfl, to_dex_sale_ok _ _ _ _ height delay s e dexSale spelledStart spelledEnd converted⟩

-- All that the creation of a pool with a sale submits: one call, with the
-- configuration built for the height that was read and a delay of 25 blocks.
theorem submitted_lbp (api : Api) (wallets : List KeyringPair) (walletIndex : Nat) (pool : PoolEntry) (log : ChainLog)
    (height : Nat) (has_sale : pool.sale.isSome = true) (read : api.systemNumber log = .resolved height) :
    ∀ exchange ∈ added log (createPool api wallets walletIndex pool log).2, ∃ wallet config,
      toLiquidityBootstrappingPoolInitConfig wallet pool (BigNumber.ofNat height) (some 25) = .ok config ∧
        exchange.request = ⟨some wallet.publicKey, .pabloCreate config⟩ := by
  let post : Settlement String (Option BigNumber) × ChainLog → Prop := fun run =>
    ∀ exchange ∈ added log run.2, ∃ wallet config,
      toLiquidityBootstrappingPoolInitConfig wallet pool (BigNumber.ofNat height) (some 25) = .ok config ∧
        exchange.request = ⟨some wallet.publicKey, .pabloCreate config⟩
  have stop : ∀ outcome : Settlement String (Option BigNumber), outcome.isResolved = false → post (outcome, log) := by
    intro outcome _ exchange member
    simp [added] at member
  show post (createPool api wallets walletIndex pool log)
  rw [createPool, if_pos has_sale]
  apply Task.bind_silent post _ _ log rfl stop
  intro start found
  obtain rfl : start = height := by simpa [Task.read, read] using (congrArg Prod.fst found).symm
  apply Task.bind_silent post _ _ log (Task.of_except_silent _ _) stop
  intro wallet _
  apply Task.bind_silent post _ _ log (Task.of_except_silent _ _) stop
  intro config encoded
  have built := Task.of_except_resolved _ _ _ _ encoded
  rw [of_string_spells _ _ (spells_repr start)] at built
  obtain ⟨poolId, named⟩ := created_event api log wallet config
  intro exchange member
  change exchange ∈ added log (submitCreation api wallet config log).2 at member
  rw [creation_run api log wallet config poolId named, added_append, List.mem_singleton] at member
  exact ⟨wallet, config, built, by rw [member]; rfl⟩

theorem sale_runs_as_configured_iff (api : Api) (wallets : List KeyringPair) (walletIndex : Nat) (pool : PoolEntry)
    (sale : SaleEntry) (log : ChainLog) (height s e delay : Nat) (entry : pool.sale = some sale)
    (spelledStart : Spells sale.start s) (spelledEnd : Spells sale.«end» e) (configured : ConfiguredDelay pool delay)
    (read : api.systemNumber log = .resolved height) (exchange : Exchange Submission String Event)
    (created : exchange ∈ added log (createPool api wallets walletIndex pool log).2) :
    RunsAsConfigured height s e delay exchange.request.call ↔ ConfiguredDelay pool 25 := by
  obtain ⟨wallet, config, built, request⟩ :=
    submitted_lbp api wallets walletIndex pool log height (by simp [entry]) read exchange created
  obtain ⟨owner, pair, dexSale, feeConfig, rfl, startBlock, endBlock⟩ :=
    lbp_config_sale wallet pool sale height 25 s e config entry spelledStart spelledEnd built
  rw [configured_delay_unique pool delay 25 configured, request, RunsAsConfigured, startBlock, endBlock]
  omega

def salePool (startDelay : Option String) : PoolEntry :=
  ⟨true, true, true, some ⟨"700", "800"⟩, some ⟨"1", "129"⟩, some ⟨"10", "7200", "750000", "250000"⟩,
    some ⟨"10000", "10000", "10000"⟩, startDelay, none, none, none⟩

def saleCreation : Exchange Submission String Event :=
  ⟨⟨some (devWallet 1).publicKey, .pabloCreate (.liquidityBootstrapping (devWallet 1).publicKey ⟨1, 129⟩
    ⟨135, 7335, 750000, 250000⟩ ⟨10000, 10000, 10000⟩)⟩, .resolved (.pabloPoolCreated 0)⟩

theorem default_delay_runs_as_configured : RunsAsConfigured 100 10 7200 25 saleCreation.request.call :=
  (sale_runs_as_configured_iff (promptNode 100) [devWallet 1] 0 (salePool (some "25")) ⟨"10", "7200", "750000", "250000"⟩
    [] 100 10 7200 25 rfl (by decide) (by decide) (by decide) rfl saleCreation (by decide +kernel)).mpr (by decide)

theorem longer_delay_ignored :
    ConfiguredDelay (salePool (some "50")) 50 ∧
      saleCreation ∈ (bootstrapPools (promptNode 100) [salePool (some "50")] [devWallet 1] (devWallet 9) []).2 ∧
      ¬ RunsAsConfigured 100 10 7200 50 saleCreation.request.call := by
  decide +kernel

end PicassoBootstrap
