import PicassoBootstrap.BootstrapSteps
import PicassoBootstrap.Submissions

set_option autoImplicit false

namespace PicassoBootstrap

open Async

-- The widths of the types of the chain, field by field.
def CurrencyPair.Fits (pair : CurrencyPair) : Prop := pair.base < 2 ^ 128 ∧ pair.quote < 2 ^ 128

def DexSale.Fits (sale : DexSale) : Prop :=
  sale.startBlock < 2 ^ 32 ∧ sale.endBlock < 2 ^ 32 ∧ sale.initialWeight < 2 ^ 32 ∧ sale.finalWeight < 2 ^ 32

def FeeConfig.Fits (feeConfig : FeeConfig) : Prop :=
  feeConfig.feeRate < 2 ^ 32 ∧ feeConfig.ownerFeeRate < 2 ^ 32 ∧ feeConfig.protocolFeeRate < 2 ^ 32

def PoolInitConfiguration.Fits : PoolInitConfiguration → Prop
  | .liquidityBootstrapping _ pair sale feeConfig => pair.Fits ∧ sale.Fits ∧ feeConfig.Fits
  | .constantProduct _ pair fee baseWeight => pair.Fits ∧ fee < 2 ^ 32 ∧ baseWeight < 2 ^ 32
  | .stableSwap _ pair amplificationCoefficient fee =>
      pair.Fits ∧ amplificationCoefficient < 2 ^ 16 ∧ fee < 2 ^ 32

def BondDuration.Fits : BondDuration → Prop
  | .infinite => True
  | .finite returnIn => returnIn < 2 ^ 32

-- The reward is minted from its re-printed amount, which stays readable below
-- 10 ^ 21 only; that is tighter than the 128 bits of the type.
def BondOfferReward.Fits (reward : BondOfferReward) : Prop :=
  reward.asset < 2 ^ 128 ∧ reward.amount < 10 ^ 21 ∧ reward.maturity < 2 ^ 32

def BondOffer.Fits (offer : BondOffer) : Prop :=
  offer.asset < 2 ^ 128 ∧ offer.bondPrice < 2 ^ 128 ∧ offer.nbOfBonds < 2 ^ 128 ∧ offer.maturity.Fits ∧
    offer.reward.Fits

instance (pair : CurrencyPair) : Decidable pair.Fits := inferInstanceAs (Decidable (_ ∧ _))
instance (sale : DexSale) : Decidable sale.Fits := inferInstanceAs (Decidable (_ ∧ _))
instance (feeConfig : FeeConfig) : Decidable feeConfig.Fits := inferInstanceAs (Decidable (_ ∧ _))

instance (config : PoolInitConfiguration) : Decidable config.Fits :=
  match config with
  | .liquidityBootstrapping _ pair sale feeConfig =>
      inferInstanceAs (Decidable (pair.Fits ∧ sale.Fits ∧ feeConfig.Fits))
  | .constantProduct _ _ _ _ => inferInstanceAs (Decidable (_ ∧ _ ∧ _))
  | .stableSwap _ _ _ _ => inferInstanceAs (Decidable (_ ∧ _ ∧ _))

instance (duration : BondDuration) : Decidable duration.Fits :=
  match duration with
  | .infinite => inferInstanceAs (Decidable True)
  | .finite returnIn => inferInstanceAs (Decidable (returnIn < 2 ^ 32))

instance (reward : BondOfferReward) : Decidable reward.Fits := inferInstanceAs (Decidable (_ ∧ _ ∧ _))
instance (offer : BondOffer) : Decidable offer.Fits := inferInstanceAs (Decidable (_ ∧ _ ∧ _ ∧ _ ∧ _))

section Entries

-- Entries of config.json that are read back as the given values. The blocks of
-- a sale are written relative to the height at which the entry is read, so the
-- start takes a minus sign when it lies before that.
def PoolEntry.blank : PoolEntry := ⟨false, false, false, none, none, none, none, none, none, none, none⟩

def CurrencyPair.toEntry (pair : CurrencyPair) : PairEntry := ⟨toString pair.base, toString pair.quote⟩

def DexSale.toEntry (height : Nat) (sale : DexSale) : SaleEntry :=
  ⟨toString ((sale.startBlock : Int) - height - 25), toString ((sale.endBlock : Int) - sale.startBlock),
    toString sale.initialWeight, toString sale.finalWeight⟩

def FeeConfig.toEntry (feeConfig : FeeConfig) : FeeEntry :=
  ⟨toString feeConfig.feeRate, toString feeConfig.ownerFeeRate, toString feeConfig.protocolFeeRate⟩

def PoolInitConfiguration.toEntry (height : Nat) : PoolInitConfiguration → PoolEntry
  | .liquidityBootstrapping _ pair sale feeConfig =>
      { PoolEntry.blank with
        pair := some pair.toEntry, sale := some (sale.toEntry height), feeConfig := some feeConfig.toEntry }
  | .constantProduct _ pair fee baseWeight =>
      { PoolEntry.blank with
        pair := some pair.toEntry, fee := some (toString fee), baseWeight := some (toString baseWeight) }
  | .stableSwap _ pair amplificationCoefficient fee =>
      { PoolEntry.blank with
        pair := some pair.toEntry, fee := some (toString fee),
        amplificationCoefficient := some (toString amplificationCoefficient) }

def BondDuration.toEntry : BondDuration → MaturityEntry
  | .infinite => .infinite
  | .finite returnIn => .finite (toString returnIn)

def BondOffer.toEntry (offer : BondOffer) : BondOfferEntry :=
  ⟨toString offer.asset, toString offer.bondPrice, toString offer.nbOfBonds, offer.maturity.toEntry,
    ⟨toString offer.reward.asset, toString offer.reward.amount, toString offer.reward.maturity⟩⟩

end Entries

section Codecs

theorem create_uint_small (bits : Nat) (s : String) (n : Nat) (decoded : createUInt bits s = .ok n) : n < 2 ^ bits := by
  rw [createUInt, fit_uint_ok] at decoded
  exact decoded.2

theorem create_uint_default_small (bits : Nat) (field : Option String) (n : Nat)
    (decoded : createUIntOrDefault bits field = .ok n) : n < 2 ^ bits := by
  cases field with
  | none =>
      rw [← Except.ok.inj decoded]
      exact Nat.two_pow_pos bits
  | some s => exact create_uint_small bits s n decoded

theorem create_uint_printed (bits n : Nat) (small : n < 2 ^ bits) : createUInt bits (toString n) = .ok n :=
  create_uint_spells bits _ n (spells_repr n) small

theorem truthy_printed (n : Nat) : truthy (some (toString n)) = true := by
  obtain ⟨some_digit, _, _⟩ := spells_repr n
  simp only [truthy, decide_eq_true_eq]
  intro empty
  exact some_digit (by rw [empty]; rfl)

theorem of_string_int (z : Int) : BigNumber.ofString (toString z) = BigNumber.ofInt z := by
  rw [BigNumber.ofString, Decimal.parse_to_string]
  rfl

theorem plus_of_int (m n : Int) : (BigNumber.ofInt m).plus (BigNumber.ofInt n) = BigNumber.ofInt (m + n) := by
  simp only [BigNumber.plus, BigNumber.ofInt, Decimal.add_of_int]

end Codecs

section Pools

variable (wallet : KeyringPair)

theorem pair_fits (base quote : String) (pair : CurrencyPair) (converted : toPabloPoolPair base quote = .ok pair) :
    pair.Fits := by
  simp only [toPabloPoolPair, Fallible.bind_ok_iff, Fallible.pure_ok_iff] at converted
  obtain ⟨_, first, _, second, rfl⟩ := converted
  exact ⟨create_uint_small _ _ _ first, create_uint_small _ _ _ second⟩

theorem pair_spelled (pair : CurrencyPair) (fits : pair.Fits) :
    toPabloPoolPair (toString pair.base) (toString pair.quote) = .ok pair := by
  simp only [toPabloPoolPair, create_uint_printed _ _ fits.1, create_uint_printed _ _ fits.2]
  rfl

theorem sale_fits (start «end» initialWeight finalWeight : String) (currentBlock : BigNumber)
    (startDelay : Option Nat) (sale : DexSale)
    (converted : toDexSale start «end» initialWeight finalWeight currentBlock startDelay = .ok sale) : sale.Fits := by
  simp only [toDexSale, Fallible.bind_ok_iff, Fallible.pure_ok_iff] at converted
  obtain ⟨_, first, _, second, _, third, _, fourth, rfl⟩ := converted
  exact ⟨create_uint_small _ _ _ first, create_uint_small _ _ _ second, create_uint_small _ _ _ third,
    create_uint_small _ _ _ fourth⟩

-- The start is printed and read again before the end is added to it.
theorem sale_spelled (height : Nat) (sale : DexSale) (fits : sale.Fits) :
    toDexSale (toString ((sale.startBlock : Int) - height - 25)) (toString ((sale.endBlock : Int) - sale.startBlock))
      (toString sale.initialWeight) (toString sale.finalWeight) (BigNumber.ofNat height) (some 25) = .ok sale := by
  obtain ⟨start, finish, initial, final⟩ := fits
  have opened : ((BigNumber.ofNat height).plus
      (BigNumber.ofInt ((sale.startBlock : Int) - height - 25))).plus (BigNumber.ofNat 25) =
        BigNumber.ofNat sale.startBlock := by
    show ((BigNumber.ofInt height).plus _).plus (BigNumber.ofInt 25) = BigNumber.ofInt sale.startBlock
    rw [plus_of_int, plus_of_int]
    congr 1
    omega
  have closed : (BigNumber.ofNat sale.startBlock).plus
      (BigNumber.ofInt ((sale.endBlock : Int) - sale.startBlock)) = BigNumber.ofNat sale.endBlock := by
    show (BigNumber.ofInt sale.startBlock).plus _ = BigNumber.ofInt sale.endBlock
    rw [plus_of_int]
    congr 1
    omega
  have printed : ∀ block, block < 2 ^ 32 → createUInt 32 (BigNumber.ofNat block).toString = .ok block :=
    fun block small => (create_uint_to_string 32 _ block).mpr ⟨rfl, by omega, small⟩
  simp only [toDexSale, of_string_int, Option.getD_some, opened,
    BigNumber.of_string_to_string sale.startBlock (by omega), closed, printed _ start, printed _ finish,
    create_uint_printed _ _ initial, create_uint_printed _ _ final]
  rfl

theorem fee_config_fits (feeRate ownerFeeRate protocolFeeRate : String) (feeConfig : FeeConfig)
    (converted : toFeeConfig feeRate ownerFeeRate protocolFeeRate = .ok feeConfig) : feeConfig.Fits := by
  simp only [toFeeConfig, Fallible.bind_ok_iff, Fallible.pure_ok_iff] at converted
  obtain ⟨_, first, _, second, _, third, rfl⟩ := converted
  exact ⟨create_uint_small _ _ _ first, create_uint_small _ _ _ second, create_uint_small _ _ _ third⟩

theorem fee_config_spelled (feeConfig : FeeConfig) (fits : feeConfig.Fits) :
    toFeeConfig (toString feeConfig.feeRate) (toString feeConfig.ownerFeeRate) (toString feeConfig.protocolFeeRate) =
      .ok feeConfig := by
  obtain ⟨first, second, third⟩ := fits
  simp only [toFeeConfig, create_uint_printed _ _ first, create_uint_printed _ _ second,
    create_uint_printed _ _ third]
  rfl

theorem built_fits (pool : PoolEntry) (config : PoolInitConfiguration) (built : Built wallet pool config) :
    config.owner = wallet.publicKey ∧ config.Fits := by
  cases built with
  | sale currentBlock built =>
      simp only [toLiquidityBootstrappingPoolInitConfig, Fallible.bind_ok_iff, Fallible.pure_ok_iff] at built
      obtain ⟨_, _, pair, first, _, _, sale, second, _, _, feeConfig, third, rfl⟩ := built
      exact ⟨rfl, pair_fits _ _ pair first, sale_fits _ _ _ _ _ _ sale second, fee_config_fits _ _ _ feeConfig third⟩
  | weighted built =>
      simp only [toConstantProductPoolInitConfig, Fallible.bind_ok_iff, Fallible.pure_ok_iff] at built
      obtain ⟨_, _, pair, first, fee, second, baseWeight, third, rfl⟩ := built
      exact ⟨rfl, pair_fits _ _ pair first, create_uint_default_small _ _ fee second,
        create_uint_default_small _ _ baseWeight third⟩
  | amplified built =>
      simp only [toStableSwapPoolInitConfig, Fallible.bind_ok_iff, Fallible.pure_ok_iff] at built
      obtain ⟨_, _, pair, first, amplificationCoefficient, second, fee, third, rfl⟩ := built
      exact ⟨rfl, pair_fits _ _ pair first, create_uint_default_small _ _ amplificationCoefficient second,
        create_uint_default_small _ _ fee third⟩

theorem sale_entry_built (pair : CurrencyPair) (fits : pair.Fits) (height : Nat) (sale : DexSale)
    (feeConfig : FeeConfig) (saleFits : sale.Fits) (feesFit : feeConfig.Fits) :
    toLiquidityBootstrappingPoolInitConfig wallet
      ((PoolInitConfiguration.liquidityBootstrapping wallet.publicKey pair sale feeConfig).toEntry height)
      (BigNumber.ofString (toString height)) (some 25) =
        .ok (.liquidityBootstrapping wallet.publicKey pair sale feeConfig) := by
  rw [of_string_spells _ _ (spells_repr height)]
  simp only [toLiquidityBootstrappingPoolInitConfig, PoolInitConfiguration.toEntry, objectField,
    CurrencyPair.toEntry, DexSale.toEntry, FeeConfig.toEntry, Option.getD_some]
  simp only [bind, Except.bind, pair_spelled pair fits, sale_spelled height sale saleFits,
    fee_config_spelled feeConfig feesFit]
  rfl

theorem weighted_entry_built (pair : CurrencyPair) (fits : pair.Fits) (height fee baseWeight : Nat)
    (feeFits : fee < 2 ^ 32) (weightFits : baseWeight < 2 ^ 32) :
    toConstantProductPoolInitConfig wallet
      ((PoolInitConfiguration.constantProduct wallet.publicKey pair fee baseWeight).toEntry height) =
        .ok (.constantProduct wallet.publicKey pair fee baseWeight) := by
  simp only [toConstantProductPoolInitConfig, PoolInitConfiguration.toEntry, objectField, CurrencyPair.toEntry,
    toPermill, createUIntOrDefault]
  simp only [bind, Except.bind, pair_spelled pair fits, create_uint_printed _ _ feeFits,
    create_uint_printed _ _ weightFits]
  rfl

theorem amplified_entry_built (pair : CurrencyPair) (fits : pair.Fits) (height amplificationCoefficient fee : Nat)
    (coefficientFits : amplificationCoefficient < 2 ^ 16) (feeFits : fee < 2 ^ 32) :
    toStableSwapPoolInitConfig wallet
      ((PoolInitConfiguration.stableSwap wallet.publicKey pair amplificationCoefficient fee).toEntry height) =
        .ok (.stableSwap wallet.publicKey pair amplificationCoefficient fee) := by
  simp only [toStableSwapPoolInitConfig, PoolInitConfiguration.toEntry, objectField, CurrencyPair.toEntry,
    toPermill, createUIntOrDefault]
  simp only [bind, Except.bind, pair_spelled pair fits, create_uint_printed _ _ feeFits,
    create_uint_printed _ _ coefficientFits]
  rfl

theorem entry_kind (height : Nat) (config : PoolInitConfiguration) :
    (config.toEntry height).kind = some config.kind := by
  unfold PoolEntry.kind
  cases config with
  | liquidityBootstrapping owner pair sale feeConfig => rfl
  | constantProduct owner pair fee baseWeight =>
      have unsold : ¬ ((PoolInitConfiguration.constantProduct owner pair fee baseWeight).toEntry
          height).sale.isSome = true := Bool.false_ne_true
      have weighted : truthy ((PoolInitConfiguration.constantProduct owner pair fee baseWeight).toEntry
          height).baseWeight = true := truthy_printed baseWeight
      rw [if_neg unsold, if_pos weighted]
      rfl
  | stableSwap owner pair amplificationCoefficient fee =>
      have unsold : ¬ ((PoolInitConfiguration.stableSwap owner pair amplificationCoefficient fee).toEntry
          height).sale.isSome = true := Bool.false_ne_true
      have unweighted : ¬ truthy ((PoolInitConfiguration.stableSwap owner pair amplificationCoefficient fee).toEntry
          height).baseWeight = true := Bool.false_ne_true
      have amplified : truthy ((PoolInitConfiguration.stableSwap owner pair amplificationCoefficient fee).toEntry
          height).amplificationCoefficient = true := truthy_printed amplificationCoefficient
      rw [if_neg unsold, if_neg unweighted, if_pos amplified]
      rfl

theorem spelled_configuration (api : Api) (height : Nat) (config : PoolInitConfiguration) (log : ChainLog)
    (read : api.systemNumber log = .resolved height) (owned : config.owner = wallet.publicKey) (fits : config.Fits) :
    configuration api wallet (config.toEntry height) config.kind log = (.resolved config, log) := by
  cases config with
  | liquidityBootstrapping owner pair sale feeConfig =>
      obtain rfl : owner = wallet.publicKey := owned
      obtain ⟨pairFits, saleFits, feesFit⟩ := fits
      have asked : Task.read api.systemNumber log = (.resolved height, log) := by
        rw [← read]
        rfl
      have built := sale_entry_built wallet pair pairFits height sale feeConfig saleFits feesFit
      rw [PoolInitConfiguration.kind, configuration, Task.bind_resolved _ _ _ _ _ asked, built]
      rfl
  | constantProduct owner pair fee baseWeight =>
      obtain rfl : owner = wallet.publicKey := owned
      obtain ⟨pairFits, feeFits, weightFits⟩ := fits
      rw [PoolInitConfiguration.kind, configuration,
        weighted_entry_built wallet pair pairFits height fee baseWeight feeFits weightFits]
      rfl
  | stableSwap owner pair amplificationCoefficient fee =>
      obtain rfl : owner = wallet.publicKey := owned
      obtain ⟨pairFits, coefficientFits, feeFits⟩ := fits
      rw [PoolInitConfiguration.kind, configuration,
        amplified_entry_built wallet pair pairFits height amplificationCoefficient fee coefficientFits feeFits]
      rfl

theorem spelled_creation (api : Api) (wallets : List KeyringPair) (walletIndex height : Nat)
    (config : PoolInitConfiguration) (log : ChainLog) (turn : walletAt wallets walletIndex = .ok wallet)
    (read : api.systemNumber log = .resolved height) (owned : config.owner = wallet.publicKey) (fits : config.Fits) :
    createPool api wallets walletIndex (config.toEntry height) log = submitCreation api wallet config log := by
  rw [create_pool_configured api wallets walletIndex wallet _ _ turn (entry_kind height config)]
  exact Task.bind_resolved _ _ _ _ config (spelled_configuration wallet api height config log read owned fits)

-- The entry asks for nothing after the creation.
theorem spelled_pool_run (api : Api) (wallets : List KeyringPair) (walletIndex height : Nat) (walletSudo : KeyringPair)
    (config : PoolInitConfiguration) (log : ChainLog) (turn : walletAt wallets walletIndex = .ok wallet)
    (read : api.systemNumber log = .resolved height) (owned : config.owner = wallet.publicKey) (fits : config.Fits) :
    ∃ outcome, (bootstrapPool api wallets walletIndex walletSudo (config.toEntry height) log).2 =
      log ++ [⟨⟨some wallet.publicKey, .pabloCreate config⟩, outcome⟩] := by
  obtain ⟨poolId, named⟩ := created_event api log wallet config
  have created := spelled_creation wallet api wallets walletIndex height config log turn read owned fits
  rw [creation_run api log wallet config poolId named, Action.exchange] at created
  refine ⟨(creationAction api wallet config).answer log, ?_⟩
  unfold bootstrapPool
  cases answer : (creationAction api wallet config).answer log with
  | pending =>
      rw [answer] at created
      rw [Task.bind_pending _ _ _ _ created]
      rfl
  | rejected error =>
      rw [answer] at created
      rw [Task.bind_rejected _ _ _ _ error created]
      rfl
  | resolved event =>
      rw [answer] at created
      rw [Task.bind_resolved _ _ _ _ _ created]
      simp only [turn]
      cases config <;> rfl

end Pools

theorem mints_extend (api : Api) (walletSudo : KeyringPair) (holders : List KeyringPair) (assetIDs : List String)
    (amount : BigNumber) (log after : ChainLog)
    (ran : mintAssetsToWallets api holders walletSudo assetIDs amount log = (.resolved (), after)) :
    ∃ new, after = log ++ new := by
  obtain ⟨new, grown, _⟩ :=
    sudo_submits (fun _ => True) api walletSudo (.mintAssetsToWallets holders assetIDs amount) (by simp) log
  exact ⟨new, by rw [← grown, SudoOperation.run, ran]⟩

section PoolRuns

variable (api : Api) (wallets : List KeyringPair) (walletSudo : KeyringPair)

-- What a run may create: a pool of one of the wallets, signed by its owner.
def WellFormed (submission : Submission) : Prop :=
  ∀ config, submission.call = .pabloCreate config →
    ∃ wallet ∈ wallets, submission.signer = some wallet.publicKey ∧ config.owner = wallet.publicKey ∧ config.Fits

theorem well_formed_policy (pools : List PoolEntry) : PoolPolicy (WellFormed wallets) walletSudo wallets pools where
  privileged := fun call _ config same => Call.noConfusion same
  creation := fun wallet member pool _ config built other same => by
    obtain rfl : config = other := Call.pabloCreate.inj same
    obtain ⟨owned, fits⟩ := built_fits wallet pool config built
    exact ⟨wallet, member, rfl, owned, fits⟩
  liquidity := fun wallet _ _ _ _ _ _ config same => Call.noConfusion same

-- An entry of no kind uses up a turn and sends nothing.
theorem blank_pool_skipped (rest : List PoolEntry) (walletIndex : Nat) (log : ChainLog) :
    bootstrapPoolsLoop api wallets walletSudo (PoolEntry.blank :: rest) walletIndex log =
      bootstrapPoolsLoop api wallets walletSudo rest ((walletIndex + 1) % wallets.length) log := by
  have skipped : Task.attempt (bootstrapPool api wallets walletIndex walletSudo PoolEntry.blank) log =
      (.resolved (.ok ()), log) := rfl
  rw [bootstrapPoolsLoop, Task.bind_resolved _ _ _ _ _ skipped]

theorem blank_pools_skipped (count : Nat) (rest : List PoolEntry) (walletIndex : Nat) (log : ChainLog)
    (within : walletIndex + count < wallets.length) :
    bootstrapPoolsLoop api wallets walletSudo (List.replicate count PoolEntry.blank ++ rest) walletIndex log =
      bootstrapPoolsLoop api wallets walletSudo rest (walletIndex + count) log := by
  induction count generalizing walletIndex with
  | zero => rfl
  | succ count ih =>
      rw [List.replicate_succ, List.cons_append, blank_pool_skipped, Nat.mod_eq_of_lt (by omega),
        ih (walletIndex + 1) (by omega), Nat.add_right_comm, Nat.add_assoc]

theorem single_pool_run (pool : PoolEntry) (walletIndex : Nat) (log : ChainLog) :
    (bootstrapPoolsLoop api wallets walletSudo [pool] walletIndex log).2 =
      (bootstrapPool api wallets walletIndex walletSudo pool log).2 := by
  rcases ran : bootstrapPool api wallets walletIndex walletSudo pool log with ⟨outcome, after⟩
  simp only [bootstrapPoolsLoop, bind, Task.attempt, ran]
  cases outcome <;> rfl

-- The pools that a run can create are exactly those that fit the types of the
-- chain, each created by its owner, whichever wallet that is. Nothing more is
-- asked of a configuration, such as that a sale ends after it starts.
theorem created_pools_iff (log funded : ChainLog) (height : Nat) (config : PoolInitConfiguration)
    (signer : Option AccountId32) (gas : mintGas api wallets walletSudo log = (.resolved (), funded))
    (read : api.systemNumber funded = .resolved height) :
    (∃ pools, ∃ exchange ∈ added log (bootstrapPools api pools wallets walletSudo log).2,
        exchange.request = ⟨signer, .pabloCreate config⟩) ↔
      (∃ wallet ∈ wallets, signer = some wallet.publicKey ∧ config.owner = wallet.publicKey) ∧ config.Fits := by
  constructor
  · rintro ⟨pools, exchange, member, request⟩
    obtain ⟨new, grown, fine⟩ :=
      pools_submit _ api walletSudo wallets pools (well_formed_policy wallets walletSudo pools) log
    rw [grown, added_append] at member
    obtain ⟨wallet, listed, signed, owned, fits⟩ := fine exchange member config (by rw [request])
    rw [request] at signed
    exact ⟨⟨wallet, listed, signed, owned⟩, fits⟩
  · rintro ⟨⟨wallet, listed, rfl, owned⟩, fits⟩
    obtain ⟨k, inside, rfl⟩ := List.getElem_of_mem listed
    have turn : walletAt wallets k = .ok wallets[k] := by simp [walletAt, inside]
    obtain ⟨outcome, created⟩ :=
      spelled_pool_run wallets[k] api wallets k height walletSudo config _ turn read owned fits
    obtain ⟨paid, rfl⟩ := mints_extend api walletSudo _ _ _ log funded gas
    refine ⟨List.replicate k PoolEntry.blank ++ [config.toEntry height], ⟨⟨some wallets[k].publicKey,
      .pabloCreate config⟩, outcome⟩, ?_, rfl⟩
    rw [bootstrapPools, Task.bind_resolved _ _ _ _ _ gas, blank_pools_skipped api wallets walletSudo k _ 0 _
      (by omega), single_pool_run, Nat.zero_add, created, List.append_assoc, added_append]
    simp

theorem backward_sale_created :
    ∃ pools, ∃ exchange ∈ added []
        (bootstrapPools (promptNode 100) pools [devWallet 1, devWallet 2] (devWallet 9) []).2,
      exchange.request = ⟨some (devWallet 2).publicKey, .pabloCreate
        (.liquidityBootstrapping (devWallet 2).publicKey ⟨1, 129⟩ ⟨90, 60, 750000, 250000⟩ ⟨10000, 0, 0⟩)⟩ :=
  (created_pools_iff (promptNode 100) [devWallet 1, devWallet 2] (devWallet 9) []
    (fundedLog (devWallet 9) [devWallet 1, devWallet 2]) 100 _ _ (by decide +kernel) rfl).mpr
      ⟨⟨devWallet 2, by simp, rfl, rfl⟩, by decide⟩

end PoolRuns

section OfferRuns

variable (api : Api) (wallet walletSudo : KeyringPair)

def OwnOffer (submission : Submission) : Prop :=
  ∀ beneficiary offer keepAlive, submission.call = .bondedFinanceOffer beneficiary offer keepAlive →
    submission.signer = some wallet.publicKey ∧ beneficiary = wallet.publicKey ∧ keepAlive = false ∧ offer.Fits

theorem privileged_own_offer (call : Call) (_ : call.privileged = true) :
    OwnOffer wallet ⟨some walletSudo.publicKey, .sudoSudo call⟩ :=
  fun _ _ _ same => Call.noConfusion same

theorem duration_fits (entry : MaturityEntry) (maturity : BondDuration)
    (converted : toBondDuration entry = .ok maturity) : maturity.Fits := by
  cases entry with
  | infinite =>
      rw [← Except.ok.inj converted]
      trivial
  | finite returnIn =>
      obtain ⟨blocks, decoded, rfl⟩ := (Fallible.map_ok_iff _ _ _).mp converted
      exact create_uint_small _ _ _ decoded

theorem offer_fits (entry : BondOfferEntry) (offer : BondOffer) (minted : Nat)
    (parsed : BigNumber.ofString entry.reward.amount = BigNumber.ofNat minted) (printed : minted < 10 ^ 21)
    (converted : toBondOffer entry = .ok offer) : offer.Fits := by
  simp only [toBondOffer, Fallible.bind_ok_iff, Fallible.pure_ok_iff] at converted
  obtain ⟨maturity, first, _, second, _, third, _, fourth, _, fifth, amount, sixth, _, seventh, rfl⟩ := converted
  have same := BigNumber.of_nat_injective _ _ (parsed.symm.trans (raw_agrees 128 _ amount _ sixth parsed))
  exact ⟨create_uint_small _ _ _ second, create_uint_small _ _ _ third, create_uint_small _ _ _ fourth,
    duration_fits _ maturity first, create_uint_small _ _ _ fifth, by rw [← same]; exact printed,
    create_uint_small _ _ _ seventh⟩

theorem offer_spelled (offer : BondOffer) (fits : offer.Fits) : toBondOffer offer.toEntry = .ok offer := by
  obtain ⟨asset, bondPrice, nbOfBonds, maturity, rewardAsset, amount, rewardMaturity⟩ := fits
  have lasting : toBondDuration offer.maturity.toEntry = .ok offer.maturity := by
    cases duration : offer.maturity with
    | infinite => rfl
    | finite returnIn =>
        rw [duration] at maturity
        simp only [BondDuration.toEntry, toBondDuration, create_uint_printed _ _ maturity]
        rfl
  simp only [toBondOffer, BondOffer.toEntry]
  simp only [bind, Except.bind, lasting, create_uint_printed _ _ asset, create_uint_printed _ _ bondPrice,
    create_uint_printed _ _ nbOfBonds, create_uint_printed _ _ rewardAsset,
    create_uint_printed 128 _ (by omega : offer.reward.amount < 2 ^ 128), create_uint_printed _ _ rewardMaturity]
  rfl

theorem own_offers_sent (bondOffers : List BondOfferEntry) :
    Task.Sends (OwnOffer wallet) (bootstrapBondOffers api bondOffers wallet walletSudo) := by
  have mints := sudo_submits (OwnOffer wallet) api walletSudo
  refine Task.sends_bind _ _ _ (mints (.mintAssetsToWallets [wallet] ["1"] _) (privileged_own_offer wallet walletSudo))
    fun _ => ?_
  refine Task.sends_for_m _ bondOffers _ fun entry _ => ?_
  rw [single_mint, Task.submit_all_singleton, bind_assoc]
  refine Task.sends_submit_then _ _ _ ?_ fun action encoded _ => ?_
  · intro action encoded
    obtain ⟨mint, _, rfl⟩ := (Fallible.map_ok_iff _ _ _).mp encoded
    exact privileged_own_offer wallet walletSudo mint.call rfl
  obtain ⟨_, minted, _, parsed, printed, _⟩ := (mint_item_ok_iff _ _ _ _ _ _).mp encoded
  rw [pure_bind]
  refine Task.sends_convert _ _ _ fun bondOffer converted => ?_
  refine Task.sends_then _ _ _ (signed_submits _ api wallet _ _ ?_)
  rintro call sent beneficiary offer keepAlive same
  rw [← Except.ok.inj sent] at same
  obtain ⟨rfl, rfl, rfl⟩ := Call.bondedFinanceOffer.inj same
  exact ⟨rfl, rfl, rfl, offer_fits entry _ minted parsed printed converted⟩

theorem spelled_offer_items (offer : BondOffer) (fits : offer.Fits) :
    (offerIntents wallet offer.toEntry).map (Intent.item api walletSudo) =
      [.ok (mintAction api walletSudo ⟨offer.reward.asset, wallet.publicKey, offer.reward.amount⟩),
        .ok (offerAction api wallet offer)] := by
  obtain ⟨_, _, _, _, asset, amount, _⟩ := id fits
  have encoded : mintItem api walletSudo ⟨offer.toEntry.reward.asset, .publicKey wallet.publicKey,
      (BigNumber.ofString offer.toEntry.reward.amount).toString⟩ =
        .ok (mintAction api walletSudo ⟨offer.reward.asset, wallet.publicKey, offer.reward.amount⟩) :=
    (mint_item_ok_iff _ _ _ _ _ _).mpr ⟨offer.reward.asset, offer.reward.amount, create_uint_printed _ _ asset,
      of_string_spells _ _ (spells_repr _), amount, rfl⟩
  simp only [offerIntents, List.map_cons, List.map_nil, Intent.item, encoded, offer_spelled offer fits]
  rfl

theorem spelled_offer_run (offer : BondOffer) (fits : offer.Fits) (log funded : ChainLog)
    (gas : mintAssetsToWallets api [wallet] walletSudo ["1"] (toChainUnits (BigNumber.ofNat 50) none) log =
      (.resolved (), funded))
    (minted : ((mintAction api walletSudo ⟨offer.reward.asset, wallet.publicKey, offer.reward.amount⟩).answer
      funded).isResolved = true) :
    ∃ mint outcome later, (bootstrapBondOffers api [offer.toEntry] wallet walletSudo log).2 =
      funded ++ mint :: ⟨⟨some wallet.publicKey, .bondedFinanceOffer wallet.publicKey offer false⟩, outcome⟩ ::
        later := by
  rw [gas_flat] at gas
  rw [bond_offers_flat, bondIntents, List.flatMap_singleton, List.map_append, Task.submit_all_append,
    Task.bind_resolved _ _ _ _ _ gas, spelled_offer_items api wallet walletSudo offer fits, Task.submit_all_cons]
  generalize mintAction api walletSudo ⟨offer.reward.asset, wallet.publicKey, offer.reward.amount⟩ = mint at minted
  cases answered : mint.answer funded with
  | pending => simp [answered, Settlement.isResolved] at minted
  | rejected error => simp [answered, Settlement.isResolved] at minted
  | resolved event =>
      obtain ⟨later, grown⟩ :=
        Task.submit_all_head (offerAction api wallet offer) [] (funded ++ [⟨mint.request, .resolved event⟩])
      rw [Task.bind_resolved _ _ _ _ event (by rw [Task.submit_ok, answered]), grown, List.append_assoc]
      exact ⟨_, _, later, rfl⟩

-- The offers that a run can make are exactly those whose fields fit, made by
-- the wallet to itself.
theorem offered_bonds_iff (log funded : ChainLog) (signer : Option AccountId32) (beneficiary : AccountId32)
    (offer : BondOffer) (keepAlive : Bool)
    (gas : mintAssetsToWallets api [wallet] walletSudo ["1"] (toChainUnits (BigNumber.ofNat 50) none) log =
      (.resolved (), funded))
    (minted : ((mintAction api walletSudo ⟨offer.reward.asset, wallet.publicKey, offer.reward.amount⟩).answer
      funded).isResolved = true) :
    (∃ bondOffers, ∃ exchange ∈ added log (bootstrapBondOffers api bondOffers wallet walletSudo log).2,
        exchange.request = ⟨signer, .bondedFinanceOffer beneficiary offer keepAlive⟩) ↔
      signer = some wallet.publicKey ∧ beneficiary = wallet.publicKey ∧ keepAlive = false ∧ offer.Fits := by
  constructor
  · rintro ⟨bondOffers, exchange, member, request⟩
    obtain ⟨new, grown, fine⟩ := own_offers_sent api wallet walletSudo bondOffers log
    rw [grown, added_append] at member
    have own := fine exchange member
    rw [request] at own
    exact own beneficiary offer keepAlive rfl
  · rintro ⟨rfl, rfl, rfl, fits⟩
    obtain ⟨paid, rfl⟩ := mints_extend api walletSudo _ _ _ log funded gas
    obtain ⟨mint, outcome, later, grown⟩ := spelled_offer_run api wallet walletSudo offer fits log _ gas minted
    refine ⟨[offer.toEntry], ⟨⟨some wallet.publicKey, .bondedFinanceOffer wallet.publicKey offer false⟩, outcome⟩,
      ?_, rfl⟩
    rw [grown, List.append_assoc, added_append]
    simp

-- A reward of 10 ^ 21 is a number of 128 bits, but no entry leads to it.
theorem large_reward_never_offered :
    ¬ ∃ bondOffers, ∃ exchange ∈ added [] (bootstrapBondOffers (promptNode 100) bondOffers (devWallet 1)
        (devWallet 9) []).2,
      exchange.request = ⟨some (devWallet 1).publicKey, .bondedFinanceOffer (devWallet 1).publicKey
        ⟨4, 1000, 10, .infinite, ⟨5, 10 ^ 21, 100⟩⟩ false⟩ := fun offered =>
  absurd ((offered_bonds_iff (promptNode 100) (devWallet 1) (devWallet 9) []
    (fundedLog (devWallet 9) [devWallet 1]) _ _ _ _ (by decide +kernel) (by decide +kernel)).mp offered).2.2.2
      (by decide)

end OfferRuns

end PicassoBootstrap
