import PicassoBootstrap.MainPlan
import PicassoBootstrap.Market

set_option autoImplicit false

namespace PicassoBootstrap

open Async Market

section PoolBlocks

variable (walletSudo wallet : AccountId32) (pool : PoolEntry) (poolId : Nat)

def followUps : List ChainStep :=
  (liquiditySteps walletSudo wallet pool poolId ++
    (routeSteps walletSudo pool poolId ++ twapSteps walletSudo pool poolId)).map .pool

theorem plan_steps (kind : PoolKind) (recognised : pool.kind = some kind) :
    (plan walletSudo wallet pool poolId).map .pool =
      .pool (.create kind wallet wallet pool.currencyPair poolId) :: followUps walletSudo wallet pool poolId := by
  rw [plan, recognised, followUps, List.map_cons]

theorem follow_up_cases (step : ChainStep) (member : step ∈ followUps walletSudo wallet pool poolId) :
    (∃ asset amount, step = .pool (.mint walletSudo asset wallet amount)) ∨
      step = .pool (.addLiquidity wallet poolId pool.baseAmount pool.quoteAmount) ∨
      step = .pool (.setRoute walletSudo pool.currencyPair [poolId]) ∨
      step = .pool (.enableTwap walletSudo poolId) := by
  simp only [followUps, liquiditySteps, routeSteps, twapSteps, List.mem_map, List.mem_append,
    List.mem_ite_nil_right, List.mem_cons, List.not_mem_nil, or_false] at member
  obtain ⟨poolStep, ⟨_, rfl | rfl | rfl⟩ | ⟨_, rfl⟩ | ⟨_, rfl⟩, rfl⟩ := member
  · exact .inl ⟨_, _, rfl⟩
  · exact .inl ⟨_, _, rfl⟩
  · exact .inr (.inl rfl)
  · exact .inr (.inr (.inl rfl))
  · exact .inr (.inr (.inr rfl))

theorem follow_ups_uncreated (market : Market) :
    ∀ step ∈ followUps walletSudo wallet pool poolId, market.register step = market := by
  intro step member
  rcases follow_up_cases walletSudo wallet pool poolId step member with ⟨asset, amount, rfl⟩ | rfl | rfl | rfl
  · rfl
  · rfl
  · rfl
  · rfl

theorem pool_plan_in_order : InOrder walletSudo ((plan walletSudo wallet pool poolId).map .pool) := by
  intro market
  cases recognised : pool.kind with
  | none =>
      rw [plan, recognised]
      trivial
  | some kind =>
      rw [plan_steps walletSudo wallet pool poolId kind recognised]
      refine ⟨rfl, permitted_uncreated _ _ _ (follow_ups_uncreated walletSudo wallet pool poolId _) ?_⟩
      have found := lookup_created market ⟨poolId, wallet, pool.currencyPair⟩
      intro step member
      rcases follow_up_cases walletSudo wallet pool poolId step member with ⟨asset, amount, rfl⟩ | rfl | rfl | rfl
      · rfl
      · exact ⟨_, found, rfl⟩
      · refine ⟨rfl, ?_⟩
        intro routed inside
        rw [List.mem_singleton.mp inside]
        exact ⟨_, found, rfl⟩
      · exact ⟨rfl, _, found⟩

def poolPayments : List (Account × Nat) :=
  if pool.addLiquidity then
    [((wallet, pool.currencyPair.base), pool.baseAmount), ((wallet, pool.currencyPair.quote), pool.quoteAmount)]
  else []

theorem follow_ups_bookings (market : Market)
    (found : market.lookup poolId = some ⟨poolId, wallet, pool.currencyPair⟩) :
    (followUps walletSudo wallet pool poolId).flatMap market.bookings =
      Ledger.credits (poolPayments wallet pool) ++ Ledger.debits (poolPayments wallet pool) := by
  have routed : (routeSteps walletSudo pool poolId).flatMap (fun step => market.bookings (.pool step)) = [] := by
    unfold routeSteps
    split <;> rfl
  have tracked : (twapSteps walletSudo pool poolId).flatMap (fun step => market.bookings (.pool step)) = [] := by
    unfold twapSteps
    split <;> rfl
  rw [followUps, List.flatMap_map, List.flatMap_append, List.flatMap_append, routed, tracked, List.append_nil,
    List.append_nil, liquiditySteps, poolPayments]
  split
  · simp only [List.flatMap_cons, List.flatMap_nil, bookings, found, Ledger.credits, Ledger.debits, List.map_cons,
      List.map_nil, List.cons_append, List.nil_append]
  · rfl

-- Everything that an entry spends was minted for it just before.
theorem pool_plan_book (market : Market) :
    book market ((plan walletSudo wallet pool poolId).map .pool) =
      if pool.kind.isSome then
        Ledger.credits (poolPayments wallet pool) ++ Ledger.debits (poolPayments wallet pool) else [] := by
  cases recognised : pool.kind with
  | none =>
      rw [plan, recognised]
      rfl
  | some kind =>
      have spent := follow_ups_bookings walletSudo wallet pool poolId _
        (lookup_created market ⟨poolId, wallet, pool.currencyPair⟩)
      rw [plan_steps walletSudo wallet pool poolId kind recognised, book,
        book_uncreated _ _ (follow_ups_uncreated walletSudo wallet pool poolId _)]
      exact spent

theorem pool_plan_financed : Financed ((plan walletSudo wallet pool poolId).map .pool) := by
  intro market
  rw [pool_plan_book]
  split
  · exact Ledger.self_financed_spent (poolPayments wallet pool)
  · exact Ledger.self_financed_nil

theorem pool_plan_leaves : Leaves (fun _ => 0) ((plan walletSudo wallet pool poolId).map .pool) := by
  intro market account
  rw [minted, spent, pool_plan_book]
  split
  · exact Ledger.spent_balances _ account
  · rfl

end PoolBlocks

section IntentBlocks

variable (api : Api) (walletSudo : KeyringPair)

theorem mint_step_in_order (mint : Mint) : InOrder walletSudo.publicKey [mintStep walletSudo mint] :=
  fun _ => ⟨rfl, trivial⟩

theorem mint_step_book (market : Market) (mint : Mint) :
    book market [mintStep walletSudo mint] = Ledger.credits [((mint.account, mint.asset), mint.amount)] := rfl

theorem mint_step_financed (mint : Mint) : Financed [mintStep walletSudo mint] :=
  fun _ => Ledger.self_financed_credits [((mint.account, mint.asset), mint.amount)]

theorem mint_intent_throughout (property : List ChainStep → Prop) (composable : Composable property)
    (minted : ∀ mint, property [mintStep walletSudo mint]) (args : List MintArgs) :
    Throughout property ((args.map Intent.mint).map (Intent.step api walletSudo)) := by
  rw [List.map_map, List.map_eq_flatMap]
  refine composable.throughout.flat_map _ _ _ fun item _ => ?_
  refine composable.throughout_one _ _ fun step encoded => ?_
  obtain ⟨mint, _, rfl⟩ := (Fallible.map_ok_iff _ _ _).mp encoded
  exact minted mint

-- The reward that an offer promises is what was minted for it.
theorem offer_reward_minted (wallet : KeyringPair) (entry : BondOfferEntry) (mint : Mint) (offer : BondOffer)
    (decoded : MintArgs.decode api ⟨entry.reward.asset, .publicKey wallet.publicKey,
      (BigNumber.ofString entry.reward.amount).toString⟩ = .ok mint)
    (converted : toBondOffer entry = .ok offer) :
    mint = ⟨offer.reward.asset, wallet.publicKey, offer.reward.amount⟩ := by
  simp only [MintArgs.decode, Destination.decode, Fallible.bind_ok_iff, Fallible.pure_ok_iff, Except.ok.injEq,
    exists_eq_left', create_u128_to_string] at decoded
  simp only [toBondOffer, Fallible.bind_ok_iff, Fallible.pure_ok_iff] at converted
  obtain ⟨asset, named, minted, ⟨parsed, _⟩, rfl⟩ := decoded
  obtain ⟨_, _, _, _, _, _, _, _, rewardAsset, again, rewardAmount, raw, _, _, rfl⟩ := converted
  obtain rfl : asset = rewardAsset := by simpa [named] using again
  have spelled := raw_agrees 128 entry.reward.amount rewardAmount (Decimal.ofNat minted) raw parsed
  obtain rfl : minted = rewardAmount := BigNumber.of_nat_injective _ _ (parsed.symm.trans spelled)
  rfl

def rewardMint (wallet : KeyringPair) (offer : BondOffer) : Mint :=
  ⟨offer.reward.asset, wallet.publicKey, offer.reward.amount⟩

def offerSteps (wallet : KeyringPair) (offer : BondOffer) : List ChainStep :=
  [mintStep walletSudo (rewardMint wallet offer), .offer wallet.publicKey wallet.publicKey offer]

theorem offer_steps_in_order (wallet : KeyringPair) (offer : BondOffer) :
    InOrder walletSudo.publicKey (offerSteps walletSudo wallet offer) := fun _ => ⟨rfl, rfl, trivial⟩

theorem offer_steps_book (wallet : KeyringPair) (offer : BondOffer) (market : Market) :
    book market (offerSteps walletSudo wallet offer) =
      Ledger.credits [((wallet.publicKey, offer.reward.asset), offer.reward.amount)] ++
        Ledger.debits [((wallet.publicKey, offer.reward.asset), offer.reward.amount)] := rfl

theorem offer_steps_financed (wallet : KeyringPair) (offer : BondOffer) :
    Financed (offerSteps walletSudo wallet offer) := by
  intro market
  rw [offer_steps_book]
  exact Ledger.self_financed_spent _

theorem offer_steps_leaves (wallet : KeyringPair) (offer : BondOffer) :
    Leaves (fun _ => 0) (offerSteps walletSudo wallet offer) := by
  intro market account
  rw [minted, spent, offer_steps_book]
  exact Ledger.spent_balances _ account

theorem offer_intent_steps (wallet : KeyringPair) (entry : BondOfferEntry) (step next : ChainStep)
    (minted : (Intent.mint ⟨entry.reward.asset, .publicKey wallet.publicKey,
      (BigNumber.ofString entry.reward.amount).toString⟩).step api walletSudo = .ok step)
    (offered : (Intent.offer wallet entry).step api walletSudo = .ok next) :
    ∃ offer, [step, next] = offerSteps walletSudo wallet offer := by
  obtain ⟨mint, decoded, rfl⟩ := (Fallible.map_ok_iff _ _ _).mp minted
  obtain ⟨offer, converted, rfl⟩ := (Fallible.map_ok_iff _ _ _).mp offered
  rw [offer_reward_minted api wallet entry mint offer decoded converted]
  exact ⟨offer, rfl⟩

end IntentBlocks

section Stages

variable (api : Api) (config : Config) (wallets : List KeyringPair) (some_wallet : wallets ≠ [])
  (walletSudo : KeyringPair) (property : List ChainStep → Prop)

-- What holds of a mint, of an offer with its mint, and of a pool with its
-- follow-ups holds of whatever a stage has done.
theorem stages_throughout (ids : List Nat) (composable : Composable property)
    (minted : ∀ mint, property [mintStep walletSudo mint])
    (offered : ∀ wallet offer, property (offerSteps walletSudo wallet offer))
    (pooled : ∀ wallet pool poolId, property ((plan walletSudo.publicKey wallet pool poolId).map .pool)) :
    ∀ stage ∈ stages api config wallets some_wallet walletSudo ids, Throughout property stage.plan := by
  have mints := mint_intent_throughout api walletSudo property composable minted
  have nothing : Throughout property ([] : StepPlan) := composable.throughout.empty
  have bonds : Throughout property (bondsPlan api config wallets some_wallet walletSudo) := by
    unfold bondsPlan
    split
    · rw [bondIntents, List.map_append, List.map_flatMap]
      refine composable.throughout.append _ _ (mints _) (composable.throughout.flat_map _ _ _ fun entry _ => ?_)
      refine composable.throughout_two property _ _ ?_ ?_
      · intro step encoded
        obtain ⟨mint, _, rfl⟩ := (Fallible.map_ok_iff _ _ _).mp encoded
        exact minted mint
      · intro step next first second
        obtain ⟨offer, same⟩ := offer_intent_steps api walletSudo _ entry step next first second
        exact same ▸ offered _ offer
    · exact nothing
  have gas : Throughout property (gasPlan api config wallets walletSudo) := by
    unfold gasPlan
    split
    · exact mints _
    · exact nothing
  have pools : Throughout property (poolsPlan config wallets some_wallet walletSudo ids) := by
    unfold poolsPlan
    split
    · have all : property ((planFrom walletSudo wallets some_wallet config.pools ids 0).map .pool) := by
        rw [planFrom, List.map_flatMap]
        exact composable.flat_map _ _ _ fun entry _ => pooled _ entry.1.1 entry.1.2
      have encoded := composable.throughout_encoded (ε := String) property _ all
      rwa [List.map_map] at encoded
    · exact nothing
  have assets : Throughout property (assetsPlan api config walletSudo) := by
    unfold assetsPlan
    split
    · exact mints _
    · exact nothing
  intro stage member
  have listed := List.mem_map_of_mem (f := Stage.plan) member
  simp only [stages_plans, List.mem_cons, List.not_mem_nil, or_false] at listed
  rcases listed with same | same | same | same <;> rw [same]
  · exact bonds
  · exact gas
  · exact pools
  · exact assets

end Stages

section Leftovers

def LeavesWhole (left : Account → Nat) (entries : StepPlan) : Prop :=
  ∀ steps : List ChainStep, steps.map .ok = entries → Leaves left steps

theorem leaves_whole_nil : LeavesWhole (fun _ => 0) [] := by
  intro steps whole
  obtain rfl : steps = [] := by simpa using whole
  exact fun _ _ => rfl

theorem leaves_whole_same (left right : Account → Nat) (entries : StepPlan) (holds : LeavesWhole left entries)
    (same : ∀ account, left account = right account) : LeavesWhole right entries :=
  funext same ▸ holds

theorem leaves_whole_append (first second : Account → Nat) (before after : StepPlan) (head : LeavesWhole first before)
    (tail : LeavesWhole second after) :
    LeavesWhole (fun account => first account + second account) (before ++ after) := by
  intro steps whole
  obtain ⟨left, right, rfl, former, latter⟩ := List.map_eq_append_iff.mp whole
  exact leaves_append first second left right (head left former) (tail right latter)

theorem leaves_whole_flat_map {ι : Type} (xs : List ι) (left : ι → Account → Nat) (entries : ι → StepPlan)
    (each : ∀ x ∈ xs, LeavesWhole (left x) (entries x)) :
    LeavesWhole (fun account => (xs.map fun x => left x account).sum) (xs.flatMap entries) := by
  induction xs with
  | nil => exact leaves_whole_nil
  | cons x rest ih =>
      have both := leaves_whole_append _ _ _ _ (each x (by simp)) (ih fun other member => each other (by simp [member]))
      simpa using both

def granted (api : Api) (args : List MintArgs) (account : Account) : Nat :=
  (args.map fun item => item.share api account.2 account.1).sum

variable (api : Api) (config : Config) (wallets : List KeyringPair) (some_wallet : wallets ≠ [])
  (walletSudo : KeyringPair)

theorem mints_leave (args : List MintArgs) :
    LeavesWhole (granted api args) ((args.map Intent.mint).map (Intent.step api walletSudo)) := by
  rw [List.map_map, List.map_eq_flatMap]
  refine leaves_whole_flat_map args (fun item account => item.share api account.2 account.1) _ ?_
  intro item _ steps whole
  obtain ⟨step, rest, rfl, encoded, ended⟩ := List.map_eq_cons_iff.mp whole
  obtain rfl : rest = [] := by simpa using ended
  obtain ⟨mint, decoded, rfl⟩ := (Fallible.map_ok_iff _ _ _).mp encoded.symm
  intro market account
  obtain ⟨holder, asset⟩ := account
  rw [minted, spent, mint_step_book]
  simp [Ledger.credits, Ledger.credited, Ledger.debited, Ledger.Entry.inflow, Ledger.Entry.outflow, MintArgs.share,
    decoded, Mint.share, and_comm]

theorem offer_leaves (wallet : KeyringPair) (entry : BondOfferEntry) :
    LeavesWhole (fun _ => 0) ((offerIntents wallet entry).map (Intent.step api walletSudo)) := by
  intro steps whole
  obtain ⟨step, _, rfl, minted, others⟩ := List.map_eq_cons_iff.mp whole
  obtain ⟨next, rest, rfl, offered, ended⟩ := List.map_eq_cons_iff.mp others
  obtain rfl : rest = [] := by simpa using ended
  obtain ⟨offer, same⟩ := offer_intent_steps api walletSudo wallet entry step next minted.symm offered.symm
  rw [same]
  exact offer_steps_leaves walletSudo wallet offer

-- The mints that nothing in the run spends again: the gas, and the listed assets.
def keptMints : List MintArgs :=
  (if config.bootstrapBonds then gasArgs [walletFor wallets some_wallet 0] else []) ++
    ((if config.bootstrapPools then gasArgs wallets else []) ++
      if config.mintAssetsToWallets then listedArgs config.mintAssets else [])

theorem stages_leave (ids : List Nat) :
    LeavesWhole (granted api (keptMints config wallets some_wallet))
      ((stages api config wallets some_wallet walletSudo ids).flatMap Stage.plan) := by
  have bonds : LeavesWhole
      (granted api (if config.bootstrapBonds then gasArgs [walletFor wallets some_wallet 0] else []))
      (bondsPlan api config wallets some_wallet walletSudo) := by
    unfold bondsPlan
    split
    · rw [bondIntents, List.map_append, List.map_flatMap]
      refine leaves_whole_same _ _ _ (leaves_whole_append _ _ _ _
        (mints_leave api walletSudo (gasArgs [walletFor wallets some_wallet 0]))
        (leaves_whole_flat_map config.bondOffers (fun _ _ => 0) _ fun entry _ =>
          offer_leaves api walletSudo (walletFor wallets some_wallet 0) entry)) ?_
      simp
    · exact leaves_whole_nil
  have gas : LeavesWhole (granted api (if config.bootstrapPools then gasArgs wallets else []))
      (gasPlan api config wallets walletSudo) := by
    unfold gasPlan
    split
    · exact mints_leave api walletSudo (gasArgs wallets)
    · exact leaves_whole_nil
  have pools : LeavesWhole (fun _ => 0) (poolsPlan config wallets some_wallet walletSudo ids) := by
    unfold poolsPlan
    split
    · intro steps whole
      have encoded : steps.map (Except.ok (ε := String)) =
          ((planFrom walletSudo wallets some_wallet config.pools ids 0).map .pool).map .ok := by
        rw [whole, List.map_map]
        rfl
      rw [List.map_injective_iff.mpr (fun _ _ equal => Except.ok.inj equal) encoded, planFrom, List.map_flatMap]
      have none_left := leaves_flat_map ((config.pools.zip ids).zipIdx 0) (fun _ _ => 0) _ fun entry _ =>
        pool_plan_leaves walletSudo.publicKey (walletFor wallets some_wallet entry.2).publicKey entry.1.1 entry.1.2
      simpa using none_left
    · exact leaves_whole_nil
  have assets : LeavesWhole (granted api (if config.mintAssetsToWallets then listedArgs config.mintAssets else []))
      (assetsPlan api config walletSudo) := by
    unfold assetsPlan
    split
    · exact mints_leave api walletSudo (listedArgs config.mintAssets)
    · exact leaves_whole_nil
  have all := leaves_whole_append _ _ _ _ bonds
    (leaves_whole_append _ _ _ _ gas (leaves_whole_append _ _ _ _ pools (leaves_whole_append _ _ _ _ assets
      leaves_whole_nil)))
  rw [List.flatMap_def, stages_plans]
  refine leaves_whole_same _ _ _ all fun account => ?_
  simp [keptMints, granted]

end Leftovers

end PicassoBootstrap
