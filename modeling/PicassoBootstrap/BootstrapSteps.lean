import PicassoBootstrap.BondedFinance
import PicassoBootstrap.Lib.Staged
import PicassoBootstrap.Minting
import PicassoBootstrap.PoolPlan

set_option autoImplicit false

namespace PicassoBootstrap

open Async

-- One accepted extrinsic of a whole run of the program.
inductive ChainStep where
  | pool (step : PoolStep)
  | offer (signer beneficiary : AccountId32) (offer : BondOffer)
deriving DecidableEq

def observeStep (request : Submission) (event : Event) : Option ChainStep :=
  match observe request event with
  | some step => some (.pool step)
  | none =>
      match request.signer, request.call, event with
      | some signer, .bondedFinanceOffer beneficiary offer _, .bondedFinanceNewOffer _ =>
          some (.offer signer beneficiary offer)
      | _, _, _ => none

abbrev StepPlan := List (Except String ChainStep)

-- What the phases outside the pool loop do, entry by entry.
inductive Intent where
  | mint (args : MintArgs)
  | offer (wallet : KeyringPair) (entry : BondOfferEntry)

section Intents

variable (api : Api) (walletSudo : KeyringPair)

def offerAction (wallet : KeyringPair) (offer : BondOffer) : ChainAction :=
  signedAction api wallet.publicKey Event.isNewOffer (.bondedFinanceOffer wallet.publicKey offer false)

def mintStep (mint : Mint) : ChainStep := .pool (.mint walletSudo.publicKey mint.asset mint.account mint.amount)

def Intent.item : Intent → Except String ChainAction
  | .mint args => mintItem api walletSudo args
  | .offer wallet entry => (toBondOffer entry).map (offerAction api wallet)

def Intent.step : Intent → Except String ChainStep
  | .mint args => (args.decode api).map (mintStep walletSudo)
  | .offer wallet entry => (toBondOffer entry).map (.offer wallet.publicKey wallet.publicKey)

theorem pool_steps_observed (request : Submission) (event : Event) (step : PoolStep)
    (seen : observe request event = some step) :
    (Task.planned observeStep request event : Option (Except String ChainStep)) = some (.ok (.pool step)) := by
  simp only [Task.planned, observeStep, seen, Option.map_some]

theorem intent_observed (intent : Intent) (action : ChainAction) (before : ChainLog) (event : Event)
    (encoded : intent.item api walletSudo = .ok action) (answered : action.answer before = .resolved event) :
    Task.planned observeStep action.request event = some (intent.step api walletSudo) := by
  cases intent with
  | mint args =>
      simp only [Intent.item, mintItem, Fallible.map_ok_iff] at encoded
      obtain ⟨mint, decoded, rfl⟩ := encoded
      obtain ⟨result, rfl⟩ := (Event.is_sudid_iff event).mp (send_and_wait_for_accepted _ _ _ _ answered)
      rw [Intent.step, decoded]
      rfl
  | offer wallet entry =>
      simp only [Intent.item, Fallible.map_ok_iff] at encoded
      obtain ⟨offer, converted, rfl⟩ := encoded
      have accepted := send_and_wait_for_accepted _ _ _ _ answered
      have created : ∃ offerId, event = .bondedFinanceNewOffer offerId := by
        cases event <;> simp_all [Event.isNewOffer]
      obtain ⟨offerId, rfl⟩ := created
      rw [Intent.step, converted]
      rfl

def Intent.prepared (intent : Intent) : PreparedStep (Except String ChainStep) :=
  .ofItem (intent.step api walletSudo) (intent.item api walletSudo)

theorem prepared_shows (intents : List Intent) :
    (intents.map (Intent.prepared api walletSudo)).map Step.shows = intents.map (Intent.step api walletSudo) := by
  rw [List.map_map]
  rfl

theorem intents_follow (intents : List Intent) (log : ChainLog) :
    Task.Follows (Task.planned observeStep) log
      (Task.submitAll (intents.map (Intent.item api walletSudo)) log).1.void
      (Task.submitAll (intents.map (Intent.item api walletSudo)) log).2
      (intents.map (Intent.prepared api walletSudo)) := by
  apply Task.follows_submit_all
  intro intent _ action before event encoded answered
  exact intent_observed api walletSudo intent action before event encoded answered

end Intents

section Phases

def gasArgs (wallets : List KeyringPair) : List MintArgs :=
  productArgs (wallets.map fun wallet => .publicKey wallet.publicKey) ["1"]
    (toChainUnits (BigNumber.ofNat 50) none).toString

def gasIntents (wallets : List KeyringPair) : List Intent := (gasArgs wallets).map .mint

def offerIntents (wallet : KeyringPair) (entry : BondOfferEntry) : List Intent :=
  [.mint ⟨entry.reward.asset, .publicKey wallet.publicKey, (BigNumber.ofString entry.reward.amount).toString⟩,
    .offer wallet entry]

def bondIntents (wallet : KeyringPair) (bondOffers : List BondOfferEntry) : List Intent :=
  gasIntents [wallet] ++ bondOffers.flatMap (offerIntents wallet)

def assetIntents (mint : List (String × String × String)) : List Intent := (listedArgs mint).map .mint

variable (api : Api) (walletSudo : KeyringPair)

theorem mint_intents (args : List MintArgs) :
    (args.map Intent.mint).map (Intent.item api walletSudo) = args.map (mintItem api walletSudo) := by
  rw [List.map_map]
  rfl

theorem gas_flat (wallets : List KeyringPair) :
    mintAssetsToWallets api wallets walletSudo ["1"] (toChainUnits (BigNumber.ofNat 50) none) =
      Task.submitAll ((gasIntents wallets).map (Intent.item api walletSudo)) := by
  rw [mintAssetsToWallets, mint_assets_flat, gasIntents, mint_intents]
  rfl

theorem offer_flat (wallet : KeyringPair) (entry : BondOfferEntry) :
    (do
      mintAssetsToWallets api [wallet] walletSudo [entry.reward.asset] (BigNumber.ofString entry.reward.amount)
      let bondOffer ← Task.ofExcept (toBondOffer entry)
      let _ ← createOffer api wallet wallet.publicKey bondOffer : ChainTask Unit) =
      Task.submitAll ((offerIntents wallet entry).map (Intent.item api walletSudo)) := by
  have sent : ∀ next : Event → ChainTask Unit,
      (Task.ofExcept (toBondOffer entry) >>= fun bondOffer =>
          createOffer api wallet wallet.publicKey bondOffer >>= next) =
        Task.submit ((toBondOffer entry).map (offerAction api wallet)) >>= next := by
    intro next
    cases toBondOffer entry <;> rfl
  simp only [sent, single_mint, offerIntents, List.map_cons, List.map_nil, Task.submit_all_cons, Task.submit_all_nil,
    Intent.item, bind_assoc, pure_bind]

theorem bond_offers_flat (bondOffers : List BondOfferEntry) (wallet : KeyringPair) :
    bootstrapBondOffers api bondOffers wallet walletSudo =
      Task.submitAll ((bondIntents wallet bondOffers).map (Intent.item api walletSudo)) := by
  simp only [bootstrapBondOffers, gas_flat, offer_flat, Task.for_m_submit_all, bondIntents, List.map_append,
    List.map_flatMap, Task.submit_all_append]

theorem assets_flat (mint : List (String × String × String)) :
    bootstrapAssets api walletSudo mint =
      Task.submitAll ((assetIntents mint).map (Intent.item api walletSudo)) := by
  rw [bootstrap_assets_flat, assetIntents, mint_intents]

end Phases

end PicassoBootstrap
