import PicassoBootstrap.Assets
import PicassoBootstrap.Lib.Fallible
import PicassoBootstrap.Units

set_option autoImplicit false

namespace PicassoBootstrap

open Async

inductive MaturityEntry where
  | infinite
  | finite (returnIn : String)
deriving DecidableEq, Repr

structure RewardEntry where
  asset : String
  amount : String
  maturity : String
deriving DecidableEq, Repr

structure BondOfferEntry where
  asset : String
  bondPrice : String
  nbOfBonds : String
  maturity : MaturityEntry
  reward : RewardEntry
deriving DecidableEq, Repr

def toBondDuration : MaturityEntry → Except String BondDuration
  | .infinite => .ok .infinite
  | .finite returnIn => (createUInt 32 returnIn).map .finite

def toBondOffer (offer : BondOfferEntry) : Except String BondOffer := do
  let maturity ← toBondDuration offer.maturity
  let asset ← createUInt 128 offer.asset
  let bondPrice ← createUInt 128 offer.bondPrice
  let nbOfBonds ← createUInt 128 offer.nbOfBonds
  let rewardAsset ← createUInt 128 offer.reward.asset
  let rewardAmount ← createUInt 128 offer.reward.amount
  let rewardMaturity ← createUInt 32 offer.reward.maturity
  return ⟨asset, bondPrice, nbOfBonds, maturity, ⟨rewardAsset, rewardAmount, rewardMaturity⟩⟩

def createOffer (api : Api) (wallet : KeyringPair) (beneficiary : AccountId32) (requestParameters : BondOffer) :
    ChainTask Event :=
  sendAndWaitForSuccess api wallet Event.isNewOffer (.ok (.bondedFinanceOffer beneficiary requestParameters false))

-- `bondOffers` is config.bondOffers.
def bootstrapBondOffers (api : Api) (bondOffers : List BondOfferEntry) (wallet walletSudo : KeyringPair) :
    ChainTask Unit := do
  mintAssetsToWallets api [wallet] walletSudo ["1"] (toChainUnits (BigNumber.ofNat 50) none)
  bondOffers.forM fun offer => do
    mintAssetsToWallets api [wallet] walletSudo [offer.reward.asset] (BigNumber.ofString offer.reward.amount)
    let bondOffer ← Task.ofExcept (toBondOffer offer)
    let _ ← createOffer api wallet wallet.publicKey bondOffer

def RewardEntry.withAmount (reward : RewardEntry) (amount : String) : RewardEntry := { reward with amount := amount }

def BondOfferEntry.withAmount (offer : BondOfferEntry) (amount : String) : BondOfferEntry :=
  { offer with reward := offer.reward.withAmount amount }

def BondOffer.withAmount (offer : BondOffer) (amount : Nat) : BondOffer :=
  { offer with reward := { offer.reward with amount := amount } }

theorem to_bond_offer_with_amount (entry : BondOfferEntry) (offer : BondOffer) (amount : String) (value : Nat)
    (converted : toBondOffer entry = .ok offer) (decoded : createUInt 128 amount = .ok value) :
    toBondOffer (entry.withAmount amount) = .ok (offer.withAmount value) := by
  simp only [toBondOffer, Fallible.bind_ok_iff, Fallible.pure_ok_iff] at converted
  obtain ⟨maturity, first, asset, second, bondPrice, third, nbOfBonds, fourth, rewardAsset, fifth, _, _, rewardMaturity,
    last, rfl⟩ := converted
  simp only [toBondOffer, BondOfferEntry.withAmount, RewardEntry.withAmount, first, second, third, fourth, fifth,
    decoded, last]
  rfl

end PicassoBootstrap
