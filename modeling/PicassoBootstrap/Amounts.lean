import PicassoBootstrap.BondedFinance
import PicassoBootstrap.Pablo

set_option autoImplicit false

namespace PicassoBootstrap

open Async

-- One configured amount on its ways to the chain: re-printed by the decimal
-- library into the mint, and as it is into the liquidity and into the bond
-- offer. Each is accepted and each carries `n`.
structure MintedAsSpent (api : Api) (amount : String) (n : Nat) : Prop where
  minted : ∀ (wallet walletSudo : KeyringPair) (asset : String) (assetId : Nat), createUInt 128 asset = .ok assetId →
    mintAssetsToWallets api [wallet] walletSudo [asset] (BigNumber.ofString amount) =
      Task.submitAll [.ok (mintAction api walletSudo ⟨assetId, wallet.publicKey, n⟩)]
  base : ∀ (poolId : BigNumber) (pool : Nat) (quote : String) (quoteAmount : Nat),
    createUInt 128 poolId.toString = .ok pool → createUInt 128 quote = .ok quoteAmount →
      Tx.pabloAddLiquidity poolId amount quote = .ok (.pabloAddLiquidity pool n quoteAmount 0 false)
  quote : ∀ (poolId : BigNumber) (pool : Nat) (base : String) (baseAmount : Nat),
    createUInt 128 poolId.toString = .ok pool → createUInt 128 base = .ok baseAmount →
      Tx.pabloAddLiquidity poolId base amount = .ok (.pabloAddLiquidity pool baseAmount n 0 false)
  offered : ∀ (entry : BondOfferEntry) (offer : BondOffer), toBondOffer entry = .ok offer →
    toBondOffer (entry.withAmount amount) = .ok (offer.withAmount n)

theorem single_mint_iff (api : Api) (wallet walletSudo : KeyringPair) (asset : String) (assetId n : Nat)
    (decoded : createUInt 128 asset = .ok assetId) :
    mintAssetsToWallets api [wallet] walletSudo [asset] (BigNumber.ofNat n) =
      Task.submitAll [.ok (mintAction api walletSudo ⟨assetId, wallet.publicKey, n⟩)] ↔ n < 10 ^ 21 := by
  rw [single_mint]
  constructor
  · intro same
    obtain ⟨sent, encoded, _⟩ := Task.submit_all_sends _ _ _ _ same
    obtain ⟨_, value, _, carried, printed, _⟩ := (mint_item_ok_iff _ _ _ _ _ _).mp encoded
    rw [BigNumber.of_nat_injective _ _ carried]
    exact printed
  · intro printed
    rw [(mint_item_ok_iff _ _ _ _ _ _).mpr ⟨assetId, n, decoded, rfl, printed, rfl⟩]

theorem minted_as_spent_iff (api : Api) (amount : String) (n : Nat) (spelled : Spells amount n) (small : n < 2 ^ 128) :
    MintedAsSpent api amount n ↔ n < 10 ^ 21 := by
  have raw := create_uint_spells 128 amount n spelled small
  have parsed := of_string_spells amount n spelled
  constructor
  · intro agrees
    have minted := agrees.minted (devWallet 0) (devWallet 0) "0" 0 (by decide)
    rw [parsed] at minted
    exact (single_mint_iff api (devWallet 0) (devWallet 0) "0" 0 n (by decide)).mp minted
  · intro printed
    refine ⟨?_, ?_, ?_, ?_⟩
    · intro wallet walletSudo asset assetId decoded
      rw [parsed]
      exact (single_mint_iff api wallet walletSudo asset assetId n decoded).mpr printed
    · intro poolId pool quote quoteAmount named decoded
      simp only [Tx.pabloAddLiquidity, raw, decoded, named]
      rfl
    · intro poolId pool base baseAmount named decoded
      simp only [Tx.pabloAddLiquidity, raw, decoded, named]
      rfl
    · intro entry offer converted
      exact to_bond_offer_with_amount entry offer amount n converted raw

theorem last_printed_amount :
    MintedAsSpent (promptNode 100) "999999999999999999999" 999999999999999999999 :=
  (minted_as_spent_iff (promptNode 100) "999999999999999999999" 999999999999999999999 (by decide) (by decide)).mpr
    (by decide)

def largeOffer : BondOfferEntry :=
  ⟨"4", "100000000000000", "10", .finite "100", ⟨"201", "1000000000000000000000", "20"⟩⟩

-- An offer whose reward is 10 ^ 21: a valid u128, but the mint in front of the
-- offer is refused, and the run ends there.
theorem large_reward_not_minted :
    Spells "1000000000000000000000" (10 ^ 21) ∧
      (toBondOffer largeOffer).map (fun offer => offer.reward.amount) = .ok (10 ^ 21) ∧
      bootstrapBondOffers (promptNode 100) [largeOffer] (devWallet 1) (devWallet 9) [] =
        (.rejected "Unable to create an integer",
          [⟨⟨some (devWallet 9).publicKey, .sudoSudo (.assetsMintInto 1 (devWallet 1).publicKey 50000000000000)⟩,
            .resolved (.sudoSudid .ok)⟩]) ∧
      ¬ MintedAsSpent (promptNode 100) "1000000000000000000000" (10 ^ 21) := by
  refine ⟨by decide, by decide, by decide +kernel, ?_⟩
  intro agrees
  have minted := agrees.minted (devWallet 0) (devWallet 0) "0" 0 (by decide)
  rw [of_string_spells "1000000000000000000000" (10 ^ 21) (by decide)] at minted
  have small := (single_mint_iff (promptNode 100) (devWallet 0) (devWallet 0) "0" 0 (10 ^ 21) (by decide)).mp minted
  exact absurd small (by decide)

end PicassoBootstrap
