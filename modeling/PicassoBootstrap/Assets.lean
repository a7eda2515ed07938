import PicassoBootstrap.Api
import PicassoBootstrap.Lib.Fallible

set_option autoImplicit false

namespace PicassoBootstrap

open Async

-- The two ways a mint names its receiver: the public key of a wallet, or an
-- address that the codec has to decode.
inductive Destination where
  | publicKey (account : AccountId32)
  | address (text : String)
deriving DecidableEq

def Destination.decode (api : Api) : Destination → Except String AccountId32
  | .publicKey account => .ok account
  | .address text => api.createAccountId32 text

structure Mint where
  asset : Nat
  account : AccountId32
  amount : Nat
deriving DecidableEq

structure MintArgs where
  asset : String
  wallet : Destination
  amount : String
deriving DecidableEq

def MintArgs.decode (api : Api) (args : MintArgs) : Except String Mint := do
  let asset ← createUInt 128 args.asset
  let account ← args.wallet.decode api
  let amount ← createUInt 128 args.amount
  return ⟨asset, account, amount⟩

def Mint.call (mint : Mint) : Call := .assetsMintInto mint.asset mint.account mint.amount

def Tx.assetsMintInto (api : Api) (asset : String) (wallet : Destination) (amount : String) : Except String Call :=
  (MintArgs.decode api ⟨asset, wallet, amount⟩).map Mint.call

def mintAssets (api : Api) (wallets : List Destination) (sudoKey : KeyringPair) (assetIDs : List String)
    (amount : String) : ChainTask Unit :=
  assetIDs.forM fun asset =>
    wallets.forM fun wallet => do
      let _ ← sendAndWaitForSuccess api sudoKey Event.isSudid (Tx.sudoSudo (Tx.assetsMintInto api asset wallet amount))

def mintAssetsToWallets (api : Api) (wallets : List KeyringPair) (sudoKey : KeyringPair) (assetIDs : List String)
    (amount : BigNumber) : ChainTask Unit :=
  mintAssets api (wallets.map fun wallet => .publicKey wallet.publicKey) sudoKey assetIDs amount.toString

def mintAssetsToAddress (api : Api) (wallets : List String) (sudoKey : KeyringPair) (assetIDs : List String)
    (amount : String) : ChainTask Unit :=
  mintAssets api (wallets.map .address) sudoKey assetIDs amount

def bootstrapAssets (api : Api) (walletSudo : KeyringPair) (mint : List (String × String × String)) : ChainTask Unit :=
  mint.forM fun (wallet, assetId, amount) => mintAssetsToAddress api [wallet] walletSudo [assetId] amount

def mintAction (api : Api) (sudoKey : KeyringPair) (mint : Mint) : ChainAction :=
  signedAction api sudoKey.publicKey Event.isSudid (.sudoSudo mint.call)

def mintItem (api : Api) (sudoKey : KeyringPair) (args : MintArgs) : Except String ChainAction :=
  (args.decode api).map (mintAction api sudoKey)

def productArgs (wallets : List Destination) (assetIDs : List String) (amount : String) : List MintArgs :=
  assetIDs.flatMap fun asset => wallets.map fun wallet => ⟨asset, wallet, amount⟩

theorem send_mint (api : Api) (sudoKey : KeyringPair) (asset : String) (wallet : Destination) (amount : String) :
    sendAndWaitForSuccess api sudoKey Event.isSudid (Tx.sudoSudo (Tx.assetsMintInto api asset wallet amount)) =
      Task.submit (mintItem api sudoKey ⟨asset, wallet, amount⟩) := by
  simp only [sendAndWaitForSuccess, Tx.sudoSudo, Tx.assetsMintInto, mintItem]
  cases MintArgs.decode api ⟨asset, wallet, amount⟩ <;> rfl

-- The nested loops are one sequence of submissions, asset-major.
theorem mint_assets_flat (api : Api) (wallets : List Destination) (sudoKey : KeyringPair) (assetIDs : List String)
    (amount : String) :
    mintAssets api wallets sudoKey assetIDs amount =
      Task.submitAll ((productArgs wallets assetIDs amount).map (mintItem api sudoKey)) := by
  have inner : ∀ asset, (wallets.forM fun wallet => do
      let _ ← sendAndWaitForSuccess api sudoKey Event.isSudid
        (Tx.sudoSudo (Tx.assetsMintInto api asset wallet amount))) =
      Task.submitAll (wallets.map fun wallet => mintItem api sudoKey ⟨asset, wallet, amount⟩) := by
    intro asset
    simp only [send_mint, Task.submitAll, List.forM_eq_forM, List.forM_map]
  simp only [mintAssets, inner, Task.for_m_submit_all, productArgs, List.map_flatMap, List.map_map, Function.comp_def]

theorem single_mint (api : Api) (wallet sudoKey : KeyringPair) (asset : String) (amount : BigNumber) :
    mintAssetsToWallets api [wallet] sudoKey [asset] amount =
      Task.submitAll [mintItem api sudoKey ⟨asset, .publicKey wallet.publicKey, amount.toString⟩] := by
  rw [mintAssetsToWallets, mint_assets_flat]
  rfl

-- A mint of a re-printed amount can be sent below 10 ^ 21 only, and carries the amount.
theorem mint_item_ok_iff (api : Api) (sudoKey : KeyringPair) (asset : String) (account : AccountId32)
    (amount : BigNumber) (action : ChainAction) :
    mintItem api sudoKey ⟨asset, .publicKey account, amount.toString⟩ = .ok action ↔
      ∃ assetId value, createUInt 128 asset = .ok assetId ∧ amount = BigNumber.ofNat value ∧ value < 10 ^ 21 ∧
        action = mintAction api sudoKey ⟨assetId, account, value⟩ := by
  simp only [mintItem, MintArgs.decode, Destination.decode, Fallible.map_ok_iff, Fallible.bind_ok_iff,
    Fallible.pure_ok_iff, Except.ok.injEq, exists_eq_left', create_u128_to_string]
  constructor
  · rintro ⟨_, ⟨assetId, decoded, value, ⟨carried, printed⟩, rfl⟩, rfl⟩
    exact ⟨assetId, value, decoded, carried, printed, rfl⟩
  · rintro ⟨assetId, value, decoded, carried, printed, rfl⟩
    exact ⟨_, ⟨assetId, decoded, value, ⟨carried, printed⟩, rfl⟩, rfl⟩

end PicassoBootstrap
