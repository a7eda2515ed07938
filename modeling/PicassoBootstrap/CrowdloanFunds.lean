import PicassoBootstrap.CrowdloanRewards
import Mathlib.Tactic.Ring

set_option autoImplicit false

namespace PicassoBootstrap

open Async

def rewardsTotal (rewards : List Reward) : Nat := (rewards.map Reward.amount).sum

-- The pallet's reward map after `populate` on an empty one.
def populatedMap (rewards : List Reward) : KeyedMap RemoteAccount Nat :=
  KeyedMap.empty.putAll (rewards.map fun reward => (reward.account, reward.amount))

section Rewards

variable (api : Api) (relayAccounts ethAccounts : List String) (rewardsPerAccount vestingPeriod : String)

theorem rewards_to_populate_ok (rewards : List Reward)
    (listed : rewardsToPopulate api relayAccounts ethAccounts rewardsPerAccount vestingPeriod = .ok rewards) :
    ∃ (reward vesting : Nat) (relay : List AccountId32) (eth : List EthereumAccountId),
      createUInt 128 rewardsPerAccount = .ok reward ∧
      relayAccounts.map api.createAccountId32 = relay.map .ok ∧
      ethAccounts.map api.createEthereumAccountId = eth.map .ok ∧
      rewards = ((relay.take 50).map fun account => ⟨.relayChain account, reward, vesting⟩) ++
        (eth.take 50).map fun account => ⟨.ethereum account, reward, vesting⟩ := by
  simp only [rewardsToPopulate, Fallible.bind_ok_iff, Fallible.pure_ok_iff, Fallible.map_m_ok_iff] at listed
  obtain ⟨vesting, _, reward, decoded, relayContributors, relayed, ethereumContributors, ethereum, rfl⟩ := listed
  obtain ⟨relay, relayDecoded, rfl⟩ := Fallible.map_build_ok api.createAccountId32
    (fun account => (⟨.relayChain account, reward, vesting⟩ : Reward)) relayAccounts relayContributors relayed
  obtain ⟨eth, ethDecoded, rfl⟩ := Fallible.map_build_ok api.createEthereumAccountId
    (fun account => (⟨.ethereum account, reward, vesting⟩ : Reward)) ethAccounts ethereumContributors ethereum
  exact ⟨reward, vesting, relay, eth, decoded, relayDecoded, ethDecoded, by simp only [List.map_take]⟩

theorem populate_submits (walletSudo : KeyringPair) (log : ChainLog) :
    ∀ exchange ∈ added log (populate api walletSudo relayAccounts ethAccounts rewardsPerAccount vestingPeriod log).2,
      ∃ rewards, rewardsToPopulate api relayAccounts ethAccounts rewardsPerAccount vestingPeriod = .ok rewards ∧
        exchange.request = ⟨some walletSudo.publicKey, .sudoSudo (.crowdloanRewardsPopulate rewards)⟩ := by
  intro exchange member
  unfold populate sendAndWaitForSuccess Tx.sudoSudo at member
  cases listed : rewardsToPopulate api relayAccounts ethAccounts rewardsPerAccount vestingPeriod with
  | error error =>
      rw [listed] at member
      exact absurd member (by simp [Except.map, Task.submit_error, added])
  | ok rewards =>
      rw [listed] at member
      simp only [Except.map, Task.submit_ok, added_append, List.mem_singleton] at member
      exact ⟨rewards, rfl, by rw [member]; rfl⟩

theorem rewards_total_eq (rewards : List Reward) (reward : Nat)
    (listed : rewardsToPopulate api relayAccounts ethAccounts rewardsPerAccount vestingPeriod = .ok rewards)
    (decoded : createUInt 128 rewardsPerAccount = .ok reward) :
    rewardsTotal rewards = reward * ((relayAccounts.take 50).length + (ethAccounts.take 50).length) := by
  obtain ⟨value, vesting, relay, eth, same, relayDecoded, ethDecoded, rfl⟩ :=
    rewards_to_populate_ok api relayAccounts ethAccounts rewardsPerAccount vestingPeriod rewards listed
  obtain rfl : reward = value := by simpa [decoded] using same
  have relayCount := congrArg List.length relayDecoded
  have ethCount := congrArg List.length ethDecoded
  simp only [List.length_map] at relayCount ethCount
  simp only [rewardsTotal, List.map_append, List.map_map, Function.comp_def, List.map_const', List.sum_append,
    List.sum_replicate, List.length_take, relayCount, ethCount]
  ring

theorem decoded_nodup {α β : Type} (decode : α → Except String β) (xs : List α) (ys : List β)
    (decoded : xs.map decode = ys.map .ok) : ((xs.take 50).map decode).Nodup ↔ (ys.take 50).Nodup := by
  have first : (xs.take 50).map decode = (ys.take 50).map .ok := by
    rw [List.map_take, decoded, List.map_take]
  rw [first, List.nodup_map_iff]
  intro left right same
  exact Except.ok.inj same

theorem remote_accounts_nodup (relay : List AccountId32) (eth : List EthereumAccountId) :
    (relay.map RemoteAccount.relayChain ++ eth.map RemoteAccount.ethereum).Nodup ↔ relay.Nodup ∧ eth.Nodup := by
  have apart : ∀ left ∈ relay.map RemoteAccount.relayChain, ∀ right ∈ eth.map RemoteAccount.ethereum, left ≠ right := by
    intro left inRelay right inEth
    obtain ⟨account, _, rfl⟩ := List.mem_map.mp inRelay
    obtain ⟨other, _, rfl⟩ := List.mem_map.mp inEth
    simp
  rw [List.nodup_append, List.nodup_map_iff fun _ _ same => RemoteAccount.relayChain.inj same,
    List.nodup_map_iff fun _ _ same => RemoteAccount.ethereum.inj same]
  tauto

theorem populated_total_iff (rewards : List Reward) (reward : Nat)
    (listed : rewardsToPopulate api relayAccounts ethAccounts rewardsPerAccount vestingPeriod = .ok rewards)
    (decoded : createUInt 128 rewardsPerAccount = .ok reward) :
    (populatedMap rewards).total = rewardsTotal rewards ↔
      reward = 0 ∨ ((relayAccounts.take 50).map api.createAccountId32).Nodup ∧
        ((ethAccounts.take 50).map api.createEthereumAccountId).Nodup := by
  obtain ⟨value, vesting, relay, eth, same, relayDecoded, ethDecoded, rfl⟩ :=
    rewards_to_populate_ok api relayAccounts ethAccounts rewardsPerAccount vestingPeriod rewards listed
  obtain rfl : reward = value := by simpa [decoded] using same
  let accounts := (relay.take 50).map RemoteAccount.relayChain ++ (eth.take 50).map RemoteAccount.ethereum
  have filled : populatedMap ((relay.take 50).map (fun account => ⟨.relayChain account, reward, vesting⟩) ++
      (eth.take 50).map fun account => ⟨.ethereum account, reward, vesting⟩) =
      KeyedMap.empty.putAll (accounts.map fun account => (account, reward)) := by
    simp [populatedMap, accounts, Function.comp_def]
  have count : rewardsTotal ((relay.take 50).map (fun account => ⟨.relayChain account, reward, vesting⟩) ++
      (eth.take 50).map fun account => ⟨.ethereum account, reward, vesting⟩) = accounts.length * reward := by
    simp only [rewardsTotal, accounts, List.map_append, List.map_map, Function.comp_def, List.map_const',
      List.sum_append, List.sum_replicate, List.length_append, List.length_map]
    ring
  rw [filled, count, KeyedMap.total_all_iff, remote_accounts_nodup, decoded_nodup _ _ _ relayDecoded,
    decoded_nodup _ _ _ ethDecoded]

end Rewards

section Funds

variable {α : Type} (api : Api) (walletSudo : KeyringPair) (relayAccounts : List α) (ethAccounts : List String)
  (rewardsPerAccount palletAccountId : String)

theorem net_rewards_eq (reward : Nat) (spelled : Spells rewardsPerAccount reward) :
    netRewards relayAccounts ethAccounts rewardsPerAccount =
      BigNumber.ofNat (reward * ((relayAccounts.take 50).length + (ethAccounts.take 50).length)) := by
  simp only [netRewards, of_string_spells _ _ spelled, BigNumber.times_of_nat]

def transferAction (pallet : AccountId32) (net : Nat) : ChainAction :=
  signedAction api walletSudo.publicKey Event.isTransfer (.assetsTransfer 1 pallet net true)

def fundItems : List (Except String ChainAction) :=
  let net := netRewards relayAccounts ethAccounts rewardsPerAccount
  [mintItem api walletSudo ⟨"1", .publicKey walletSudo.publicKey, net.toString⟩,
    (Tx.assetsTransfer api (.finite 1) palletAccountId net true).map
      (signedAction api walletSudo.publicKey Event.isTransfer)]

def sudoMint (mint : Mint) : Submission := ⟨some walletSudo.publicKey, .sudoSudo mint.call⟩

theorem add_funds_flat :
    addFundsToCrowdloan api walletSudo relayAccounts ethAccounts rewardsPerAccount palletAccountId =
      Task.submitAll (fundItems api walletSudo relayAccounts ethAccounts rewardsPerAccount palletAccountId) := by
  simp only [addFundsToCrowdloan, sendAndWaitForSuccess, fundItems, single_mint,
    Task.submit_all_cons, Task.submit_all_nil, bind_assoc, pure_bind]

theorem transfer_refused (asset : JsNumber) (dest : String) (amount : BigNumber) (keepAlive : Bool) :
    ∃ error, Tx.assetsTransfer api asset dest amount keepAlive = .error error := by
  obtain ⟨error, refused⟩ := big_number_refused 128 amount
  refine ⟨error, ?_⟩
  rw [Tx.assetsTransfer, refused]
  rfl

-- The transfer can never be encoded: at most the mint in front of it goes out,
-- and no run resolves.
theorem add_funds_never_transfers (log : ChainLog) :
    (addFundsToCrowdloan api walletSudo relayAccounts ethAccounts rewardsPerAccount palletAccountId log).1.isResolved =
        false ∧
      ∀ exchange ∈ added log
          (addFundsToCrowdloan api walletSudo relayAccounts ethAccounts rewardsPerAccount palletAccountId log).2,
        ∃ net, netRewards relayAccounts ethAccounts rewardsPerAccount = BigNumber.ofNat net ∧ net < 10 ^ 21 ∧
          exchange.request = sudoMint walletSudo ⟨1, walletSudo.publicKey, net⟩ := by
  obtain ⟨refusal, transfer⟩ := transfer_refused api (.finite 1) palletAccountId
    (netRewards relayAccounts ethAccounts rewardsPerAccount) true
  rw [add_funds_flat, fundItems, transfer, Except.map, Task.submit_all_cons]
  cases encoded : mintItem api walletSudo ⟨"1", .publicKey walletSudo.publicKey,
      (netRewards relayAccounts ethAccounts rewardsPerAccount).toString⟩ with
  | error error =>
      rw [Task.bind_rejected _ _ _ _ error (Task.submit_error error log)]
      exact ⟨rfl, by simp [added]⟩
  | ok action =>
      obtain ⟨asset, net, decoded, computed, printed, rfl⟩ := (mint_item_ok_iff _ _ _ _ _ _).mp encoded
      obtain rfl : asset = 1 := Except.ok.inj (decoded.symm.trans (by decide))
      have sent := Task.submit_ok (mintAction api walletSudo ⟨1, walletSudo.publicKey, net⟩) log
      have only : ∀ outcome : Settlement String Event, ∀ exchange ∈
          added log (log ++ [⟨(mintAction api walletSudo ⟨1, walletSudo.publicKey, net⟩).request, outcome⟩]),
          ∃ net, netRewards relayAccounts ethAccounts rewardsPerAccount = BigNumber.ofNat net ∧ net < 10 ^ 21 ∧
            exchange.request = sudoMint walletSudo ⟨1, walletSudo.publicKey, net⟩ := by
        intro outcome exchange member
        rw [added_append] at member
        rw [List.mem_singleton.mp member]
        exact ⟨net, computed, printed, rfl⟩
      cases answer : (mintAction api walletSudo ⟨1, walletSudo.publicKey, net⟩).answer log with
      | resolved event =>
          rw [answer] at sent
          rw [Task.bind_resolved _ _ _ _ event sent, Task.submit_all_cons,
            Task.bind_rejected _ _ _ _ refusal (Task.submit_error refusal _)]
          exact ⟨rfl, only _⟩
      | rejected error =>
          rw [answer] at sent
          rw [Task.bind_rejected _ _ _ _ error sent]
          exact ⟨rfl, only _⟩
      | pending =>
          rw [answer] at sent
          rw [Task.bind_pending _ _ _ _ sent]
          exact ⟨rfl, only _⟩

end Funds

-- The same node with another course of events.
def Api.withDelivery (api : Api) (deliver : ChainLog → Submission → List (Signal Event)) : Api :=
  { api with deliver := deliver }

-- What the pot gets against what the populated list promises. `funded`: the
-- whole list is minted and then transferred, and only the chain can stop that.
structure PotCovers {α : Type} (api : Api) (walletSudo : KeyringPair) (relayKeys : List α)
    (relayAccounts ethAccounts : List String) (rewardsPerAccount palletAccountId : String) (reward : Nat)
    (pallet : AccountId32) (rewards : List Reward) : Prop where
  computed : netRewards relayKeys ethAccounts rewardsPerAccount = BigNumber.ofNat (rewardsTotal rewards)
  funded : ∀ deliver,
    addFundsToCrowdloan (api.withDelivery deliver) walletSudo relayKeys ethAccounts rewardsPerAccount palletAccountId =
      Task.submitAll
        [.ok (mintAction (api.withDelivery deliver) walletSudo ⟨1, walletSudo.publicKey, rewardsTotal rewards⟩),
          .ok (transferAction (api.withDelivery deliver) walletSudo pallet (rewardsTotal rewards))]
  covered : (populatedMap rewards).total ≤ rewardsTotal rewards
  exactly_when : (populatedMap rewards).total = rewardsTotal rewards ↔
    reward = 0 ∨ ((relayAccounts.take 50).map api.createAccountId32).Nodup ∧
      ((ethAccounts.take 50).map api.createEthereumAccountId).Nodup

theorem populated_total_le (rewards : List Reward) : (populatedMap rewards).total ≤ rewardsTotal rewards := by
  have bound := KeyedMap.total_put_all_le KeyedMap.empty (rewards.map fun reward => (reward.account, reward.amount))
  simpa [populatedMap, rewardsTotal, KeyedMap.total, KeyedMap.empty, Function.comp_def] using bound

theorem reward_decoded (api : Api) (relayAccounts ethAccounts : List String) (rewardsPerAccount vestingPeriod : String)
    (reward : Nat) (rewards : List Reward) (spelled : Spells rewardsPerAccount reward)
    (listed : rewardsToPopulate api relayAccounts ethAccounts rewardsPerAccount vestingPeriod = .ok rewards) :
    createUInt 128 rewardsPerAccount = .ok reward := by
  obtain ⟨value, _, _, _, raw, _⟩ :=
    rewards_to_populate_ok api relayAccounts ethAccounts rewardsPerAccount vestingPeriod rewards listed
  have fits := (fit_uint_ok _ _ _).mp raw
  rw [decode_text_digits _ spelled.2.1, spelled.2.2] at fits
  rw [raw, Option.some.inj fits.1]

-- On a node that includes everything at once, a run that sends both resolves.
theorem both_sent_resolves (api : Api) (walletSudo : KeyringPair) (pallet : AccountId32) (total : Nat) :
    (Task.submitAll [.ok (mintAction (api.withDelivery (promptNode 0).deliver) walletSudo
        ⟨1, walletSudo.publicKey, total⟩),
      .ok (transferAction (api.withDelivery (promptNode 0).deliver) walletSudo pallet total)] []).1 =
      .resolved () := rfl

theorem pot_never_covered {α : Type} (api : Api) (walletSudo : KeyringPair) (relayKeys : List α)
    (relayAccounts ethAccounts : List String) (rewardsPerAccount palletAccountId : String) (reward : Nat)
    (pallet : AccountId32) (rewards : List Reward) :
    ¬ PotCovers api walletSudo relayKeys relayAccounts ethAccounts rewardsPerAccount palletAccountId reward pallet
      rewards := by
  intro covers
  have whole := both_sent_resolves api walletSudo pallet (rewardsTotal rewards)
  have stuck := (add_funds_never_transfers (api.withDelivery (promptNode 0).deliver) walletSudo relayKeys ethAccounts
    rewardsPerAccount palletAccountId []).1
  rw [covers.funded, whole] at stuck
  exact absurd stuck (by simp [Settlement.isResolved])

-- The amount is right, and it never reaches the pallet: on no chain and with no
-- lists does addFundsToCrowdloan send the transfer.
theorem crowdloan_pot_never_funded {α : Type} (api : Api) (walletSudo : KeyringPair) (relayKeys : List α)
    (relayAccounts ethAccounts : List String) (rewardsPerAccount vestingPeriod palletAccountId : String) (reward : Nat)
    (pallet : AccountId32) (rewards : List Reward) (log : ChainLog) (exchange : Exchange Submission String Event)
    (same : relayKeys.length = relayAccounts.length) (spelled : Spells rewardsPerAccount reward)
    (submitted : exchange ∈
      added log (populate api walletSudo relayAccounts ethAccounts rewardsPerAccount vestingPeriod log).2)
    (populated : exchange.request.call = .sudoSudo (.crowdloanRewardsPopulate rewards)) :
    ¬ PotCovers api walletSudo relayKeys relayAccounts ethAccounts rewardsPerAccount palletAccountId reward pallet
        rewards ∧
      (∀ start,
        (addFundsToCrowdloan api walletSudo relayKeys ethAccounts rewardsPerAccount palletAccountId start).1.isResolved =
            false ∧
          ∀ sent ∈ added start
              (addFundsToCrowdloan api walletSudo relayKeys ethAccounts rewardsPerAccount palletAccountId start).2,
            rewardsTotal rewards < 10 ^ 21 ∧
              sent.request = sudoMint walletSudo ⟨1, walletSudo.publicKey, rewardsTotal rewards⟩) ∧
      netRewards relayKeys ethAccounts rewardsPerAccount = BigNumber.ofNat (rewardsTotal rewards) ∧
      (populatedMap rewards).total ≤ rewardsTotal rewards ∧
      ((populatedMap rewards).total = rewardsTotal rewards ↔
        reward = 0 ∨ ((relayAccounts.take 50).map api.createAccountId32).Nodup ∧
          ((ethAccounts.take 50).map api.createEthereumAccountId).Nodup) := by
  obtain ⟨encoded, listed, request⟩ := populate_submits api relayAccounts ethAccounts rewardsPerAccount vestingPeriod
    walletSudo log exchange submitted
  obtain rfl : encoded = rewards := by simpa [request] using populated
  have decoded :=
    reward_decoded api relayAccounts ethAccounts rewardsPerAccount vestingPeriod reward encoded spelled listed
  have total :=
    rewards_total_eq api relayAccounts ethAccounts rewardsPerAccount vestingPeriod encoded reward listed decoded
  have computed : netRewards relayKeys ethAccounts rewardsPerAccount = BigNumber.ofNat (rewardsTotal encoded) := by
    rw [net_rewards_eq relayKeys ethAccounts rewardsPerAccount reward spelled, total]
    simp only [List.length_take, same]
  refine ⟨pot_never_covered api walletSudo relayKeys relayAccounts ethAccounts rewardsPerAccount palletAccountId reward
    pallet encoded, ?_, computed, populated_total_le encoded,
    populated_total_iff api relayAccounts ethAccounts rewardsPerAccount vestingPeriod encoded reward listed decoded⟩
  intro start
  obtain ⟨stuck, mints⟩ :=
    add_funds_never_transfers api walletSudo relayKeys ethAccounts rewardsPerAccount palletAccountId start
  refine ⟨stuck, fun sent member => ?_⟩
  obtain ⟨net, carried, printed, request⟩ := mints sent member
  obtain rfl : net = rewardsTotal encoded := BigNumber.of_nat_injective _ _ (carried.symm.trans computed)
  exact ⟨printed, request⟩

def palletAddress : String := "0x6d6f646c70616c5f63726f770000000000000000000000000000000000000000"
def palletAccount : AccountId32 :=
  ⟨[109, 111, 100, 108, 112, 97, 108, 95, 99, 114, 111, 119] ++ List.replicate 20 0, rfl⟩

def contributor : String := "0x33cd07b1ae8485a6090091ee55389237ecb0aed4"
def contributorId : EthereumAccountId :=
  ⟨[51, 205, 7, 177, 174, 132, 133, 166, 9, 0, 145, 238, 85, 56, 146, 55, 236, 176, 174, 212], rfl⟩

def populated (rewards : List Reward) : Exchange Submission String Event :=
  ⟨⟨some (devWallet 9).publicKey, .sudoSudo (.crowdloanRewardsPopulate rewards)⟩, .resolved (.sudoSudid .ok)⟩

def repeatedContributors : List String := [contributor, "0x33Cd07B1ae8485a6090091ee55389237eCB0Aed4"]

def repeatedRewards : List Reward := List.replicate 2 ⟨.ethereum contributorId, 1000000000000000, 100800⟩

theorem repeated_contributor_not_funded :
    ¬ PotCovers (promptNode 100) (devWallet 9) ([] : List AccountId32) [] repeatedContributors "1000000000000000"
      palletAddress 1000000000000000 palletAccount repeatedRewards :=
  (crowdloan_pot_never_funded (promptNode 100) (devWallet 9) ([] : List AccountId32) [] repeatedContributors
    "1000000000000000" "100800" palletAddress 1000000000000000 palletAccount _ [] (populated repeatedRewards) rfl
    (by decide) (by decide +kernel) rfl).1

-- Two contributors with 10 ^ 15 each, as in config.json: the list is populated,
-- the whole amount is minted, and the transfer that should follow throws.
theorem minted_pot_not_transferred :
    (populate (promptNode 100) (devWallet 9) [] repeatedContributors "1000000000000000" "100800" []).2 =
        [populated repeatedRewards] ∧
      addFundsToCrowdloan (promptNode 100) (devWallet 9) ([] : List AccountId32) repeatedContributors
        "1000000000000000" palletAddress [] =
          (.rejected "Unable to create an integer",
            [⟨sudoMint (devWallet 9) ⟨1, (devWallet 9).publicKey, 2000000000000000⟩, .resolved (.sudoSudid .ok)⟩]) ∧
      ¬ PotCovers (promptNode 100) (devWallet 9) ([] : List AccountId32) [] repeatedContributors "1000000000000000"
        palletAddress 1000000000000000 palletAccount repeatedRewards := by
  exact ⟨by decide +kernel, by decide +kernel, pot_never_covered _ _ _ _ _ _ _ _ _ _⟩

section Populate

variable (api : Api) (relayAccounts ethAccounts : List String) (rewardsPerAccount vestingPeriod : String)

-- Everything that populate decodes, the accounts that it leaves out included.
def Decodes : Prop :=
  (∃ reward, createUInt 128 rewardsPerAccount = .ok reward) ∧ (∃ vesting, createUInt 32 vestingPeriod = .ok vesting) ∧
    (∀ account ∈ relayAccounts, ∃ decoded, api.createAccountId32 account = .ok decoded) ∧
    ∀ account ∈ ethAccounts, ∃ decoded, api.createEthereumAccountId account = .ok decoded

theorem decoded_all_iff {α β : Type} (decode : α → Except String β) (xs : List α) :
    (∃ ys : List β, xs.map decode = ys.map .ok) ↔ ∀ x ∈ xs, ∃ y, decode x = .ok y := by
  induction xs with
  | nil => exact ⟨by simp, fun _ => ⟨[], rfl⟩⟩
  | cons x rest ih =>
      rw [List.forall_mem_cons, ← ih]
      constructor
      · rintro ⟨ys, mapped⟩
        cases ys with
        | nil => exact absurd mapped (by simp)
        | cons y later =>
            obtain ⟨head, tail⟩ := List.cons.inj mapped
            exact ⟨⟨y, head⟩, later, tail⟩
      · rintro ⟨⟨y, head⟩, later, tail⟩
        exact ⟨y :: later, by simp [head, tail]⟩

theorem rewards_listed (reward vesting : Nat) (relay : List AccountId32) (eth : List EthereumAccountId)
    (decoded : createUInt 128 rewardsPerAccount = .ok reward) (vested : createUInt 32 vestingPeriod = .ok vesting)
    (relayDecoded : relayAccounts.map api.createAccountId32 = relay.map .ok)
    (ethDecoded : ethAccounts.map api.createEthereumAccountId = eth.map .ok) :
    rewardsToPopulate api relayAccounts ethAccounts rewardsPerAccount vestingPeriod =
      .ok ((relay.take 50).map (fun account => ⟨.relayChain account, reward, vesting⟩) ++
        (eth.take 50).map fun account => ⟨.ethereum account, reward, vesting⟩) := by
  have relayed : relayAccounts.mapM (relayContributor api reward vesting) =
      .ok (relay.map fun account => ⟨.relayChain account, reward, vesting⟩) := by
    rw [Fallible.map_m_ok_iff]
    exact Fallible.map_build_of_ok api.createAccountId32 _ relayAccounts relay relayDecoded
  have ethereum : ethAccounts.mapM (ethereumContributor api reward vesting) =
      .ok (eth.map fun account => ⟨.ethereum account, reward, vesting⟩) := by
    rw [Fallible.map_m_ok_iff]
    exact Fallible.map_build_of_ok api.createEthereumAccountId _ ethAccounts eth ethDecoded
  simp only [rewardsToPopulate, Fallible.bind_ok_iff, Fallible.pure_ok_iff]
  exact ⟨vesting, vested, reward, decoded, _, relayed, _, ethereum, by simp only [List.map_take]⟩

theorem listed_decodes (rewards : List Reward)
    (listed : rewardsToPopulate api relayAccounts ethAccounts rewardsPerAccount vestingPeriod = .ok rewards) :
    Decodes api relayAccounts ethAccounts rewardsPerAccount vestingPeriod := by
  obtain ⟨reward, _, relay, eth, decoded, relayDecoded, ethDecoded, _⟩ :=
    rewards_to_populate_ok api relayAccounts ethAccounts rewardsPerAccount vestingPeriod rewards listed
  simp only [rewardsToPopulate, Fallible.bind_ok_iff] at listed
  obtain ⟨vesting, vested, _⟩ := listed
  exact ⟨⟨reward, decoded⟩, ⟨vesting, vested⟩, (decoded_all_iff _ _).mp ⟨relay, relayDecoded⟩,
    (decoded_all_iff _ _).mp ⟨eth, ethDecoded⟩⟩

-- Populating is all or nothing: one extrinsic with the first fifty of either
-- list, or no extrinsic at all, be it for an account that comes later.
theorem populate_all_or_nothing (walletSudo : KeyringPair) (log : ChainLog) :
    (Decodes api relayAccounts ethAccounts rewardsPerAccount vestingPeriod →
      ∃ (reward vesting : Nat) (relay : List AccountId32) (eth : List EthereumAccountId)
        (outcome : Settlement String Event),
        createUInt 128 rewardsPerAccount = .ok reward ∧ createUInt 32 vestingPeriod = .ok vesting ∧
        (relayAccounts.take 50).map api.createAccountId32 = relay.map .ok ∧
        (ethAccounts.take 50).map api.createEthereumAccountId = eth.map .ok ∧
        populate api walletSudo relayAccounts ethAccounts rewardsPerAccount vestingPeriod log =
          (outcome, log ++ [⟨⟨some walletSudo.publicKey, .sudoSudo (.crowdloanRewardsPopulate
            ((relay.map fun account => ⟨.relayChain account, reward, vesting⟩) ++
              eth.map fun account => ⟨.ethereum account, reward, vesting⟩))⟩, outcome⟩])) ∧
    (¬ Decodes api relayAccounts ethAccounts rewardsPerAccount vestingPeriod →
      ∃ error, populate api walletSudo relayAccounts ethAccounts rewardsPerAccount vestingPeriod log =
        (.rejected error, log)) := by
  constructor
  · rintro ⟨⟨reward, decoded⟩, ⟨vesting, vested⟩, relayAll, ethAll⟩
    obtain ⟨relay, relayDecoded⟩ := (decoded_all_iff _ _).mpr relayAll
    obtain ⟨eth, ethDecoded⟩ := (decoded_all_iff _ _).mpr ethAll
    have listed := rewards_listed api relayAccounts ethAccounts rewardsPerAccount vestingPeriod reward vesting relay eth
      decoded vested relayDecoded ethDecoded
    refine ⟨reward, vesting, relay.take 50, eth.take 50,
      (populate api walletSudo relayAccounts ethAccounts rewardsPerAccount vestingPeriod log).1, decoded, vested, ?_,
      ?_, ?_⟩
    · rw [List.map_take, relayDecoded, List.map_take]
    · rw [List.map_take, ethDecoded, List.map_take]
    · simp only [populate, sendAndWaitForSuccess, Tx.sudoSudo, listed]
      rfl
  · intro refused
    cases listed : rewardsToPopulate api relayAccounts ethAccounts rewardsPerAccount vestingPeriod with
    | ok rewards =>
        exact absurd
          (listed_decodes api relayAccounts ethAccounts rewardsPerAccount vestingPeriod rewards listed) refused
    | error error =>
        refine ⟨error, ?_⟩
        simp only [populate, sendAndWaitForSuccess, Tx.sudoSudo, listed]
        rfl

end Populate

end PicassoBootstrap
