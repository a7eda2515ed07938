import PicassoBootstrap.MarketRuns
import PicassoBootstrap.Operations

set_option autoImplicit false

namespace PicassoBootstrap

open Async

section Setup

variable {δ ρ : Type} (kr : Keyring) (definitions : Definitions δ ρ)
  (buildApi : String → KeyedMap String δ → KeyedMap String (Option (KeyedMap String ρ)) → Settlement String Api)
  (env : Environment) (config : Config) (log : ChainLog)

def sudoWallet : Except String KeyringPair := getSudoWallet kr env.sudoSeed (orDefault env.chainName "dali-local")

def connection : Settlement String Api :=
  buildApi (orDefault env.rpcUrl "ws://127.0.0.1:9988") (createTypes definitions) (createRPC definitions)

theorem some_substrate_wallet : getSubstrateWallets kr ≠ [] := by simp [getSubstrateWallets]

theorem main_keyed (walletSudo : KeyringPair) (key : sudoWallet kr env = .ok walletSudo) :
    main kr definitions buildApi env config log =
      Task.orReport printed (Task.read fun _ => connection definitions buildApi env)
        (fun api => bootstrap api config (getSubstrateWallets kr) walletSudo) log := by
  refine Task.or_report_resolved printed _ _ log log walletSudo ?_
  change Task.ofExcept (sudoWallet kr env) log = _
  rw [key]
  rfl

theorem asked_connection (outcome : Settlement String Api) (connected : connection definitions buildApi env = outcome) :
    (Task.read fun _ => connection definitions buildApi env : ChainTask Api) log = (outcome, log) := by
  rw [← connected]
  rfl

theorem main_connected (walletSudo : KeyringPair) (api : Api) (key : sudoWallet kr env = .ok walletSudo)
    (connected : connection definitions buildApi env = .resolved api) :
    main kr definitions buildApi env config log = bootstrap api config (getSubstrateWallets kr) walletSudo log := by
  rw [main_keyed kr definitions buildApi env config log walletSudo key,
    Task.or_report_resolved _ _ _ _ _ api (asked_connection definitions buildApi env log _ connected)]

-- main does not get to its work: without a sudo key or a connection it sends
-- nothing and prints that error, or waits for the connection.
inductive Unstarted : Settlement String (List String) × ChainLog → Prop where
  | keyless (error : String) (key : sudoWallet kr env = .error error) : Unstarted (.resolved [error], log)
  | refused (walletSudo : KeyringPair) (error : String) (key : sudoWallet kr env = .ok walletSudo)
      (unconnected : connection definitions buildApi env = .rejected error) : Unstarted (.resolved [error], log)
  | unanswered (walletSudo : KeyringPair) (key : sudoWallet kr env = .ok walletSudo)
      (unconnected : connection definitions buildApi env = .pending) : Unstarted (.pending, log)

theorem unstarted_silent (run : Settlement String (List String) × ChainLog)
    (unstarted : Unstarted kr definitions buildApi env log run) : run.2 = log ∧ run.1 ≠ .resolved [] := by
  cases unstarted with
  | keyless error key => exact ⟨rfl, by simp⟩
  | refused walletSudo error key unconnected => exact ⟨rfl, by simp⟩
  | unanswered walletSudo key unconnected => exact ⟨rfl, by simp⟩

theorem main_cases :
    Unstarted kr definitions buildApi env log (main kr definitions buildApi env config log) ∨
    ∃ walletSudo api, sudoWallet kr env = .ok walletSudo ∧ connection definitions buildApi env = .resolved api ∧
      main kr definitions buildApi env config log =
        bootstrap api config (getSubstrateWallets kr) walletSudo log := by
  cases key : sudoWallet kr env with
  | error error =>
      left
      have ran : main kr definitions buildApi env config log = (.resolved [error], log) := by
        refine Task.or_report_rejected printed _ _ log log error ?_
        change Task.ofExcept (sudoWallet kr env) log = _
        rw [key]
        rfl
      rw [ran]
      exact .keyless error key
  | ok walletSudo =>
      have keyed := main_keyed kr definitions buildApi env config log walletSudo key
      have asked := asked_connection definitions buildApi env log
      cases connected : connection definitions buildApi env with
      | resolved api =>
          right
          exact ⟨walletSudo, api, rfl, rfl,
            main_connected kr definitions buildApi env config log walletSudo api key connected⟩
      | rejected error =>
          left
          rw [keyed, Task.or_report_rejected _ _ _ _ _ error (asked _ connected)]
          exact .refused walletSudo error key connected
      | pending =>
          left
          rw [keyed, Task.or_report_pending _ _ _ _ _ (asked _ connected)]
          exact .unanswered walletSudo key connected

theorem bootstrap_sends (api : Api) (dotWallets : List KeyringPair) (walletSudo : KeyringPair) :
    Task.Sends (Authorized (some walletSudo) dotWallets) (bootstrap api config dotWallets walletSudo) := by
  have bonds : Task.Sends (Authorized (some walletSudo) dotWallets) (bondsPhase api config dotWallets walletSudo) := by
    unfold bondsPhase
    by_cases wanted : config.bootstrapBonds = true
    · rw [if_pos wanted]
      refine Task.sends_convert _ _ _ fun wallet found => ?_
      exact bond_offers_send api walletSudo dotWallets _ wallet (wallet_at_mem dotWallets 0 wallet found)
    · rw [if_neg wanted]
      exact Task.sends_pure _ _
  have pools : Task.Sends (Authorized (some walletSudo) dotWallets) (poolsPhase api config dotWallets walletSudo) := by
    unfold poolsPhase
    by_cases wanted : config.bootstrapPools = true
    · rw [if_pos wanted]
      exact pools_send api walletSudo dotWallets config.pools
    · rw [if_neg wanted]
      exact Task.sends_pure _ _
  have assets : Task.Sends (Authorized (some walletSudo) dotWallets) (assetsPhase api config walletSudo) := by
    unfold assetsPhase
    by_cases wanted : config.mintAssetsToWallets = true
    · rw [if_pos wanted]
      exact assets_send api walletSudo dotWallets config.mintAssets
    · rw [if_neg wanted]
      exact Task.sends_pure _ _
  refine Task.sends_or_report _ _ _ _ bonds fun _ => ?_
  refine Task.sends_or_report _ _ _ _ pools fun caught => ?_
  refine Task.sends_bind _ _ _ ?_ fun _ => Task.sends_pure _ _
  exact Task.sends_or_report _ _ _ _ assets fun _ => Task.sends_pure _ _

theorem main_authorized :
    ∀ exchange ∈ added log (main kr definitions buildApi env config log).2,
      ∃ walletSudo, sudoWallet kr env = .ok walletSudo ∧
        Authorized (some walletSudo) (getSubstrateWallets kr) exchange.request := by
  intro exchange member
  rcases main_cases kr definitions buildApi env config log with unstarted | ⟨walletSudo, api, key, _, ran⟩
  · rw [(unstarted_silent kr definitions buildApi env log _ unstarted).1, added, List.drop_length] at member
    exact absurd member (by simp)
  · obtain ⟨new, grown, fine⟩ := bootstrap_sends config api (getSubstrateWallets kr) walletSudo log
    rw [ran, grown, added_append] at member
    exact ⟨walletSudo, key, fine exchange member⟩

-- Every run of main: it is not started, or it goes along the bond offers, the
-- gas, the pools and the assets, in this order, and only an error among the pools
-- is left behind.
theorem main_follows_stages :
    Unstarted kr definitions buildApi env log (main kr definitions buildApi env config log) ∨
    ∃ walletSudo api ids, sudoWallet kr env = .ok walletSudo ∧ connection definitions buildApi env = .resolved api ∧
      ids.length = config.pools.length ∧
      Task.FollowsStages (Task.planned observeStep) log (main kr definitions buildApi env config log).1
        (main kr definitions buildApi env config log).2
        (stages api config (getSubstrateWallets kr) (some_substrate_wallet kr) walletSudo ids) := by
  rcases main_cases kr definitions buildApi env config log with unstarted | ⟨walletSudo, api, key, connected, ran⟩
  · exact .inl unstarted
  · obtain ⟨ids, sized, follows⟩ :=
      bootstrap_follows_stages api config (getSubstrateWallets kr) (some_substrate_wallet kr) walletSudo log
    rw [ran]
    exact .inr ⟨walletSudo, api, ids, key, connected, sized, follows⟩

-- The same run as numbers: what was added to the log are accepted steps and at
-- most two submissions that were not accepted, and main keeps silent exactly
-- when the steps are all of them.
theorem main_summary :
    Unstarted kr definitions buildApi env log (main kr definitions buildApi env config log) ∨
    ∃ walletSudo api ids new, sudoWallet kr env = .ok walletSudo ∧
      connection definitions buildApi env = .resolved api ∧ ids.length = config.pools.length ∧
      (main kr definitions buildApi env config log).2 = log ++ new ∧
      Task.Summary (Task.planned observeStep) (main kr definitions buildApi env config log).1
        (stages api config (getSubstrateWallets kr) (some_substrate_wallet kr) walletSudo ids) new := by
  rcases main_follows_stages kr definitions buildApi env config log with
    unstarted | ⟨walletSudo, api, ids, key, connected, sized, follows⟩
  · exact .inl unstarted
  · obtain ⟨new, grown, summary⟩ := Task.stages_summary _ _ _ _ _ follows
    exact .inr ⟨walletSudo, api, ids, new, key, connected, sized, grown, summary⟩

-- What holds of a mint, of an offer with its mint, and of a pool with its
-- follow-ups holds of the steps of every run of main.
theorem main_keeps (property : List ChainStep → Prop) (composable : Composable property) (walletSudo : KeyringPair)
    (key : sudoWallet kr env = .ok walletSudo) (minted : ∀ mint, property [mintStep walletSudo mint])
    (offered : ∀ wallet offer, property (offerSteps walletSudo wallet offer))
    (pooled : ∀ wallet pool poolId, property ((plan walletSudo.publicKey wallet pool poolId).map .pool)) :
    property (Task.steps observeStep (added log (main kr definitions buildApi env config log).2)) := by
  rcases main_summary kr definitions buildApi env config log with
    unstarted | ⟨signer, api, ids, new, keyed, _, _, grown, summary⟩
  · rw [(unstarted_silent kr definitions buildApi env log _ unstarted).1, added, List.drop_length]
    exact composable.empty
  · obtain rfl : walletSudo = signer := Except.ok.inj (key.symm.trans keyed)
    rw [grown, added_append]
    exact composable.steps property observeStep _ _ new summary
      (stages_throughout api config _ _ walletSudo property ids composable minted offered pooled)

theorem main_steps_in_order (walletSudo : KeyringPair) (key : sudoWallet kr env = .ok walletSudo) (market : Market) :
    Market.Permitted walletSudo.publicKey market
      (Task.steps observeStep (added log (main kr definitions buildApi env config log).2)) :=
  main_keeps kr definitions buildApi env config log (Market.InOrder walletSudo.publicKey)
    (Market.in_order_composable walletSudo.publicKey) walletSudo key (mint_step_in_order walletSudo)
    (offer_steps_in_order walletSudo) (pool_plan_in_order walletSudo.publicKey) market

theorem main_financed :
    Market.Financed (Task.steps observeStep (added log (main kr definitions buildApi env config log).2)) := by
  rcases main_cases kr definitions buildApi env config log with unstarted | ⟨walletSudo, _, key, _, _⟩
  · rw [(unstarted_silent kr definitions buildApi env log _ unstarted).1, added, List.drop_length]
    exact Market.financed_composable.empty
  · exact main_keeps kr definitions buildApi env config log Market.Financed Market.financed_composable walletSudo key
      (mint_step_financed walletSudo) (offer_steps_financed walletSudo) (pool_plan_financed walletSudo.publicKey)

-- At every point of every run.
theorem main_spends_what_it_minted (before : ChainLog)
    (part : before <+: added log (main kr definitions buildApi env config log).2) (market : Market)
    (account : Account) :
    Market.spent market (Task.steps observeStep before) account ≤
      Market.minted market (Task.steps observeStep before) account :=
  Market.financed_spends _ _ (main_financed kr definitions buildApi env config log) (part.filterMap _) market account

-- After every run that is done: see `keptMints`.
theorem main_spends_all_but_kept (api : Api) (connected : connection definitions buildApi env = .resolved api)
    (quiet : (main kr definitions buildApi env config log).1 = .resolved []) (market : Market) (account : Account) :
    Market.minted market
        (Task.steps observeStep (added log (main kr definitions buildApi env config log).2)) account =
      Market.spent market
        (Task.steps observeStep (added log (main kr definitions buildApi env config log).2)) account +
        granted api (keptMints config (getSubstrateWallets kr) (some_substrate_wallet kr)) account := by
  rcases main_summary kr definitions buildApi env config log with
    unstarted | ⟨walletSudo, other, ids, new, _, again, _, grown, summary⟩
  · exact absurd quiet (unstarted_silent kr definitions buildApi env log _ unstarted).2
  · obtain rfl : api = other := Settlement.resolved.inj (connected.symm.trans again)
    have whole := summary.quiet.mp quiet
    rw [Task.steps_planned] at whole
    rw [grown, added_append]
    exact stages_leave api config _ (some_substrate_wallet kr) walletSudo ids _ whole market account

end Setup

section Sample

-- Pairs that are told apart by the last character of their URI.
def sampleKeyring : Keyring where
  addFromUri uri := devWallet (UInt8.ofNat (uri.toList.getLast?.getD ' ').toNat)
  addFromSeed _ := .error "Expected a seed of 32 bytes"
  hexToU8a _ := .error "Expected hex value to convert"

def localEnvironment : Environment := ⟨none, none, none⟩

def sampleConfig : Config :=
  ⟨true, true, true, [⟨"4", "100", "10", .infinite, ⟨"201", "9000", "20"⟩⟩], samplePools,
    [("0x0707070707070707070707070707070707070707070707070707070707070707", "4", "1000")]⟩

def samplePromptApi (_ : String) (_ : KeyedMap String String) (_ : KeyedMap String (Option (KeyedMap String String))) :
    Settlement String Api := .resolved (promptNode 100)

-- The run is a closed term, which this would be unfolded along.
attribute [local irreducible] Market.Permitted

theorem sample_offer_authorized :
    ∃ walletSudo, sudoWallet sampleKeyring localEnvironment = .ok walletSudo ∧
      Authorized (some walletSudo) (getSubstrateWallets sampleKeyring)
        ⟨some (sampleKeyring.addFromUri "//Saad-1").publicKey,
          .bondedFinanceOffer (sampleKeyring.addFromUri "//Saad-1").publicKey
            ⟨4, 100, 10, .infinite, ⟨201, 9000, 20⟩⟩ false⟩ :=
  main_authorized sampleKeyring sampleDefinitions samplePromptApi localEnvironment sampleConfig []
    ⟨_, .resolved (.bondedFinanceNewOffer 0)⟩ (by decide +kernel)

theorem sample_run_in_order :
    (main sampleKeyring sampleDefinitions samplePromptApi localEnvironment sampleConfig []).1 = .resolved [] ∧
      Market.Permitted (sampleKeyring.addFromUri "//Alice").publicKey [] (Task.steps observeStep
        (added [] (main sampleKeyring sampleDefinitions samplePromptApi localEnvironment sampleConfig []).2)) :=
  ⟨by decide +kernel, main_steps_in_order sampleKeyring sampleDefinitions samplePromptApi localEnvironment sampleConfig
    [] (sampleKeyring.addFromUri "//Alice") rfl []⟩

def sampleNew : ChainLog :=
  added [] (main sampleKeyring sampleDefinitions samplePromptApi localEnvironment sampleConfig []).2

theorem sample_run_spends :
    Market.spent [] (Task.steps observeStep (sampleNew.take 12))
        ((sampleKeyring.addFromUri "//Saad-2").publicKey, 4) = 700 ∧
      Market.spent [] (Task.steps observeStep (sampleNew.take 12))
          ((sampleKeyring.addFromUri "//Saad-2").publicKey, 4) ≤
        Market.minted [] (Task.steps observeStep (sampleNew.take 12))
          ((sampleKeyring.addFromUri "//Saad-2").publicKey, 4) :=
  ⟨by decide +kernel, main_spends_what_it_minted sampleKeyring sampleDefinitions samplePromptApi localEnvironment
    sampleConfig [] (sampleNew.take 12) (List.take_prefix 12 sampleNew) [] _⟩

theorem sample_run_keeps :
    Market.minted [] (Task.steps observeStep sampleNew) ((devWallet 7).publicKey, 4) =
      Market.spent [] (Task.steps observeStep sampleNew) ((devWallet 7).publicKey, 4) + 1000 :=
  (main_spends_all_but_kept sampleKeyring sampleDefinitions samplePromptApi localEnvironment sampleConfig []
    (promptNode 100) rfl (by decide +kernel) [] ((devWallet 7).publicKey, 4)).trans (by decide +kernel)

end Sample

end PicassoBootstrap
