import PicassoBootstrap.BootstrapSteps
import PicassoBootstrap.Main

set_option autoImplicit false

namespace PicassoBootstrap

open Async

section Stages

variable (api : Api) (config : Config) (wallets : List KeyringPair) (some_wallet : wallets ≠ [])
  (walletSudo : KeyringPair)

def bondsPlan : StepPlan :=
  if config.bootstrapBonds then
    (bondIntents (walletFor wallets some_wallet 0) config.bondOffers).map (Intent.step api walletSudo)
  else []

def gasPlan : StepPlan :=
  if config.bootstrapPools then (gasIntents wallets).map (Intent.step api walletSudo) else []

def poolsPlan (ids : List Nat) : StepPlan :=
  if config.bootstrapPools then
    (planFrom walletSudo wallets some_wallet config.pools ids 0).map fun step => .ok (.pool step)
  else []

def assetsPlan : StepPlan :=
  if config.mintAssetsToWallets then (assetIntents config.mintAssets).map (Intent.step api walletSudo) else []

-- The same plans, with how each step comes to be submitted.
def bondsScript : List (PreparedStep (Except String ChainStep)) :=
  if config.bootstrapBonds then
    (bondIntents (walletFor wallets some_wallet 0) config.bondOffers).map (Intent.prepared api walletSudo)
  else []

def gasScript : List (PreparedStep (Except String ChainStep)) :=
  if config.bootstrapPools then (gasIntents wallets).map (Intent.prepared api walletSudo) else []

def poolsScript (ids : List Nat) : List (PreparedStep (Except String ChainStep)) :=
  if config.bootstrapPools then
    (scriptFrom api walletSudo wallets some_wallet config.pools ids 0).map (Step.map fun step => .ok (.pool step))
  else []

def assetsScript : List (PreparedStep (Except String ChainStep)) :=
  if config.mintAssetsToWallets then (assetIntents config.mintAssets).map (Intent.prepared api walletSudo) else []

-- An error of the pool loop is caught inside it; any other error ends main.
def stages (ids : List Nat) : List (Stage Submission String Event (Except String ChainStep)) :=
  [⟨bondsScript api config wallets some_wallet walletSudo, true⟩, ⟨gasScript api config wallets walletSudo, true⟩,
    ⟨poolsScript api config wallets some_wallet walletSudo ids, false⟩, ⟨assetsScript api config walletSudo, true⟩]

theorem stages_plans (ids : List Nat) :
    (stages api config wallets some_wallet walletSudo ids).map Stage.plan =
      [bondsPlan api config wallets some_wallet walletSudo, gasPlan api config wallets walletSudo,
        poolsPlan config wallets some_wallet walletSudo ids, assetsPlan api config walletSudo] := by
  have bonds : (bondsScript api config wallets some_wallet walletSudo).map Step.shows =
      bondsPlan api config wallets some_wallet walletSudo := by
    unfold bondsScript bondsPlan
    split
    · exact prepared_shows api walletSudo _
    · rfl
  have gas : (gasScript api config wallets walletSudo).map Step.shows = gasPlan api config wallets walletSudo := by
    unfold gasScript gasPlan
    split
    · exact prepared_shows api walletSudo _
    · rfl
  have pools : (poolsScript api config wallets some_wallet walletSudo ids).map Step.shows =
      poolsPlan config wallets some_wallet walletSudo ids := by
    unfold poolsScript poolsPlan
    split
    · rw [Step.shows_map, script_from_shows]
    · rfl
  have assets : (assetsScript api config walletSudo).map Step.shows = assetsPlan api config walletSudo := by
    unfold assetsScript assetsPlan
    split
    · exact prepared_shows api walletSudo _
    · rfl
  simp only [stages, List.map_cons, List.map_nil, Stage.plan, bonds, gas, pools, assets]

end Stages

section Phases

variable (api : Api) (config : Config) (wallets : List KeyringPair) (some_wallet : wallets ≠ [])
  (walletSudo : KeyringPair) (log : ChainLog)

theorem bonds_phase_follows :
    Task.Follows (Task.planned observeStep) log (bondsPhase api config wallets walletSudo log).1.void
      (bondsPhase api config wallets walletSudo log).2 (bondsScript api config wallets some_wallet walletSudo) := by
  unfold bondsPhase bondsScript
  split
  · have first := wallet_at_turn wallets some_wallet 0
    rw [Nat.zero_mod] at first
    rw [first, Task.of_except_ok, pure_bind, bond_offers_flat]
    exact intents_follow api walletSudo _ log
  · exact Task.follows_nil (Task.planned observeStep) log

theorem assets_phase_follows :
    Task.Follows (Task.planned observeStep) log (assetsPhase api config walletSudo log).1.void
      (assetsPhase api config walletSudo log).2 (assetsScript api config walletSudo) := by
  unfold assetsPhase assetsScript
  split
  · rw [assets_flat]
    exact intents_follow api walletSudo _ log
  · exact Task.follows_nil (Task.planned observeStep) log

def gasPhase : ChainTask Unit :=
  if config.bootstrapPools then mintGas api wallets walletSudo else return ()

def loopPhase : ChainTask (Option String) :=
  if config.bootstrapPools then bootstrapPoolsLoop api wallets walletSudo config.pools 0 else return none

theorem pools_phase_parts : poolsPhase api config wallets walletSudo =
    gasPhase api config wallets walletSudo >>= fun _ => loopPhase api config wallets walletSudo := by
  unfold poolsPhase gasPhase loopPhase
  split
  · rfl
  · rw [pure_bind]

theorem gas_phase_follows :
    Task.Follows (Task.planned observeStep) log (gasPhase api config wallets walletSudo log).1.void
      (gasPhase api config wallets walletSudo log).2 (gasScript api config wallets walletSudo) := by
  unfold gasPhase gasScript
  split
  · rw [mintGas, gas_flat]
    exact intents_follow api walletSudo _ log
  · exact Task.follows_nil (Task.planned observeStep) log

theorem loop_phase_follows : ∃ (ids : List Nat) (outcome : Settlement String Unit),
    ids.length = config.pools.length ∧ (loopPhase api config wallets walletSudo log).1 = caught outcome ∧
      Task.Follows (Task.planned observeStep) log outcome (loopPhase api config wallets walletSudo log).2
        (poolsScript api config wallets some_wallet walletSudo ids) := by
  unfold loopPhase poolsScript
  split
  · obtain ⟨ids, outcome, sized, printed, follows⟩ :=
      bootstrap_pools_loop_follows api wallets some_wallet walletSudo config.pools 0 log
    rw [Nat.zero_mod] at printed follows
    exact ⟨ids, outcome, sized, printed, Task.follows_map observe _ _ pool_steps_observed log _ _ _ follows⟩
  · exact ⟨List.replicate config.pools.length 0, .resolved (), by simp, rfl,
      Task.follows_nil (Task.planned observeStep) log⟩

end Phases

section Run

variable (api : Api) (config : Config) (wallets : List KeyringPair) (some_wallet : wallets ≠ [])
  (walletSudo : KeyringPair) (log : ChainLog)

-- What was caught in the pool loop is printed before whatever comes later.
theorem printed_first (task : ChainTask (List String)) (caught : Option String) :
    (do
      let later ← task
      return caught.toList ++ later : ChainTask (List String)) log =
      ((task log).1.map fun later => caught.toList ++ later, (task log).2) := by
  rcases ran : task log with ⟨outcome, after⟩
  cases outcome <;> simp only [bind, ran] <;> rfl

-- The ids that the loop meets in this run; a run that never reaches the loop
-- may have any.
theorem loop_ids : ∃ ids : List Nat, ids.length = config.pools.length ∧
    ∀ bonded funded, bondsPhase api config wallets walletSudo log = (.resolved (), bonded) →
      gasPhase api config wallets walletSudo bonded = (.resolved (), funded) →
        ∃ outcome, (loopPhase api config wallets walletSudo funded).1 = caught outcome ∧
          Task.Follows (Task.planned observeStep) funded outcome (loopPhase api config wallets walletSudo funded).2
            (poolsScript api config wallets some_wallet walletSudo ids) := by
  let prelude := bondsPhase api config wallets walletSudo >>= fun _ => gasPhase api config wallets walletSudo
  obtain ⟨ids, outcome, sized, printed, follows⟩ :=
    loop_phase_follows api config wallets some_wallet walletSudo (prelude log).2
  refine ⟨ids, sized, ?_⟩
  intro bonded funded bondsRan gasRan
  have reached : prelude log = (.resolved (), funded) := by
    rw [← gasRan]
    exact Task.bind_resolved _ _ log bonded () bondsRan
  rw [reached] at printed follows
  exact ⟨outcome, printed, follows⟩

theorem assets_follow_stages : Task.FollowsStages (Task.planned observeStep) log
    (Task.orReport printed (assetsPhase api config walletSudo) (fun _ => return []) log).1
    (Task.orReport printed (assetsPhase api config walletSudo) (fun _ => return []) log).2
    [⟨assetsScript api config walletSudo, true⟩] :=
  Task.stages_or_report _ log printed _ _ _ _ rfl (fun _ => rfl) (assets_phase_follows api config walletSudo log)
    fun _ finished _ => .finished finished

theorem bootstrap_follows_stages : ∃ ids : List Nat, ids.length = config.pools.length ∧
    Task.FollowsStages (Task.planned observeStep) log (bootstrap api config wallets walletSudo log).1
      (bootstrap api config wallets walletSudo log).2 (stages api config wallets some_wallet walletSudo ids) := by
  obtain ⟨ids, sized, loopFollows⟩ := loop_ids api config wallets some_wallet walletSudo log
  refine ⟨ids, sized, ?_⟩
  unfold bootstrap stages
  rw [pools_phase_parts]
  refine Task.stages_or_report _ log printed _ _ _ _ rfl (fun _ => rfl)
    (bonds_phase_follows api config wallets some_wallet walletSudo log) ?_
  intro _ bonded bondsRan
  rw [Task.or_report_bind]
  refine Task.stages_or_report _ bonded printed _ _ _ _ rfl (fun _ => rfl)
    (gas_phase_follows api config wallets walletSudo bonded) ?_
  intro _ funded gasRan
  obtain ⟨outcome, ended, loop⟩ := loopFollows bonded funded bondsRan gasRan
  rcases ran : loopPhase api config wallets walletSudo funded with ⟨result, after⟩
  rw [ran] at ended loop
  obtain rfl : result = caught outcome := ended
  have last := assets_follow_stages api config walletSudo after
  cases outcome with
  | pending =>
      rw [Task.or_report_pending _ _ _ funded after ran]
      exact .waited funded after _ _ loop
  | resolved =>
      rw [Task.or_report_resolved _ _ _ funded after none ran, printed_first]
      have silent : ∀ ending : Settlement String (List String), ending.map (fun later => [] ++ later) = ending := by
        intro ending
        cases ending <;> rfl
      rw [Option.toList_none, silent]
      exact .completed funded after _ _ _ _ loop last
  | rejected error =>
      rw [Task.or_report_resolved _ _ _ funded after (some error) ran, printed_first]
      exact .skipped funded after _ error _ _ _ rfl loop last

end Run

end PicassoBootstrap
