import PicassoBootstrap.CrowdloanRewards

set_option autoImplicit false

namespace PicassoBootstrap

open Async

inductive Association where
  | relayChain (contributorAccount : KeyringPair)
  | ethereum (signer : EthereumSigner)

namespace Association

def proof (association : Association) (rewardAccount : KeyringPair) : Schema.Input :=
  match association with
  | .relayChain contributorAccount => associateKSMProof contributorAccount rewardAccount
  | .ethereum signer => associateEthProof signer rewardAccount

def associate (association : Association) (api : Api) (rewardAccount : KeyringPair) : ChainTask Event :=
  match association with
  | .relayChain contributorAccount => associateKSM api contributorAccount rewardAccount
  | .ethereum signer => associateEth api signer rewardAccount

def signature (association : Association) (rewardAccount : KeyringPair) : Option (List UInt8) :=
  match association with
  | .relayChain contributorAccount => some (contributorAccount.sign (associateKSMMessage rewardAccount))
  | .ethereum signer => Schema.hexBytes (signer.signMessage (associateEthMessage rewardAccount))

def declared (association : Association) (signature : List UInt8) : Schema.Value :=
  match association with
  | .relayChain contributorAccount =>
      .variant "RelayChain"
        (.pair (.bytes contributorAccount.publicKey.bytes) (.pair (.variant "Sr25519" (.bytes signature)) .unit))
  | .ethereum _ => .variant "Ethereum" (.bytes signature)

def isRelayChain : Association → Bool
  | .relayChain _ => true
  | .ethereum _ => false

end Association

-- The proof argument decodes, in the variant of the contributor's chain, and
-- carries exactly the signature.
def ProofIsProof (association : Association) (rewardAccount : KeyringPair) : Prop :=
  ∃ signature, association.signature rewardAccount = some signature ∧
    Schema.decode palletCrowdloanRewardsModelsProof (association.proof rewardAccount) =
      some (association.declared signature)

theorem sr25519_decoded (signature : List UInt8) (size : signature.length = 64) :
    Schema.decode multiSignature (.object [("Sr25519", .bytes signature)]) =
      some (.variant "Sr25519" (.bytes signature)) := by
  rw [multiSignature, Schema.decode_object, Schema.decode_variant_next _ _ _ _ _ (by decide),
    Schema.decode_variant_first, Schema.decode_bytes 64 signature size (by decide)]
  rfl

theorem ksm_proof_decoded (contributorAccount rewardAccount : KeyringPair) :
    Schema.decode palletCrowdloanRewardsModelsProof (associateKSMProof contributorAccount rewardAccount) =
      some (.variant "RelayChain" (.pair (.bytes contributorAccount.publicKey.bytes)
        (.pair (.variant "Sr25519" (.bytes (contributorAccount.sign (associateKSMMessage rewardAccount)))) .unit))) := by
  have account := Schema.decode_bytes 32 _ contributorAccount.publicKey.size (by decide)
  have signed := sr25519_decoded _ (contributorAccount.signatureSize (associateKSMMessage rewardAccount))
  have fields := Schema.decode_tuple_cons _ _ _ _ _ _ account
    (Schema.decode_tuple_cons _ _ _ _ _ _ signed Schema.decode_all_nil)
  rw [palletCrowdloanRewardsModelsProof, associateKSMProof, Schema.decode_object, Schema.decode_variant_first,
    Schema.decode_tuple, fields]
  rfl

-- The first key of the Ethereum proof is `proof`, which no variant is called.
theorem eth_proof_refused (signer : EthereumSigner) (rewardAccount : KeyringPair) :
    Schema.decode palletCrowdloanRewardsModelsProof (associateEthProof signer rewardAccount) = none := by
  rw [palletCrowdloanRewardsModelsProof, associateEthProof, Schema.decode_object]
  exact Schema.decode_variant_unknown _ _ _ (by decide)

theorem eth_proof_is_no_proof (signer : EthereumSigner) (rewardAccount : KeyringPair) :
    ¬ ProofIsProof (.ethereum signer) rewardAccount := by
  rintro ⟨signature, _, decoded⟩
  rw [Association.proof, eth_proof_refused] at decoded
  exact absurd decoded (by simp)

theorem proof_is_proof_iff (association : Association) (rewardAccount : KeyringPair) :
    ProofIsProof association rewardAccount ↔ association.isRelayChain = true := by
  cases association with
  | relayChain contributorAccount =>
      exact ⟨fun _ => rfl, fun _ => ⟨_, rfl, ksm_proof_decoded contributorAccount rewardAccount⟩⟩
  | ethereum signer =>
      constructor
      · intro proves
        exact absurd proves (eth_proof_is_no_proof signer rewardAccount)
      · intro relay
        exact absurd relay (by simp [Association.isRelayChain])

theorem zero_signature_decoded :
    Schema.hexBytes (String.ofList ('0' :: 'x' :: List.replicate 130 '0')) = some (List.replicate 65 0) := by
  have digits : (List.replicate 65 0).flatMap hexByte = List.replicate 130 '0' := by decide +kernel
  rw [← digits, Schema.hexBytes, String.toList_ofList]
  exact Schema.hex_pairs_flat_map hexByte _ hex_byte_reads

def devSigner : EthereumSigner :=
  ⟨fun _ => String.ofList ('0' :: 'x' :: List.replicate 130 '0'),
    fun _ => ⟨List.replicate 65 0, zero_signature_decoded, rfl⟩⟩

-- The well-formed signature never reaches the chain: encoding the call throws.
theorem eth_association_never_sent :
    (Association.ethereum devSigner).signature (devWallet 1) = some (List.replicate 65 0) ∧
      ¬ ProofIsProof (.ethereum devSigner) (devWallet 1) ∧
      (Association.ethereum devSigner).associate (promptNode 100) (devWallet 1) [] =
        (.rejected "Cannot map Enum JSON", []) := by
  refine ⟨zero_signature_decoded, eth_proof_is_no_proof devSigner (devWallet 1), ?_⟩
  simp only [Association.associate, associateEth, Tx.crowdloanRewardsAssociate, eth_proof_refused]
  rfl

end PicassoBootstrap
