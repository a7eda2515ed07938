import PicassoBootstrap.CrowdloanRewards

set_option autoImplicit false

namespace PicassoBootstrap

inductive Scheme where
  | relayChain
  | ethereum
deriving DecidableEq, Repr

-- What the contributor of each chain signs for a reward key of any length.
def Scheme.message (scheme : Scheme) (publicKey : List UInt8) : String :=
  match scheme with
  | .relayChain => "<Bytes>picasso-" ++ toHexString publicKey ++ "</Bytes>"
  | .ethereum => "picasso-" ++ toHexString publicKey

theorem wrapped_hex_injective (before after : String) (key otherKey : List UInt8)
    (same : before ++ toHexString key ++ after = before ++ toHexString otherKey ++ after) : key = otherKey := by
  have texts := congrArg String.toList same
  simp only [String.toList_append, List.append_cancel_right_eq, List.append_cancel_left_eq] at texts
  exact to_hex_string_injective key otherKey (String.toList_inj.mp texts)

-- One message starts with `<`, the other with `p`.
theorem schemes_apart (key otherKey : List UInt8) :
    Scheme.relayChain.message key ≠ Scheme.ethereum.message otherKey := by
  have wrapped : (Scheme.relayChain.message key).toList.head? = some '<' := by
    change ("<Bytes>picasso-" ++ toHexString key ++ "</Bytes>").toList.head? = some '<'
    rw [String.toList_append, String.toList_append]
    rfl
  have plain : (Scheme.ethereum.message otherKey).toList.head? = some 'p' := by
    change ("picasso-" ++ toHexString otherKey).toList.head? = some 'p'
    rw [String.toList_append]
    rfl
  intro same
  have first : some '<' = some 'p' := by
    rw [← wrapped, ← plain, same]
  exact absurd first (by decide)

theorem relay_chain_message_injective (key otherKey : List UInt8)
    (same : Scheme.relayChain.message key = Scheme.relayChain.message otherKey) : key = otherKey :=
  wrapped_hex_injective "<Bytes>picasso-" "</Bytes>" key otherKey same

theorem ethereum_message_injective (key otherKey : List UInt8)
    (same : Scheme.ethereum.message key = Scheme.ethereum.message otherKey) : key = otherKey := by
  have plain : "picasso-" ++ toHexString key = "picasso-" ++ toHexString otherKey := same
  exact wrapped_hex_injective "picasso-" "" key otherKey (by rw [plain])

theorem scheme_message_inj (scheme other : Scheme) (key otherKey : List UInt8) :
    scheme.message key = other.message otherKey ↔ scheme = other ∧ key = otherKey := by
  constructor
  · intro same
    cases scheme with
    | relayChain =>
        cases other with
        | relayChain => exact ⟨rfl, relay_chain_message_injective key otherKey same⟩
        | ethereum => exact absurd same (schemes_apart key otherKey)
    | ethereum =>
        cases other with
        | relayChain => exact absurd same.symm (schemes_apart otherKey key)
        | ethereum => exact ⟨rfl, ethereum_message_injective key otherKey same⟩
  · rintro ⟨rfl, rfl⟩
    rfl

theorem association_message_names_account :
    (∀ bytes : List UInt8, (toHexString bytes).length = 2 * bytes.length ∧
      (∀ c ∈ (toHexString bytes).toList, c ∈ hexAlphabet) ∧ Schema.hexPairs (toHexString bytes).toList = some bytes) ∧
    (∀ a b : List UInt8, toHexString (a ++ b) = toHexString a ++ toHexString b) ∧
    (∀ rewardAccount : KeyringPair,
      associateKSMMessage rewardAccount = Scheme.relayChain.message rewardAccount.publicKey.bytes ∧
        associateEthMessage rewardAccount = Scheme.ethereum.message rewardAccount.publicKey.bytes ∧
        associateEthMessage rewardAccount = proofMessage rewardAccount) ∧
    ∀ (scheme other : Scheme) (key otherKey : List UInt8),
      scheme.message key = other.message otherKey ↔ scheme = other ∧ key = otherKey := by
  refine ⟨?_, to_hex_string_append, fun _ => ⟨rfl, rfl, rfl⟩, scheme_message_inj⟩
  intro bytes
  exact ⟨to_hex_string_length bytes, to_hex_string_alphabet bytes, to_hex_string_decoded bytes⟩

end PicassoBootstrap
