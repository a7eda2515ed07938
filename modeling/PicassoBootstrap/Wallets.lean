import PicassoBootstrap.Chain

set_option autoImplicit false

namespace PicassoBootstrap

-- `seed.toString(16).padStart(64, "0")`; the seeds are the integers from 0 on.
def privateKeyFromSeed (seed : Nat) : String :=
  "0x" ++ String.ofList (List.leftpad 64 '0' (Nat.toDigits 16 seed))

-- The keyring of the client library, for sr25519 pairs, with the hex decoder it
-- is used with.
structure Keyring where
  addFromUri : String → KeyringPair
  addFromSeed : List UInt8 → Except String KeyringPair
  hexToU8a : String → Except String (List UInt8)

def getSubstrateWallets (kr : Keyring) : List KeyringPair :=
  [kr.addFromUri "//Saad-1", kr.addFromUri "//Saad-2", kr.addFromUri "//Saad-3", kr.addFromUri "//Saad-4",
    kr.addFromUri "//Saad-5"]

-- `newWallet` is the constructor ethers.Wallet.
def getEthereumWallets {α : Type} (newWallet : String → α) : List α :=
  [newWallet (privateKeyFromSeed 1), newWallet (privateKeyFromSeed 2), newWallet (privateKeyFromSeed 3),
    newWallet (privateKeyFromSeed 4), newWallet (privateKeyFromSeed 5)]

-- An environment variable that is not set is `none`.
def getSudoWallet (kr : Keyring) (sudoSeed : Option String) (chain : String) : Except String KeyringPair :=
  if chain = "dali-local" then .ok (kr.addFromUri "//Alice")
  else
    match sudoSeed with
    | none => .error "Provide a sudo key env variable"
    | some pk =>
        if pk = "" then .error "Provide a sudo key env variable"
        else do
          let bytes ← kr.hexToU8a pk
          kr.addFromSeed bytes

-- The number that a key is, most significant byte first.
def keyNumber (key : List UInt8) : Nat := key.foldl (fun value byte => 256 * value + byte.toNat) 0

section PrivateKeys

variable (seed : Nat)

theorem private_key_characters : (privateKeyFromSeed seed).toList =
    '0' :: 'x' :: List.leftpad 64 '0' (Nat.toDigits 16 seed) := by
  simp only [privateKeyFromSeed, String.toList_append, String.toList_ofList]
  rfl

theorem private_key_bytes : Schema.hexBytes (privateKeyFromSeed seed) =
    Schema.hexPairs (List.leftpad 64 '0' (Nat.toDigits 16 seed)) := by
  rw [Schema.hexBytes, private_key_characters]
  rfl

theorem private_key_value : Decimal.radixValue 16 (List.leftpad 64 '0' (Nat.toDigits 16 seed)) 0 = some seed := by
  rw [List.leftpad, Decimal.radix_value_zeros, Decimal.radix_value_to_digits]

theorem private_key_fits : (List.leftpad 64 '0' (Nat.toDigits 16 seed)).length = 64 ↔ seed < 2 ^ 256 := by
  have short : (Nat.toDigits 16 seed).length ≤ 64 ↔ seed < 16 ^ 64 :=
    Nat.length_toDigits_le_iff (by decide) (by decide)
  have bound : (16 : Nat) ^ 64 = 2 ^ 256 := by decide
  rw [List.length_leftpad, ← bound, ← short]
  omega

-- The seeds below 2 ^ 256 are the ones that give a key of 32 bytes. That key is
-- the seed in big-endian form, so no two seeds share one.
theorem private_key_from_seed_round_trip :
    ((∃ key, Schema.hexBytes (privateKeyFromSeed seed) = some key ∧ key.length = 32) ↔ seed < 2 ^ 256) ∧
      (∀ key, Schema.hexBytes (privateKeyFromSeed seed) = some key → keyNumber key = seed) ∧
      ∀ other, privateKeyFromSeed other = privateKeyFromSeed seed → other = seed := by
  rw [private_key_bytes, ← private_key_fits]
  refine ⟨⟨?_, ?_⟩, ?_, ?_⟩
  · rintro ⟨key, decoded, sized⟩
    rw [Schema.hex_pairs_length _ _ decoded, sized]
  · intro fits
    obtain ⟨key, decoded⟩ := Schema.hex_pairs_read _ 0 seed (private_key_value seed) (by rw [fits])
    have paired := Schema.hex_pairs_length _ _ decoded
    exact ⟨key, decoded, by omega⟩
  · intro key decoded
    have value := Schema.hex_pairs_value _ _ decoded 0
    rw [private_key_value] at value
    exact (Option.some.inj value).symm
  · intro other same
    have characters := congrArg String.toList same
    rw [private_key_characters, private_key_characters] at characters
    have value := private_key_value other
    rw [(List.cons.inj (List.cons.inj characters).2).2, private_key_value] at value
    exact (Option.some.inj value).symm

end PrivateKeys

end PicassoBootstrap
