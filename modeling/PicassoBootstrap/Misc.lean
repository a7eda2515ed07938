import PicassoBootstrap.Chain

set_option autoImplicit false

namespace PicassoBootstrap

-- `("0" + x.toString(16)).slice(-2)`
def hexByte (x : UInt8) : List Char :=
  let padded := '0' :: Nat.toDigits 16 x.toNat
  padded.drop (padded.length - 2)

def toHexString (bytes : List UInt8) : String := String.ofList (bytes.flatMap hexByte)

def hexAlphabet : List Char := "0123456789abcdef".toList

-- The zero in front is dropped again for two digits and kept for one.
theorem hex_byte_digits (byte : UInt8) :
    hexByte byte = [Nat.digitChar (byte.toNat / 16), Nat.digitChar (byte.toNat % 16)] := by
  have bound : byte.toNat < 256 := byte.toNat_lt
  by_cases single : byte.toNat < 16
  · have high : byte.toNat / 16 = 0 := by omega
    have low : byte.toNat % 16 = byte.toNat := by omega
    simp [hexByte, Nat.toDigits_of_lt_base single, high, low]
  · have digits : Nat.toDigits 16 byte.toNat =
        [Nat.digitChar (byte.toNat / 16), Nat.digitChar (byte.toNat % 16)] := by
      rw [Nat.toDigits_of_base_le (by decide) (by omega), Nat.toDigits_of_lt_base (by omega)]
      rfl
    simp [hexByte, digits]

theorem hex_byte_length (byte : UInt8) : (hexByte byte).length = 2 := by
  simp [hex_byte_digits]

theorem hex_byte_alphabet (byte : UInt8) (c : Char) (member : c ∈ hexByte byte) : c ∈ hexAlphabet := by
  have digit : ∀ d < 16, Nat.digitChar d ∈ hexAlphabet := by decide
  have bound : byte.toNat < 256 := byte.toNat_lt
  rw [hex_byte_digits, List.mem_cons, List.mem_singleton] at member
  rcases member with rfl | rfl
  · exact digit _ (by omega)
  · exact digit _ (by omega)

theorem hex_byte_reads (byte : UInt8) (rest : List Char) :
    Schema.hexPairs (hexByte byte ++ rest) = (Schema.hexPairs rest).map fun others => byte :: others := by
  have bound : byte.toNat < 256 := byte.toNat_lt
  have whole : UInt8.ofNat (16 * (byte.toNat / 16) + byte.toNat % 16) = byte := by
    rw [Nat.div_add_mod, UInt8.ofNat_toNat]
  rw [hex_byte_digits, List.cons_append, List.cons_append, List.nil_append,
    Schema.hex_pairs_byte _ _ _ (by omega) (by omega), whole]

theorem to_hex_string_length (bytes : List UInt8) : (toHexString bytes).length = 2 * bytes.length := by
  rw [toHexString, String.length_ofList, List.length_flatMap]
  simp [hex_byte_length, List.map_const', Nat.mul_comm]

theorem to_hex_string_alphabet (bytes : List UInt8) (c : Char) (member : c ∈ (toHexString bytes).toList) :
    c ∈ hexAlphabet := by
  rw [toHexString, String.toList_ofList] at member
  obtain ⟨byte, _, digit⟩ := List.mem_flatMap.mp member
  exact hex_byte_alphabet byte c digit

theorem to_hex_string_decoded (bytes : List UInt8) : Schema.hexPairs (toHexString bytes).toList = some bytes := by
  rw [toHexString, String.toList_ofList]
  exact Schema.hex_pairs_flat_map hexByte bytes hex_byte_reads

theorem to_hex_string_append (a b : List UInt8) : toHexString (a ++ b) = toHexString a ++ toHexString b := by
  rw [toHexString, List.flatMap_append, String.ofList_append]
  rfl

theorem to_hex_string_injective (a b : List UInt8) (same : toHexString a = toHexString b) : a = b := by
  have decoded := to_hex_string_decoded a
  rw [same, to_hex_string_decoded b] at decoded
  exact (Option.some.inj decoded).symm

-- The prefix is defined as pallet config.
def proofMessage (account : KeyringPair) : String := "picasso-" ++ toHexString account.publicKey.bytes

end PicassoBootstrap
