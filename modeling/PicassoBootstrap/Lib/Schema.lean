import PicassoBootstrap.Lib.Decimal

set_option autoImplicit false

-- Decoding of plain data against a declared type: fixed byte strings, tuples
-- and tagged unions. An object stands for a union value through its first key.
namespace Schema

inductive Input where
  | bytes (data : List UInt8)
  | text (content : String)
  | list (items : List Input)
  | object (fields : List (String × Input))

mutual

inductive Shape where
  | bytes (size : Nat)
  | tuple (fields : Shapes)
  | enum (variants : Variants)

inductive Shapes where
  | nil
  | cons (shape : Shape) (rest : Shapes)

inductive Variants where
  | nil
  | cons (name : String) (shape : Shape) (rest : Variants)

end

inductive Value where
  | bytes (data : List UInt8)
  | unit
  | pair (head tail : Value)
  | variant (name : String) (value : Value)
deriving DecidableEq, Repr

def lower (s : String) : List Char := s.toList.map Char.toLower

def names : Variants → List String
  | .nil => []
  | .cons name _ rest => name :: names rest

def hexPairs : List Char → Option (List UInt8)
  | [] => some []
  | high :: low :: rest =>
      match Decimal.digitValue high, Decimal.digitValue low, hexPairs rest with
      | some h, some l, some bytes => some (UInt8.ofNat (16 * h + l) :: bytes)
      | _, _, _ => none
  | [_] => none

def hexBytes (s : String) : Option (List UInt8) :=
  match s.toList with
  | '0' :: 'x' :: digits => hexPairs digits
  | _ => none

theorem hex_pairs_byte (high low : Nat) (rest : List Char) (small : high < 16) (smaller : low < 16) :
    hexPairs (Nat.digitChar high :: Nat.digitChar low :: rest) =
      (hexPairs rest).map fun bytes => UInt8.ofNat (16 * high + low) :: bytes := by
  rw [hexPairs, Decimal.digit_value_char high small, Decimal.digit_value_char low smaller]
  cases hexPairs rest <;> rfl

theorem hex_pairs_flat_map (code : UInt8 → List Char) (bytes : List UInt8)
    (reads : ∀ byte rest, hexPairs (code byte ++ rest) = (hexPairs rest).map fun others => byte :: others) :
    hexPairs (bytes.flatMap code) = some bytes := by
  induction bytes with
  | nil => rfl
  | cons byte rest ih =>
      rw [List.flatMap_cons, reads, ih]
      rfl

theorem hex_pairs_value (cs : List Char) (bytes : List UInt8) (decoded : hexPairs cs = some bytes) (start : Nat) :
    Decimal.radixValue 16 cs start = some (bytes.foldl (fun value byte => 256 * value + byte.toNat) start) := by
  fun_induction hexPairs cs generalizing bytes start with
  | case1 =>
      obtain rfl : [] = bytes := by simpa using decoded
      rfl
  | case2 high low rest h l others tail second first ih =>
      obtain rfl : UInt8.ofNat (16 * h + l) :: others = bytes := by simpa using decoded
      have upper := Decimal.digit_value_small high h first
      have lower := Decimal.digit_value_small low l second
      have byte : (UInt8.ofNat (16 * h + l)).toNat = 16 * h + l := by
        rw [UInt8.toNat_ofNat']
        omega
      simp only [Decimal.radixValue, first, second, upper, lower, if_true, List.foldl_cons, byte]
      rw [ih others tail, show 16 * (16 * start + h) + l = 256 * start + (16 * h + l) by omega]
  | case3 => exact absurd decoded (by simp)
  | case4 => exact absurd decoded (by simp)

theorem hex_pairs_length (cs : List Char) (bytes : List UInt8) (decoded : hexPairs cs = some bytes) :
    cs.length = 2 * bytes.length := by
  fun_induction hexPairs cs generalizing bytes with
  | case1 =>
      obtain rfl : [] = bytes := by simpa using decoded
      rfl
  | case2 high low rest h l others tail second first ih =>
      obtain rfl : UInt8.ofNat (16 * h + l) :: others = bytes := by simpa using decoded
      have shorter := ih others tail
      simp only [List.length_cons, shorter]
      omega
  | case3 => exact absurd decoded (by simp)
  | case4 => exact absurd decoded (by simp)

-- Any even number of characters that has a value in base 16 is a byte string.
theorem hex_pairs_read (cs : List Char) (start value : Nat) (known : Decimal.radixValue 16 cs start = some value)
    (even : cs.length % 2 = 0) : ∃ bytes, hexPairs cs = some bytes := by
  fun_induction hexPairs cs generalizing start with
  | case1 => exact ⟨[], rfl⟩
  | case2 high low rest h l others tail second first ih => exact ⟨_, rfl⟩
  | case3 high low rest unread ih =>
      exfalso
      cases first : Decimal.digitValue high with
      | none => simp [Decimal.radixValue, first] at known
      | some h =>
          cases second : Decimal.digitValue low with
          | none => simp [Decimal.radixValue, first, second] at known
          | some l =>
              simp only [Decimal.radixValue, first, second, Decimal.digit_value_small high h first,
                Decimal.digit_value_small low l second, if_true] at known
              obtain ⟨others, tail⟩ := ih _ known (by simp only [List.length_cons] at even; omega)
              exact unread h l others first second tail
  | case4 => exact absurd even (by simp)

-- A byte array may be longer than the type; a hex string has to fit exactly.
def fitBytes (size : Nat) (data : List UInt8) : Option (List UInt8) :=
  if data = [] then some (List.replicate size 0)
  else if data.length < size then none
  else some (data.take size)

def fitText (size : Nat) (content : String) : Option (List UInt8) :=
  match hexBytes content with
  | some data => if data.length = size then some data else none
  | none => none

mutual

def decode : Shape → Input → Option Value
  | .bytes size, .bytes data => (fitBytes size data).map .bytes
  | .bytes size, .text content => (fitText size content).map .bytes
  | .tuple shapes, .list items => decodeAll shapes items
  | .enum variants, .object ((key, value) :: _) => decodeVariant variants key value
  | _, _ => none

def decodeAll : Shapes → List Input → Option Value
  | .nil, [] => some .unit
  | .cons shape rest, item :: items =>
      match decode shape item, decodeAll rest items with
      | some head, some tail => some (.pair head tail)
      | _, _ => none
  | _, _ => none

def decodeVariant : Variants → String → Input → Option Value
  | .nil, _, _ => none
  | .cons name shape rest, key, value =>
      if lower name = lower key then (decode shape value).map (.variant name)
      else decodeVariant rest key value

end

theorem fit_bytes_exact (data : List UInt8) (some_byte : data ≠ []) : fitBytes data.length data = some data := by
  simp [fitBytes, some_byte]

theorem decode_bytes (size : Nat) (data : List UInt8) (exact : data.length = size) (positive : 0 < size) :
    decode (.bytes size) (.bytes data) = some (.bytes data) := by
  subst exact
  simp [decode, fit_bytes_exact data (List.length_pos_iff.mp positive)]

theorem decode_object (variants : Variants) (key : String) (value : Input) (fields : List (String × Input)) :
    decode (.enum variants) (.object ((key, value) :: fields)) = decodeVariant variants key value := by
  simp [decode]

theorem decode_variant_first (name : String) (shape : Shape) (rest : Variants) (value : Input) :
    decodeVariant (.cons name shape rest) name value = (decode shape value).map (.variant name) := by
  simp [decodeVariant]

theorem decode_variant_next (name key : String) (shape : Shape) (rest : Variants) (value : Input)
    (different : lower name ≠ lower key) :
    decodeVariant (.cons name shape rest) key value = decodeVariant rest key value := by
  simp [decodeVariant, different]

theorem decode_variant_unknown (variants : Variants) (key : String) (value : Input)
    (unknown : ∀ name ∈ names variants, lower name ≠ lower key) : decodeVariant variants key value = none := by
  cases variants with
  | nil => simp [decodeVariant]
  | cons name shape rest =>
      rw [decode_variant_next name key shape rest value (unknown name (by simp [names]))]
      exact decode_variant_unknown rest key value fun other member => unknown other (by simp [names, member])

theorem decode_tuple (shapes : Shapes) (items : List Input) :
    decode (.tuple shapes) (.list items) = decodeAll shapes items := by
  simp [decode]

theorem decode_all_nil : decodeAll .nil [] = some .unit := by
  simp [decodeAll]

theorem decode_tuple_cons (shape : Shape) (rest : Shapes) (item : Input) (items : List Input) (head tail : Value)
    (first : decode shape item = some head) (others : decodeAll rest items = some tail) :
    decodeAll (.cons shape rest) (item :: items) = some (.pair head tail) := by
  simp [decodeAll, first, others]

end Schema
