import PicassoBootstrap.Lib.DecimalDivision
import PicassoBootstrap.Lib.Double

set_option autoImplicit false

namespace PicassoBootstrap

-- The values of the decimal library. Infinity is not told apart from NaN: no
-- codec takes either.
inductive BigNumber where
  | nan
  | finite (value : Decimal)
deriving DecidableEq

inductive JsNumber where
  | nan
  | finite (value : ℚ)
deriving DecidableEq

namespace BigNumber

def ofString (s : String) : BigNumber :=
  match Decimal.parse s.toList with
  | some value => .finite value
  | none => .nan

def ofNat (n : Nat) : BigNumber := .finite (Decimal.ofNat n)

def ofInt (n : Int) : BigNumber := .finite (Decimal.ofInt n)

def plus : BigNumber → BigNumber → BigNumber
  | .finite a, .finite b => .finite (a.add b)
  | _, _ => .nan

def times : BigNumber → BigNumber → BigNumber
  | .finite a, .finite b => .finite (a.mul b)
  | _, _ => .nan

def pow : BigNumber → Nat → BigNumber
  | .finite a, n => .finite (a.pow n)
  | .nan, _ => .nan

-- DECIMAL_PLACES and ROUNDING_MODE are left at their defaults.
def div : BigNumber → BigNumber → BigNumber
  | .finite a, .finite b => if b.coeff = 0 then .nan else .finite (Decimal.div 20 a b)
  | _, _ => .nan

-- EXPONENTIAL_AT is left at its default [-7, 20].
def toString : BigNumber → String
  | .finite value => String.ofList (value.print (-7) 21)
  | .nan => "NaN"

def toNumber : BigNumber → JsNumber
  | .finite value => .finite (Double.round value.toRat)
  | .nan => .nan

@[simp] theorem plus_of_nat (m n : Nat) : plus (ofNat m) (ofNat n) = ofNat (m + n) := by
  simp [plus, ofNat, Decimal.add_of_nat]

@[simp] theorem times_of_nat (m n : Nat) : times (ofNat m) (ofNat n) = ofNat (m * n) := by
  simp [times, ofNat, Decimal.mul_of_nat]

@[simp] theorem pow_of_nat (m n : Nat) : pow (ofNat m) n = ofNat (m ^ n) := by
  simp [pow, ofNat, Decimal.pow_of_nat]

theorem of_nat_injective (m n : Nat) (same : ofNat m = ofNat n) : m = n :=
  Decimal.of_nat_injective m n (by simpa [ofNat] using same)

end BigNumber

def Spells (s : String) (n : Nat) : Prop :=
  s.toList ≠ [] ∧ Decimal.allDigits s.toList = true ∧ Nat.ofDigitChars 10 s.toList 0 = n

instance (s : String) (n : Nat) : Decidable (Spells s n) := by
  unfold Spells
  infer_instance

def decodeDigits (cs : List Char) : Option Nat :=
  if cs ≠ [] ∧ Decimal.allDigits cs then some (Nat.ofDigitChars 10 cs 0) else none

-- No integer type of this program takes a negative number, but "-0" is 0.
def decodeSigned : List Char → Option Nat
  | '-' :: digits => if decodeDigits digits = some 0 then some 0 else none
  | digits => decodeDigits digits

-- What createType reads an integer from: hex after 0x or 0X, or else decimal
-- digits from which bn.js has taken every white space, inner ones too. A decimal
-- point or exponent notation is refused.
def decodeText : List Char → Option Nat
  | [] => some 0
  | '0' :: 'x' :: digits => Decimal.radixValue 16 digits 0
  | '0' :: 'X' :: digits => Decimal.radixValue 16 digits 0
  | cs => decodeSigned (cs.filter fun c => !Decimal.isSpace c)

def fitUInt (bits : Nat) : Option Nat → Except String Nat
  | some n => if n < 2 ^ bits then .ok n else .error "Input too large"
  | none => .error "Unable to create an integer"

def createUInt (bits : Nat) (s : String) : Except String Nat := fitUInt bits (decodeText s.toList)

def createUIntOfNumber (bits : Nat) (x : JsNumber) : Except String Nat :=
  match x with
  | .nan => .error "Number needs to be an integer <= Number.MAX_SAFE_INTEGER, i.e. 2 ^ 53 - 1"
  | .finite q =>
      if q.den = 1 ∧ q ≤ Double.maxSafeInteger then
        fitUInt bits (if 0 ≤ q.num then some q.num.toNat else none)
      else .error "Number needs to be an integer <= Number.MAX_SAFE_INTEGER, i.e. 2 ^ 53 - 1"

-- createType takes numbers, strings, bigints and the integers of bn.js. An object
-- of the decimal library is none of these, whatever its value.
def createUIntOfBigNumber (_bits : Nat) (_n : BigNumber) : Except String Nat := .error "Unable to create an integer"

theorem fit_uint_ok (bits : Nat) (value : Option Nat) (n : Nat) :
    fitUInt bits value = .ok n ↔ value = some n ∧ n < 2 ^ bits := by
  cases value with
  | none => simp [fitUInt]
  | some m =>
      simp only [fitUInt]
      split <;> simp <;> omega

theorem fit_uint_some (bits n m : Nat) : fitUInt bits (some n) = .ok m ↔ m = n ∧ n < 2 ^ bits := by
  rw [fit_uint_ok, Option.some.injEq]
  constructor
  · rintro ⟨rfl, small⟩
    exact ⟨rfl, small⟩
  · rintro ⟨rfl, small⟩
    exact ⟨rfl, small⟩

theorem bare_iff (d : Decimal) : d.Bare 21 ↔ ∃ n, d = Decimal.ofNat n ∧ n < 10 ^ 21 := by
  constructor
  · rintro ⟨sign, whole, short⟩
    refine ⟨d.coeff.toNat, Decimal.eq_of_nat d whole sign, ?_⟩
    have bound := (Nat.length_toDigits_le_iff (by decide) (by decide : 0 < 21)).mp (by omega :
      (Nat.toDigits 10 d.coeff.natAbs).length ≤ 21)
    omega
  · rintro ⟨n, rfl, small⟩
    refine ⟨by simp [Decimal.ofNat], rfl, ?_⟩
    have short := (Nat.length_toDigits_le_iff (by decide) (by decide : 0 < 21)).mpr small
    simpa [Decimal.ofNat] using short

theorem decode_digits_ok (cs : List Char) (n : Nat) :
    decodeDigits cs = some n ↔ cs ≠ [] ∧ Decimal.allDigits cs = true ∧ Nat.ofDigitChars 10 cs 0 = n := by
  unfold decodeDigits
  split
  · rename_i digits
    simp [digits]
  · rename_i other
    constructor
    · intro impossible
      exact absurd impossible (by simp)
    · rintro ⟨some_digit, digits, _⟩
      exact absurd ⟨some_digit, digits⟩ other

theorem decode_digits_marked (cs : List Char) (mark : Char) (member : mark ∈ cs) (other : mark.isDigit = false) :
    decodeDigits cs = none := by
  unfold decodeDigits
  rw [if_neg]
  rintro ⟨_, digits⟩
  rw [Decimal.not_all_digits cs mark member other] at digits
  exact absurd digits (by simp)

theorem decode_signed_marked (cs : List Char) (mark : Char) (member : mark ∈ cs) (other : mark.isDigit = false)
    (unsigned : mark ≠ '-') : decodeSigned cs = none := by
  unfold decodeSigned
  split
  · rename_i digits
    have inside : mark ∈ digits := by simpa [unsigned] using member
    rw [decode_digits_marked digits mark inside other]
    simp
  · exact decode_digits_marked _ mark member other

theorem decode_signed_plain (cs : List Char) (digits : Decimal.allDigits cs = true) :
    decodeSigned cs = decodeDigits cs := by
  unfold decodeSigned
  split
  · exact absurd (Decimal.all_digits_mem _ digits '-' (by simp)) (by decide)
  · rfl

theorem decode_text_unmarked (cs : List Char) (some_char : cs ≠ []) (unmarked : 'x' ∉ cs ∧ 'X' ∉ cs)
    (unspaced : ∀ c ∈ cs, Decimal.isSpace c = false) : decodeText cs = decodeSigned cs := by
  unfold decodeText
  split
  · exact absurd rfl some_char
  · exact absurd (by simp) unmarked.1
  · exact absurd (by simp) unmarked.2
  · rw [List.filter_eq_self.mpr fun c member => by simp [unspaced c member]]

theorem decode_text_digits (cs : List Char) (digits : Decimal.allDigits cs = true) :
    decodeText cs = some (Nat.ofDigitChars 10 cs 0) := by
  by_cases some_digit : cs = []
  · subst some_digit
    rfl
  · have digit := Decimal.all_digits_mem cs digits
    have unmarked : 'x' ∉ cs ∧ 'X' ∉ cs :=
      ⟨fun mark => absurd (digit 'x' mark) (by decide), fun mark => absurd (digit 'X' mark) (by decide)⟩
    rw [decode_text_unmarked cs some_digit unmarked fun c member =>
      Decimal.plain_not_space c (Decimal.digit_plain c (digit c member)), decode_signed_plain cs digits]
    exact (decode_digits_ok cs _).mpr ⟨some_digit, digits, rfl⟩

theorem print_signed (d : Decimal) : decodeText (d.print (-7) 21) = decodeSigned (d.print (-7) 21) := by
  have shapes := Decimal.print_mem (-7) 21 d
  apply decode_text_unmarked
  · intro empty
    have digits : Decimal.allDigits (d.print (-7) 21) = true := by rw [empty]; rfl
    by_cases sign : d.coeff < 0
    · simp [Decimal.print, sign] at empty
    · rcases Decimal.print_unsigned_cases (-7) 21 (Nat.toDigits 10 d.coeff.natAbs) d.scale with
        ⟨_, _, same⟩ | mark | mark
      · rw [Decimal.print, if_neg sign, same] at empty
        exact Nat.toDigits_ne_nil empty
      · rw [Decimal.print, if_neg sign] at empty
        simp [empty] at mark
      · rw [Decimal.print, if_neg sign] at empty
        simp [empty] at mark
  · constructor
    · intro mark
      rcases shapes 'x' mark with digit | listed
      · exact absurd digit (by decide)
      · exact absurd listed (by decide)
    · intro mark
      rcases shapes 'X' mark with digit | listed
      · exact absurd digit (by decide)
      · exact absurd listed (by decide)
  · intro c member
    rcases shapes c member with digit | listed
    · exact Decimal.plain_not_space c (Decimal.digit_plain c digit)
    · simp only [List.mem_cons, List.not_mem_nil, or_false] at listed
      rcases listed with rfl | rfl | rfl | rfl <;> decide

-- Of the printed decimals only the digits of the integers below 10 ^ 21 are read.
theorem decode_text_print (d : Decimal) (n : Nat) :
    decodeText (d.print (-7) 21) = some n ↔ d = Decimal.ofNat n ∧ n < 10 ^ 21 := by
  by_cases bare : d.Bare 21
  · obtain ⟨m, rfl, small⟩ := (bare_iff d).mp bare
    rw [Decimal.print_bare _ _ _ (by decide) bare, decode_text_digits _ (Decimal.all_digits_to_digits _)]
    constructor
    · intro same
      have equal : m = n := by simpa [Decimal.ofNat] using same
      exact ⟨by rw [equal], by omega⟩
    · rintro ⟨same, _⟩
      have equal := Decimal.of_nat_injective m n same
      simp [Decimal.ofNat, equal]
  · have refused : decodeText (d.print (-7) 21) = none := by
      rw [print_signed]
      rcases Decimal.print_unsigned_cases (-7) 21 (Nat.toDigits 10 d.coeff.natAbs) d.scale with
        ⟨whole, short, same⟩ | mark | mark
      · by_cases sign : d.coeff < 0
        · rw [Decimal.print, if_pos sign, same]
          have value : decodeDigits (Nat.toDigits 10 d.coeff.natAbs) = some d.coeff.natAbs :=
            (decode_digits_ok _ _).mpr ⟨Nat.toDigits_ne_nil, Decimal.all_digits_to_digits _,
              Nat.ofDigitChars_ten_toDigits⟩
          have nonzero : d.coeff.natAbs ≠ 0 := by omega
          simp [decodeSigned, value, nonzero]
        · exact absurd ⟨by omega, whole, short⟩ bare
      · refine decode_signed_marked _ 'e' ?_ (by decide) (by decide)
        simp only [Decimal.print]
        split <;> simp [mark]
      · refine decode_signed_marked _ '.' ?_ (by decide) (by decide)
        simp only [Decimal.print]
        split <;> simp [mark]
    rw [refused]
    constructor
    · intro impossible
      exact absurd impossible (by simp)
    · rintro ⟨rfl, small⟩
      exact absurd ((bare_iff _).mpr ⟨n, rfl, small⟩) bare

theorem create_uint_to_string (bits : Nat) (x : BigNumber) (n : Nat) :
    createUInt bits x.toString = .ok n ↔ x = BigNumber.ofNat n ∧ n < 10 ^ 21 ∧ n < 2 ^ bits := by
  rw [createUInt, fit_uint_ok]
  cases x with
  | nan =>
      have refused : decodeText BigNumber.nan.toString.toList = none := by decide
      simp [refused, BigNumber.ofNat]
  | finite d => simp [BigNumber.toString, decode_text_print, BigNumber.ofNat, and_assoc]

theorem create_u128_to_string (x : BigNumber) (n : Nat) :
    createUInt 128 x.toString = .ok n ↔ x = BigNumber.ofNat n ∧ n < 10 ^ 21 := by
  rw [create_uint_to_string]
  constructor
  · rintro ⟨value, short, _⟩
    exact ⟨value, short⟩
  · rintro ⟨value, short⟩
    exact ⟨value, short, by omega⟩

theorem create_uint_spells (bits : Nat) (s : String) (n : Nat) (spells : Spells s n) (small : n < 2 ^ bits) :
    createUInt bits s = .ok n := by
  obtain ⟨_, digits, value⟩ := spells
  rw [createUInt, fit_uint_ok, decode_text_digits _ digits, value]
  exact ⟨rfl, small⟩

theorem of_string_spells (s : String) (n : Nat) (spells : Spells s n) : BigNumber.ofString s = BigNumber.ofNat n := by
  obtain ⟨some_digit, digits, value⟩ := spells
  rw [BigNumber.ofString, Decimal.parse_digits _ digits some_digit, value]
  rfl

theorem spells_repr (n : Nat) : Spells (toString n) n := by
  refine ⟨?_, ?_, ?_⟩ <;> simp [Decimal.all_digits_to_digits]

theorem BigNumber.of_string_to_string (n : Nat) (small : n < 10 ^ 21) :
    BigNumber.ofString (BigNumber.ofNat n).toString = BigNumber.ofNat n := by
  have bare := (bare_iff (Decimal.ofNat n)).mpr ⟨n, rfl, small⟩
  rw [BigNumber.ofNat, BigNumber.toString, BigNumber.ofString, String.toList_ofList,
    Decimal.print_bare _ _ _ (by decide) bare]
  simp [Decimal.ofNat, Decimal.parse_to_digits]

theorem of_string_finite (s : String) (d : Decimal) (parsed : BigNumber.ofString s = .finite d) :
    Decimal.parse s.toList = some d := by
  cases found : Decimal.parse s.toList with
  | none => simp [BigNumber.ofString, found] at parsed
  | some value => simpa [BigNumber.ofString, found] using parsed

theorem signed_agrees (s : String) (n : Nat) (d : Decimal) (parsed : BigNumber.ofString s = .finite d)
    (decoded : decodeSigned (s.toList.filter fun c => !Decimal.isSpace c) = some n) :
    BigNumber.ofString s = BigNumber.ofNat n := by
  have known := of_string_finite s d parsed
  rw [Decimal.unspaced_eq_trim _ d known] at decoded
  have same : Decimal.parse s.toList = some (Decimal.ofNat n) := by
    unfold decodeSigned at decoded
    split at decoded
    · rename_i digits shape
      split at decoded
      · rename_i zero
        obtain ⟨some_digit, allDigits, value⟩ := (decode_digits_ok _ _).mp zero
        obtain rfl : 0 = n := Option.some.inj decoded
        rw [Decimal.parse, shape]
        simp only [Decimal.parse_unsigned_digits digits allDigits some_digit, value, Option.map_some]
        rfl
      · exact absurd decoded (by simp)
    · obtain ⟨some_digit, allDigits, value⟩ := (decode_digits_ok _ _).mp decoded
      have first := Decimal.all_digits_mem _ allDigits
      rw [Decimal.parse]
      split
      · rename_i rest shape
        exact absurd (first '-' (by simp [shape])) (by decide)
      · rename_i rest shape
        exact absurd (first '+' (by simp [shape])) (by decide)
      · rw [Decimal.parse_unsigned_digits _ allDigits some_digit, value]
  rw [BigNumber.ofString, same]
  rfl

theorem hex_agrees (mark : Char) (hex : mark = 'x' ∨ mark = 'X') (digits : List Char) (n : Nat) (d : Decimal)
    (decoded : Decimal.radixValue 16 digits 0 = some n) (parsed : Decimal.parse ('0' :: mark :: digits) = some d) :
    d = Decimal.ofNat n := by
  by_cases empty : digits = []
  · subst empty
    have refused : Decimal.parse ['0', mark] = none := by rcases hex with rfl | rfl <;> decide
    exact absurd (refused.symm.trans parsed) (by simp)
  · rw [Decimal.parse_hex mark digits n hex decoded empty] at parsed
    exact (Option.some.inj parsed).symm

-- A text that both readers take stands for the same number in both.
theorem raw_agrees (bits : Nat) (s : String) (n : Nat) (d : Decimal) (raw : createUInt bits s = .ok n)
    (parsed : BigNumber.ofString s = .finite d) : BigNumber.ofString s = BigNumber.ofNat n := by
  rw [createUInt, fit_uint_ok] at raw
  obtain ⟨decoded, _⟩ := raw
  have known := of_string_finite s d parsed
  unfold decodeText at decoded
  split at decoded
  · rename_i empty
    have refused : Decimal.parse [] = none := by decide
    rw [empty, refused] at known
    exact absurd known (by simp)
  · rename_i digits shape
    rw [shape] at known
    rw [parsed, hex_agrees 'x' (.inl rfl) digits n d decoded known]
    rfl
  · rename_i digits shape
    rw [shape] at known
    rw [parsed, hex_agrees 'X' (.inr rfl) digits n d decoded known]
    rfl
  · exact signed_agrees s n d parsed decoded

theorem create_uint_to_number (bits id n : Nat) :
    createUIntOfNumber bits (BigNumber.ofNat id).toNumber = .ok n ↔
      n = id ∧ id ≤ Double.maxSafeInteger ∧ id < 2 ^ bits := by
  simp only [BigNumber.toNumber, BigNumber.ofNat, createUIntOfNumber, Decimal.to_rat_of_nat]
  by_cases safe : Double.round id ≤ Double.maxSafeInteger
  · have same := Double.round_safe id safe
    rw [same] at safe ⊢
    have bound : id ≤ Double.maxSafeInteger := by exact_mod_cast safe
    simp only [Rat.den_natCast, true_and, safe, if_true, Rat.num_natCast, Int.natCast_nonneg, Int.toNat_natCast,
      bound]
    exact fit_uint_some bits id n
  · rw [if_neg (by simp [safe])]
    constructor
    · intro impossible
      exact absurd impossible (by simp)
    · rintro ⟨_, bound, _⟩
      have exact_value := Double.round_small id (by simp [Double.maxSafeInteger] at bound; omega)
      rw [exact_value] at safe
      exact absurd (by exact_mod_cast bound) safe

-- Of the numbers the codec takes the safe integers only, and exactly.
theorem create_uint_of_number (bits n : Nat) (x : JsNumber) :
    createUIntOfNumber bits x = .ok n ↔ x = .finite n ∧ n ≤ Double.maxSafeInteger ∧ n < 2 ^ bits := by
  cases x with
  | nan => simp [createUIntOfNumber]
  | finite q =>
      simp only [createUIntOfNumber, JsNumber.finite.injEq]
      by_cases safe : q.den = 1 ∧ q ≤ Double.maxSafeInteger
      · rw [if_pos safe]
        have whole : (q.num : ℚ) = q := Rat.den_eq_one_iff _ |>.mp safe.1
        by_cases sign : 0 ≤ q.num
        · have natural : ((q.num.toNat : Nat) : ℚ) = q := by
            rw [← whole]
            exact_mod_cast congrArg (fun z : ℤ => (z : ℚ)) (Int.toNat_of_nonneg sign)
          have bound : q.num.toNat ≤ Double.maxSafeInteger := by
            have below := safe.2
            rw [← natural] at below
            exact_mod_cast below
          rw [if_pos sign, fit_uint_some]
          constructor
          · rintro ⟨rfl, fits⟩
            exact ⟨natural.symm, bound, fits⟩
          · rintro ⟨rfl, _, fits⟩
            simpa using fits
        · rw [if_neg sign]
          constructor
          · intro impossible
            exact absurd impossible (by simp [fitUInt])
          · rintro ⟨rfl, _⟩
            exact absurd (by simp) sign
      · rw [if_neg safe]
        constructor
        · intro impossible
          exact absurd impossible (by simp)
        · rintro ⟨rfl, bound, _⟩
          exact absurd ⟨Rat.den_natCast n, by exact_mod_cast bound⟩ safe

theorem big_number_refused (bits : Nat) (n : BigNumber) : ∃ error, createUIntOfBigNumber bits n = .error error :=
  ⟨_, rfl⟩

end PicassoBootstrap
