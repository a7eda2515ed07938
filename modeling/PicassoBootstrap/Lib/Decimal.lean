import Mathlib.Data.Rat.Defs
import Mathlib.Tactic.NormNum

set_option autoImplicit false

-- An exact decimal number coeff / 10 ^ scale, kept without trailing zeros, so
-- that equal values are equal terms.
structure Decimal where
  coeff : Int
  scale : Nat
  normal : scale = 0 ∨ ¬ (10 : Int) ∣ coeff
deriving DecidableEq

namespace Decimal

def reduce : Int → Nat → Decimal
  | coeff, 0 => ⟨coeff, 0, Or.inl rfl⟩
  | coeff, scale + 1 =>
      if divides : (10 : Int) ∣ coeff then reduce (coeff / 10) scale
      else ⟨coeff, scale + 1, Or.inr divides⟩

def ofNat (n : Nat) : Decimal := ⟨n, 0, Or.inl rfl⟩
def ofInt (n : Int) : Decimal := ⟨n, 0, Or.inl rfl⟩

def neg (d : Decimal) : Decimal := reduce (-d.coeff) d.scale
def add (a b : Decimal) : Decimal := reduce (a.coeff * 10 ^ b.scale + b.coeff * 10 ^ a.scale) (a.scale + b.scale)
def mul (a b : Decimal) : Decimal := reduce (a.coeff * b.coeff) (a.scale + b.scale)
def pow (a : Decimal) (n : Nat) : Decimal := reduce (a.coeff ^ n) (a.scale * n)

def toRat (d : Decimal) : ℚ := (d.coeff : ℚ) / 10 ^ d.scale

theorem of_nat_injective (m n : Nat) (same : ofNat m = ofNat n) : m = n := by
  have coeffs := congrArg coeff same
  simpa [ofNat] using coeffs

theorem add_of_nat (m n : Nat) : add (ofNat m) (ofNat n) = ofNat (m + n) := by
  simp [add, ofNat, reduce]

theorem add_of_int (m n : Int) : add (ofInt m) (ofInt n) = ofInt (m + n) := by
  simp [add, ofInt, reduce]

theorem mul_of_nat (m n : Nat) : mul (ofNat m) (ofNat n) = ofNat (m * n) := by
  simp [mul, ofNat, reduce]

theorem pow_of_nat (m n : Nat) : pow (ofNat m) n = ofNat (m ^ n) := by
  simp [pow, ofNat, reduce]

theorem to_rat_of_nat (n : Nat) : (ofNat n).toRat = n := by
  simp [toRat, ofNat]

theorem to_rat_of_int (n : Int) : (ofInt n).toRat = n := by
  simp [toRat, ofInt]

theorem eq_of_nat (d : Decimal) (whole : d.scale = 0) (positive : 0 ≤ d.coeff) : d = ofNat d.coeff.toNat := by
  obtain ⟨coeff, scale, normal⟩ := d
  simp only at whole positive
  subst whole
  simp [ofNat, Int.toNat_of_nonneg positive]

def allDigits (cs : List Char) : Bool := cs.all Char.isDigit

section Printing

def significant (digits : List Char) : List Char :=
  (digits.reverse.dropWhile (· = '0')).reverse

def exponential (digits : List Char) (exponent : Int) : List Char :=
  let mantissa :=
    match significant digits with
    | [] => ['0']
    | [digit] => [digit]
    | digit :: more => digit :: '.' :: more
  mantissa ++ 'e' :: (if exponent < 0 then '-' else '+') :: Nat.toDigits 10 exponent.natAbs

def fixed (digits : List Char) (scale : Nat) : List Char :=
  if scale = 0 then digits
  else if scale < digits.length then
    digits.take (digits.length - scale) ++ '.' :: digits.drop (digits.length - scale)
  else '0' :: '.' :: (List.replicate (scale - digits.length) '0' ++ digits)

def printUnsigned (small large : Int) (digits : List Char) (scale : Nat) : List Char :=
  let exponent : Int := digits.length - 1 - scale
  if exponent ≤ small ∨ large ≤ exponent then exponential digits exponent else fixed digits scale

def print (small large : Int) (d : Decimal) : List Char :=
  let body := printUnsigned small large (Nat.toDigits 10 d.coeff.natAbs) d.scale
  if d.coeff < 0 then '-' :: body else body

theorem all_digits_to_digits (n : Nat) : allDigits (Nat.toDigits 10 n) = true := by
  rw [allDigits, List.all_eq_true]
  exact fun c member => Nat.isDigit_of_mem_toDigits (by decide) (by decide) member

theorem not_all_digits (cs : List Char) (c : Char) (member : c ∈ cs) (other : c.isDigit = false) :
    allDigits cs = false := by
  rw [allDigits, List.all_eq_false]
  exact ⟨c, member, by simp [other]⟩

theorem fixed_mem (digits : List Char) (scale : Nat) (c : Char) (member : c ∈ fixed digits scale) :
    c ∈ digits ∨ c = '0' ∨ c = '.' := by
  unfold fixed at member
  split at member
  · exact Or.inl member
  · split at member
    · simp only [List.mem_append, List.mem_cons] at member
      rcases member with member | rfl | member
      · exact Or.inl (List.mem_of_mem_take member)
      · exact Or.inr (Or.inr rfl)
      · exact Or.inl (List.mem_of_mem_drop member)
    · simp only [List.mem_cons, List.mem_append, List.mem_replicate] at member
      rcases member with rfl | rfl | ⟨_, rfl⟩ | member
      · exact Or.inr (Or.inl rfl)
      · exact Or.inr (Or.inr rfl)
      · exact Or.inr (Or.inl rfl)
      · exact Or.inl member

theorem significant_mem (digits : List Char) (c : Char) (member : c ∈ significant digits) : c ∈ digits := by
  simp only [significant, List.mem_reverse] at member
  exact List.mem_reverse.mp ((List.dropWhile_sublist _).subset member)

theorem exponential_mem (digits : List Char) (exponent : Int) (c : Char) (member : c ∈ exponential digits exponent) :
    c ∈ digits ∨ c ∈ ['0', '.', 'e', '+', '-'] ∨ c.isDigit = true := by
  simp only [exponential, List.mem_append, List.mem_cons] at member
  rcases member with member | rfl | rfl | member
  · split at member
    · simp only [List.mem_singleton] at member
      exact Or.inr (Or.inl (by simp [member]))
    · rename_i digit only
      simp only [List.mem_singleton] at member
      exact Or.inl (significant_mem digits c (by simp [only, member]))
    · rename_i digit more _ shape
      simp only [List.mem_cons] at member
      rcases member with rfl | rfl | member
      · exact Or.inl (significant_mem digits _ (by simp [shape]))
      · exact Or.inr (Or.inl (by simp))
      · exact Or.inl (significant_mem digits c (by simp [shape, member]))
  · exact Or.inr (Or.inl (by simp))
  · exact Or.inr (Or.inl (by split <;> simp))
  · exact Or.inr (Or.inr (Nat.isDigit_of_mem_toDigits (by decide) (by decide) member))

theorem print_mem (small large : Int) (d : Decimal) (c : Char) (member : c ∈ print small large d) :
    c.isDigit = true ∨ c ∈ ['.', 'e', '+', '-'] := by
  have digits : ∀ c ∈ Nat.toDigits 10 d.coeff.natAbs, c.isDigit = true := fun c inside =>
    Nat.isDigit_of_mem_toDigits (by decide) (by decide) inside
  have body : ∀ c ∈ printUnsigned small large (Nat.toDigits 10 d.coeff.natAbs) d.scale,
      c.isDigit = true ∨ c ∈ ['.', 'e', '+', '-'] := by
    intro c member
    simp only [printUnsigned] at member
    split at member
    · rcases exponential_mem _ _ _ member with inside | inside | digit
      · exact .inl (digits c inside)
      · rcases List.mem_cons.mp inside with rfl | mark
        · exact .inl (by decide)
        · exact .inr mark
      · exact .inl digit
    · rcases fixed_mem _ _ _ member with inside | rfl | rfl
      · exact .inl (digits c inside)
      · exact .inl (by decide)
      · exact .inr (by simp)
  simp only [print] at member
  split at member
  · rcases List.mem_cons.mp member with rfl | member
    · exact .inr (by simp)
    · exact body c member
  · exact body c member

def Bare (large : Int) (d : Decimal) : Prop :=
  0 ≤ d.coeff ∧ d.scale = 0 ∧ ((Nat.toDigits 10 d.coeff.natAbs).length : Int) ≤ large

theorem print_bare (small large : Int) (d : Decimal) (negative : small < 0) (bare : Bare large d) :
    print small large d = Nat.toDigits 10 d.coeff.natAbs := by
  obtain ⟨sign, whole, short⟩ := bare
  have few : ¬ d.coeff < 0 := by omega
  have some_digit := Nat.length_toDigits_pos (b := 10) (n := d.coeff.natAbs)
  simp only [print, if_neg few, printUnsigned, whole]
  rw [if_neg (by push_cast; omega)]
  simp [fixed]

-- Either the digits as they are, or a point or an exponent among them.
theorem print_unsigned_cases (small large : Int) (digits : List Char) (scale : Nat) :
    (scale = 0 ∧ (digits.length : Int) ≤ large ∧ printUnsigned small large digits scale = digits) ∨
      'e' ∈ printUnsigned small large digits scale ∨ '.' ∈ printUnsigned small large digits scale := by
  simp only [printUnsigned]
  split
  · exact .inr (.inl (by simp [exponential]))
  · rename_i within
    by_cases whole : scale = 0
    · refine .inl ⟨whole, ?_, by simp [fixed, whole]⟩
      simp only [whole] at within
      push_cast at within
      omega
    · refine .inr (.inr ?_)
      simp only [fixed, if_neg whole]
      split <;> simp

end Printing

section Parsing

def digitValue (c : Char) : Option Nat :=
  if '0' ≤ c ∧ c ≤ '9' then some (c.toNat - '0'.toNat)
  else if 'a' ≤ c ∧ c ≤ 'f' then some (c.toNat - 'a'.toNat + 10)
  else if 'A' ≤ c ∧ c ≤ 'F' then some (c.toNat - 'A'.toNat + 10)
  else none

theorem digit_value_char (digit : Nat) (small : digit < 16) : digitValue (Nat.digitChar digit) = some digit := by
  have each : ∀ d < 16, digitValue (Nat.digitChar d) = some d := by decide
  exact each digit small

def radixValue (radix : Nat) : List Char → Nat → Option Nat
  | [], value => some value
  | c :: rest, value =>
      match digitValue c with
      | some digit => if digit < radix then radixValue radix rest (radix * value + digit) else none
      | none => none

def radixOf (c : Char) : Option Nat :=
  if c = 'x' ∨ c = 'X' then some 16
  else if c = 'o' ∨ c = 'O' then some 8
  else if c = 'b' ∨ c = 'B' then some 2
  else none

def parseExponent : List Char → Option Int
  | '-' :: digits =>
      if digits ≠ [] ∧ allDigits digits then some (-(Nat.ofDigitChars 10 digits 0 : Int)) else none
  | '+' :: digits => if digits ≠ [] ∧ allDigits digits then some (Nat.ofDigitChars 10 digits 0) else none
  | digits => if digits ≠ [] ∧ allDigits digits then some (Nat.ofDigitChars 10 digits 0) else none

def parseMantissa (cs : List Char) : Option (Nat × Nat) :=
  let whole := cs.takeWhile (· ≠ '.')
  let fraction := (cs.dropWhile (· ≠ '.')).tail
  if whole ++ fraction ≠ [] ∧ allDigits (whole ++ fraction) then
    some (Nat.ofDigitChars 10 (whole ++ fraction) 0, fraction.length)
  else none

def shift (value scale : Nat) (exponent : Int) : Decimal :=
  if exponent < 0 then reduce value (scale + exponent.natAbs)
  else reduce (value * 10 ^ exponent.natAbs) scale

def isExponentMark (c : Char) : Bool := c = 'e' ∨ c = 'E'

def parseDecimal (cs : List Char) : Option Decimal :=
  let mantissa := cs.takeWhile fun c => !isExponentMark c
  match cs.dropWhile fun c => !isExponentMark c with
  | [] => (parseMantissa mantissa).map fun (value, scale) => shift value scale 0
  | _ :: exponent =>
      match parseMantissa mantissa, parseExponent exponent with
      | some (value, scale), some e => some (shift value scale e)
      | _, _ => none

def parseUnsigned : List Char → Option Decimal
  | '0' :: mark :: digits =>
      match radixOf mark with
      | some radix => if digits = [] then none else (radixValue radix digits 0).map ofNat
      | none => parseDecimal ('0' :: mark :: digits)
  | cs => parseDecimal cs

-- What a JavaScript pattern takes for white space.
def isSpace (c : Char) : Bool :=
  (9 ≤ c.toNat ∧ c.toNat ≤ 13) ∨ (0x2000 ≤ c.toNat ∧ c.toNat ≤ 0x200a) ∨
    c.toNat ∈ [0x20, 0xa0, 0x1680, 0x2028, 0x2029, 0x202f, 0x205f, 0x3000, 0xfeff]

def trim (cs : List Char) : List Char :=
  ((cs.dropWhile isSpace).reverse.dropWhile isSpace).reverse

def parse (cs : List Char) : Option Decimal :=
  match trim cs with
  | '-' :: rest => (parseUnsigned rest).map neg
  | '+' :: rest => parseUnsigned rest
  | rest => parseUnsigned rest

-- The characters from '0' to 'z': no white space and no sign is among them.
def Plain (c : Char) : Prop := 48 ≤ c.toNat ∧ c.toNat ≤ 122

theorem plain_not_space (c : Char) (plain : Plain c) : isSpace c = false := by
  obtain ⟨low, high⟩ := plain
  simp only [isSpace, List.mem_cons, List.not_mem_nil, or_false, decide_eq_false_iff_not]
  omega

theorem plain_between (c low high : Char) (least : 48 ≤ low.toNat) (most : high.toNat ≤ 122)
    (range : low ≤ c ∧ c ≤ high) : Plain c := by
  have above : low.toNat ≤ c.toNat := range.1
  have below : c.toNat ≤ high.toNat := range.2
  exact ⟨by omega, by omega⟩

theorem digit_plain (c : Char) (digit : c.isDigit = true) : Plain c := by
  simp only [Char.isDigit, Bool.and_eq_true, decide_eq_true_eq] at digit
  exact plain_between c '0' '9' (by decide) (by decide) digit

theorem digit_value_plain (c : Char) (value : Nat) (known : digitValue c = some value) : Plain c := by
  unfold digitValue at known
  split at known
  · rename_i range
    exact plain_between c '0' '9' (by decide) (by decide) range
  · split at known
    · rename_i range
      exact plain_between c 'a' 'f' (by decide) (by decide) range
    · split at known
      · rename_i range
        exact plain_between c 'A' 'F' (by decide) (by decide) range
      · exact absurd known (by simp)

theorem radix_value_plain (radix : Nat) (cs : List Char) (start value : Nat)
    (known : radixValue radix cs start = some value) : ∀ c ∈ cs, Plain c := by
  induction cs generalizing start with
  | nil => simp
  | cons c rest ih =>
      unfold radixValue at known
      cases digit : digitValue c with
      | none => simp [digit] at known
      | some d =>
          simp only [digit] at known
          split at known
          · intro other member
            rcases List.mem_cons.mp member with rfl | member
            · exact digit_value_plain _ d digit
            · exact ih _ known other member
          · exact absurd known (by simp)

theorem digit_value_small (c : Char) (digit : Nat) (known : digitValue c = some digit) : digit < 16 := by
  unfold digitValue at known
  split at known
  · rename_i range
    have top : c.toNat ≤ '9'.toNat := range.2
    have value : c.toNat - '0'.toNat = digit := by simpa using known
    simp only [Char.reduceToNat] at top value
    omega
  · split at known
    · rename_i range
      have top : c.toNat ≤ 'f'.toNat := range.2
      have value : c.toNat - 'a'.toNat + 10 = digit := by simpa using known
      simp only [Char.reduceToNat] at top value
      omega
    · split at known
      · rename_i range
        have top : c.toNat ≤ 'F'.toNat := range.2
        have value : c.toNat - 'A'.toNat + 10 = digit := by simpa using known
        simp only [Char.reduceToNat] at top value
        omega
      · exact absurd known (by simp)

theorem radix_value_append (radix : Nat) (front back : List Char) (start : Nat) :
    radixValue radix (front ++ back) start =
      (radixValue radix front start).bind fun value => radixValue radix back value := by
  induction front generalizing start with
  | nil => rfl
  | cons c rest ih =>
      rw [List.cons_append, radixValue, radixValue]
      cases digitValue c with
      | none => rfl
      | some digit =>
          by_cases fits : digit < radix
          · simp only [fits, if_true, ih]
          · simp only [fits, if_false, Option.bind_none]

theorem radix_value_zeros (count : Nat) (cs : List Char) :
    radixValue 16 (List.replicate count '0' ++ cs) 0 = radixValue 16 cs 0 := by
  induction count with
  | zero => rfl
  | succ count ih =>
      rw [List.replicate_succ, List.cons_append, radixValue]
      exact ih

theorem radix_value_to_digits (n : Nat) : radixValue 16 (Nat.toDigits 16 n) 0 = some n := by
  induction n using Nat.strongRecOn with
  | ind n ih =>
      by_cases single : n < 16
      · rw [Nat.toDigits_of_lt_base single, radixValue, digit_value_char n single]
        simp [single, radixValue]
      · have last : n % 16 < 16 := Nat.mod_lt n (by decide)
        rw [Nat.toDigits_of_base_le (by decide) (by omega), radix_value_append, ih (n / 16) (by omega),
          Option.bind_some, radixValue, digit_value_char _ last]
        simp only [last, if_true, radixValue, Nat.div_add_mod]

theorem drop_while_none {α : Type} (p : α → Bool) (xs : List α) (free : ∀ x ∈ xs, p x = false) :
    xs.dropWhile p = xs := by
  cases xs with
  | nil => rfl
  | cons x rest => rw [List.dropWhile_cons, if_neg (by simp [free x (by simp)])]

theorem trim_eq (cs : List Char) (free : ∀ c ∈ cs, isSpace c = false) : trim cs = cs := by
  rw [trim, drop_while_none _ cs free, drop_while_none _ cs.reverse (by simpa using free), List.reverse_reverse]

theorem take_while_all {α : Type} (p : α → Bool) (xs : List α) (every : ∀ x ∈ xs, p x = true) :
    xs.takeWhile p = xs ∧ xs.dropWhile p = [] := by
  induction xs with
  | nil => exact ⟨rfl, rfl⟩
  | cons x rest ih =>
      obtain ⟨taken, dropped⟩ := ih fun y member => every y (by simp [member])
      simp [every x (by simp), taken, dropped]

theorem all_digits_mem (cs : List Char) (digits : allDigits cs = true) (c : Char) (member : c ∈ cs) :
    c.isDigit = true := by
  rw [allDigits, List.all_eq_true] at digits
  exact digits c member

theorem digit_ne (c other : Char) (digit : c.isDigit = true) (mark : other.isDigit = false) : c ≠ other := by
  rintro rfl
  exact absurd (digit.symm.trans mark) (by simp)

theorem radix_of_digit (c : Char) (digit : c.isDigit = true) : radixOf c = none := by
  unfold radixOf
  rw [if_neg, if_neg, if_neg] <;>
    exact fun mark => by rcases mark with rfl | rfl <;> exact absurd digit (by decide)

theorem parse_mantissa_digits (cs : List Char) (digits : allDigits cs = true) (some_digit : cs ≠ []) :
    parseMantissa cs = some (Nat.ofDigitChars 10 cs 0, 0) := by
  obtain ⟨taken, dropped⟩ := take_while_all (fun c => decide (c ≠ '.')) cs fun c member => by
    simpa using digit_ne c '.' (all_digits_mem cs digits c member) (by decide)
  simp only [parseMantissa, taken, dropped]
  simp [digits, some_digit]

theorem parse_decimal_digits (cs : List Char) (digits : allDigits cs = true) (some_digit : cs ≠ []) :
    parseDecimal cs = some (ofNat (Nat.ofDigitChars 10 cs 0)) := by
  obtain ⟨taken, dropped⟩ := take_while_all (fun c => !isExponentMark c) cs fun c member => by
    have digit := all_digits_mem cs digits c member
    simp [isExponentMark, digit_ne c 'e' digit (by decide), digit_ne c 'E' digit (by decide)]
  simp only [parseDecimal, taken, dropped]
  simp [parse_mantissa_digits cs digits some_digit, shift, reduce, ofNat]

theorem parse_unsigned_digits (cs : List Char) (digits : allDigits cs = true) (some_digit : cs ≠ []) :
    parseUnsigned cs = some (ofNat (Nat.ofDigitChars 10 cs 0)) := by
  unfold parseUnsigned
  split
  · rename_i mark rest
    have digit := all_digits_mem _ digits mark (by simp)
    simp only [radix_of_digit mark digit]
    exact parse_decimal_digits _ digits (by simp)
  · exact parse_decimal_digits cs digits some_digit

theorem parse_plain (cs : List Char) (plain : ∀ c ∈ cs, Plain c) : parse cs = parseUnsigned cs := by
  rw [parse, trim_eq cs fun c member => plain_not_space c (plain c member)]
  split
  · exact absurd (plain '-' (by simp)).1 (by decide)
  · exact absurd (plain '+' (by simp)).1 (by decide)
  · rfl

theorem parse_digits (cs : List Char) (digits : allDigits cs = true) (some_digit : cs ≠ []) :
    parse cs = some (ofNat (Nat.ofDigitChars 10 cs 0)) := by
  rw [parse_plain cs fun c member => digit_plain c (all_digits_mem cs digits c member)]
  exact parse_unsigned_digits cs digits some_digit

theorem parse_to_digits (n : Nat) : parse (Nat.toDigits 10 n) = some (ofNat n) := by
  rw [parse_digits _ (all_digits_to_digits n) Nat.toDigits_ne_nil, Nat.ofDigitChars_ten_toDigits]

theorem parse_minus (cs : List Char) (digits : allDigits cs = true) (some_digit : cs ≠ []) :
    parse ('-' :: cs) = some (ofInt (-(Nat.ofDigitChars 10 cs 0 : Nat))) := by
  have blank : ∀ c ∈ '-' :: cs, isSpace c = false := by
    rw [List.forall_mem_cons]
    exact ⟨by decide, fun c member => plain_not_space c (digit_plain c (all_digits_mem cs digits c member))⟩
  rw [parse, trim_eq _ blank]
  simp only [parse_unsigned_digits cs digits some_digit, Option.map_some]
  simp [neg, ofNat, ofInt, reduce]

theorem parse_to_string (z : Int) : parse (toString z).toList = some (ofInt z) := by
  cases z with
  | ofNat n =>
      have printed : (toString (Int.ofNat n)).toList = Nat.toDigits 10 n := by
        simp [toString, Int.repr]
      rw [printed]
      exact parse_to_digits n
  | negSucc n =>
      have printed : (toString (Int.negSucc n)).toList = '-' :: Nat.toDigits 10 (n + 1) := by
        simp [toString, Int.repr, Nat.repr]
      rw [printed, parse_minus _ (all_digits_to_digits _) Nat.toDigits_ne_nil, Nat.ofDigitChars_ten_toDigits]
      rfl

theorem parse_hex (mark : Char) (cs : List Char) (value : Nat) (hex : mark = 'x' ∨ mark = 'X')
    (known : radixValue 16 cs 0 = some value) (some_digit : cs ≠ []) :
    parse ('0' :: mark :: cs) = some (ofNat value) := by
  have marked : Plain mark := by rcases hex with rfl | rfl <;> exact ⟨by decide, by decide⟩
  have plain : ∀ c ∈ '0' :: mark :: cs, Plain c := by
    simp only [List.forall_mem_cons]
    exact ⟨⟨by decide, by decide⟩, marked, radix_value_plain 16 cs 0 value known⟩
  rw [parse_plain _ plain]
  simp [parseUnsigned, radixOf, hex, some_digit, known]

section Unspaced

-- What parses has no white space in it, but for what `trim` takes away.
def Unspaced (cs : List Char) : Prop := ∀ c ∈ cs, isSpace c = false

theorem digits_unspaced (cs : List Char) (digits : allDigits cs = true) : Unspaced cs := fun c member =>
  plain_not_space c (digit_plain c (all_digits_mem cs digits c member))

theorem unspaced_append (left right : List Char) : Unspaced (left ++ right) ↔ Unspaced left ∧ Unspaced right :=
  List.forall_mem_append

theorem unspaced_cons (c : Char) (rest : List Char) : Unspaced (c :: rest) ↔ isSpace c = false ∧ Unspaced rest :=
  List.forall_mem_cons

theorem drop_while_cases {α : Type} (p : α → Bool) (xs : List α) :
    xs.dropWhile p = [] ∨ ∃ head tail, xs.dropWhile p = head :: tail ∧ p head = false := by
  cases dropped : xs.dropWhile p with
  | nil => exact .inl rfl
  | cons head tail =>
      have stops := List.head_dropWhile_not p (l := xs) (by simp [dropped])
      simp only [dropped, List.head_cons] at stops
      exact .inr ⟨head, tail, rfl, by simpa using stops⟩

theorem parse_mantissa_unspaced (cs : List Char) (value : Nat × Nat) (known : parseMantissa cs = some value) :
    Unspaced cs := by
  simp only [parseMantissa] at known
  split at known
  · rename_i shape
    have parts := (unspaced_append _ _).mp (digits_unspaced _ shape.2)
    rw [← List.takeWhile_append_dropWhile (p := fun c => decide (c ≠ '.')) (l := cs), unspaced_append]
    refine ⟨parts.1, ?_⟩
    rcases drop_while_cases (fun c => decide (c ≠ '.')) cs with empty | ⟨head, tail, dropped, point⟩
    · rw [empty]
      simp [Unspaced]
    · have fraction := parts.2
      obtain rfl : head = '.' := by simpa using point
      rw [dropped, List.tail_cons] at fraction
      rw [dropped, unspaced_cons]
      exact ⟨by decide, fraction⟩
  · exact absurd known (by simp)

theorem parse_exponent_unspaced (cs : List Char) (value : Int) (known : parseExponent cs = some value) :
    Unspaced cs := by
  unfold parseExponent at known
  split at known
  · split at known
    · rename_i shape
      exact (unspaced_cons _ _).mpr ⟨by decide, digits_unspaced _ shape.2⟩
    · exact absurd known (by simp)
  · split at known
    · rename_i shape
      exact (unspaced_cons _ _).mpr ⟨by decide, digits_unspaced _ shape.2⟩
    · exact absurd known (by simp)
  · split at known
    · rename_i shape
      exact digits_unspaced _ shape.2
    · exact absurd known (by simp)

theorem parse_decimal_unspaced (cs : List Char) (d : Decimal) (known : parseDecimal cs = some d) : Unspaced cs := by
  rw [← List.takeWhile_append_dropWhile (p := fun c => !isExponentMark c) (l := cs), unspaced_append]
  rcases drop_while_cases (fun c => !isExponentMark c) cs with empty | ⟨head, exponent, dropped, mark⟩
  · simp only [parseDecimal, empty, Option.map_eq_some_iff] at known
    obtain ⟨value, mantissa, _⟩ := known
    rw [empty]
    exact ⟨parse_mantissa_unspaced _ value mantissa, by simp [Unspaced]⟩
  · simp only [parseDecimal, dropped] at known
    split at known
    · rename_i value scale e mantissa exponential
      have unspaced : isSpace head = false := by
        have letter : head = 'e' ∨ head = 'E' := by
          rw [Bool.not_eq_false'] at mark
          simpa only [isExponentMark, decide_eq_true_eq] using mark
        rcases letter with rfl | rfl <;> decide
      rw [dropped, unspaced_cons]
      exact ⟨parse_mantissa_unspaced _ _ mantissa, unspaced, parse_exponent_unspaced _ _ exponential⟩
    · exact absurd known (by simp)

theorem radix_of_plain (c : Char) (radix : Nat) (known : radixOf c = some radix) : isSpace c = false := by
  unfold radixOf at known
  split at known
  · rename_i letter
    rcases letter with rfl | rfl <;> decide
  · split at known
    · rename_i letter
      rcases letter with rfl | rfl <;> decide
    · split at known
      · rename_i letter
        rcases letter with rfl | rfl <;> decide
      · exact absurd known (by simp)

theorem parse_unsigned_unspaced (cs : List Char) (d : Decimal) (known : parseUnsigned cs = some d) :
    Unspaced cs := by
  unfold parseUnsigned at known
  split at known
  · rename_i mark digits
    cases radix : radixOf mark with
    | none =>
        simp only [radix] at known
        exact parse_decimal_unspaced _ d known
    | some base =>
        simp only [radix] at known
        split at known
        · exact absurd known (by simp)
        · obtain ⟨value, valued, _⟩ := Option.map_eq_some_iff.mp known
          have plain := radix_value_plain base digits 0 value valued
          simp only [unspaced_cons]
          exact ⟨by decide, radix_of_plain mark base radix, fun c member => plain_not_space c (plain c member)⟩
  · exact parse_decimal_unspaced cs d known

theorem trimmed_unspaced (cs : List Char) (d : Decimal) (known : parse cs = some d) : Unspaced (trim cs) := by
  unfold parse at known
  split at known
  · rename_i rest shape
    obtain ⟨value, valued, _⟩ := Option.map_eq_some_iff.mp known
    rw [shape, unspaced_cons]
    exact ⟨by decide, parse_unsigned_unspaced rest value valued⟩
  · rename_i rest shape
    rw [shape, unspaced_cons]
    exact ⟨by decide, parse_unsigned_unspaced rest d known⟩
  · exact parse_unsigned_unspaced _ d known

theorem filter_drop_while {α : Type} (p : α → Bool) (xs : List α) :
    (xs.dropWhile p).filter (fun x => !p x) = xs.filter fun x => !p x := by
  induction xs with
  | nil => rfl
  | cons x rest ih =>
      cases holds : p x with
      | true => simp [holds, ih]
      | false => simp [holds]

theorem filter_trim (cs : List Char) :
    (trim cs).filter (fun c => !isSpace c) = cs.filter fun c => !isSpace c := by
  rw [trim, List.filter_reverse, filter_drop_while, List.filter_reverse, filter_drop_while, List.reverse_reverse]

-- Taking every white space away is then no more than trimming.
theorem unspaced_eq_trim (cs : List Char) (d : Decimal) (known : parse cs = some d) :
    (cs.filter fun c => !isSpace c) = trim cs := by
  rw [← filter_trim, List.filter_eq_self]
  intro c member
  simp [trimmed_unspaced cs d known c member]

end Unspaced

end Parsing

end Decimal
