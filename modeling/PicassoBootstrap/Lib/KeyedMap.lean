import Mathlib.Data.Finset.Card
import Mathlib.Data.List.Nodup
import Mathlib.Algebra.Order.BigOperators.Group.List
import Mathlib.Algebra.Order.Group.Nat
import Mathlib.Tactic.Ring

set_option autoImplicit false

-- A finite map in which a later value for a key takes the place of the earlier one.
structure KeyedMap (κ ν : Type) where
  entries : List (κ × ν)
  unique : (entries.map Prod.fst).Nodup

namespace KeyedMap

variable {κ ν : Type}

def empty : KeyedMap κ ν := ⟨[], List.nodup_nil⟩

def keys (m : KeyedMap κ ν) : List κ := m.entries.map Prod.fst

def total (m : KeyedMap κ Nat) : Nat := (m.entries.map Prod.snd).sum

theorem total_constant (m : KeyedMap κ Nat) (value : Nat) (constant : ∀ entry ∈ m.entries, entry.2 = value) :
    m.total = m.keys.length * value := by
  have values : m.entries.map Prod.snd = List.replicate m.entries.length value := by
    rw [List.eq_replicate_iff]
    refine ⟨by simp, ?_⟩
    intro other member
    obtain ⟨entry, present, rfl⟩ := List.mem_map.mp member
    exact constant entry present
  simp [total, values, keys]

theorem filter_sum_le (entries : List (κ × Nat)) (p : κ × Nat → Bool) :
    ((entries.filter p).map Prod.snd).sum ≤ (entries.map Prod.snd).sum :=
  (List.filter_sublist.map Prod.snd).sum_le_sum fun _ _ => Nat.zero_le _

theorem keys_filter (entries : List (κ × ν)) (p : κ → Bool) :
    (entries.filter fun entry => p entry.1).map Prod.fst = (entries.map Prod.fst).filter p := by
  rw [List.filter_map]
  rfl

section Put

variable [DecidableEq κ]

def without (m : KeyedMap κ ν) (key : κ) : List (κ × ν) := m.entries.filter fun entry => entry.1 ≠ key

theorem without_keys (m : KeyedMap κ ν) (key : κ) :
    (m.without key).map Prod.fst = m.keys.filter fun other => other ≠ key := by
  exact keys_filter m.entries fun other => other ≠ key

def put (m : KeyedMap κ ν) (key : κ) (value : ν) : KeyedMap κ ν where
  entries := (key, value) :: m.without key
  unique := by
    rw [List.map_cons, List.nodup_cons, without_keys]
    exact ⟨by simp, m.unique.filter _⟩

def putAll (m : KeyedMap κ ν) (entries : List (κ × ν)) : KeyedMap κ ν :=
  entries.foldl (fun m entry => m.put entry.1 entry.2) m

theorem mem_keys_put (m : KeyedMap κ ν) (key other : κ) (value : ν) :
    other ∈ (m.put key value).keys ↔ other = key ∨ other ∈ m.keys := by
  simp only [keys, put, List.map_cons, List.mem_cons, without_keys, List.mem_filter]
  by_cases same : other = key <;> simp [same]

theorem put_all_cons (m : KeyedMap κ ν) (entry : κ × ν) (rest : List (κ × ν)) :
    m.putAll (entry :: rest) = (m.put entry.1 entry.2).putAll rest := rfl

theorem mem_keys_put_all (m : KeyedMap κ ν) (entries : List (κ × ν)) (key : κ) :
    key ∈ (m.putAll entries).keys ↔ key ∈ entries.map Prod.fst ∨ key ∈ m.keys := by
  induction entries generalizing m with
  | nil => simp [putAll]
  | cons entry rest ih =>
      rw [put_all_cons, ih, mem_keys_put, List.map_cons, List.mem_cons]
      tauto

theorem mem_put_all (m : KeyedMap κ ν) (entries : List (κ × ν)) (entry : κ × ν)
    (member : entry ∈ (m.putAll entries).entries) : entry ∈ entries ∨ entry ∈ m.entries := by
  induction entries generalizing m with
  | nil => exact .inr member
  | cons first rest ih =>
      rw [put_all_cons] at member
      rcases ih _ member with later | earlier
      · exact .inl (List.mem_cons_of_mem _ later)
      · rcases List.mem_cons.mp earlier with same | kept
        · exact .inl (by simp [same])
        · exact .inr (List.mem_of_mem_filter kept)

theorem total_put_le (m : KeyedMap κ Nat) (key : κ) (value : Nat) : (m.put key value).total ≤ m.total + value := by
  have less := filter_sum_le m.entries fun entry => entry.1 ≠ key
  simp only [total, put, List.map_cons, List.sum_cons, without]
  omega

theorem total_put_all_le (m : KeyedMap κ Nat) (entries : List (κ × Nat)) :
    (m.putAll entries).total ≤ m.total + (entries.map Prod.snd).sum := by
  induction entries generalizing m with
  | nil => simp [putAll]
  | cons entry rest ih =>
      have tail := ih (m.put entry.1 entry.2)
      have head := total_put_le m entry.1 entry.2
      rw [put_all_cons, List.map_cons, List.sum_cons]
      omega

theorem total_put_all_constant (keys : List κ) (value : Nat) :
    ((empty : KeyedMap κ Nat).putAll (keys.map fun key => (key, value))).total = keys.toFinset.card * value := by
  set m := (empty : KeyedMap κ Nat).putAll (keys.map fun key => (key, value)) with filled
  have constant : ∀ entry ∈ m.entries, entry.2 = value := by
    intro entry member
    rcases mem_put_all empty _ entry member with put | old
    · obtain ⟨key, _, rfl⟩ := List.mem_map.mp put
      rfl
    · exact absurd old (by simp [empty])
  have same : m.keys.toFinset = keys.toFinset := by
    ext key
    rw [List.mem_toFinset, List.mem_toFinset, filled, mem_keys_put_all]
    simp [empty, KeyedMap.keys]
  have size : m.keys.toFinset.card = m.keys.length := List.toFinset_card_of_nodup m.unique
  rw [total_constant m value constant, ← same, size]

theorem total_all_iff (keys : List κ) (value : Nat) :
    ((empty : KeyedMap κ Nat).putAll (keys.map fun key => (key, value))).total = keys.length * value ↔
      value = 0 ∨ keys.Nodup := by
  rw [total_put_all_constant]
  constructor
  · intro same
    by_cases zero : value = 0
    · exact .inl zero
    · have counts := Nat.eq_of_mul_eq_mul_right (Nat.pos_of_ne_zero zero) same
      exact .inr (Multiset.toFinset_card_eq_card_iff_nodup.mp counts)
  · rintro (rfl | distinct)
    · simp
    · rw [List.toFinset_card_of_nodup distinct]

end Put

section Get

variable [DecidableEq κ]

def get (m : KeyedMap κ ν) (key : κ) : Option ν :=
  m.entries.findSome? fun entry => if entry.1 = key then some entry.2 else none

def Same (m other : KeyedMap κ ν) : Prop := ∀ key, m.get key = other.get key

theorem get_eq_none (m : KeyedMap κ ν) (key : κ) : m.get key = none ↔ key ∉ m.keys := by
  rw [get, List.findSome?_eq_none_iff, keys, List.mem_map]
  constructor
  · rintro absent ⟨entry, member, rfl⟩
    simpa using absent entry member
  · intro absent entry member
    exact if_neg fun same => absent ⟨entry, member, same⟩

theorem mem_of_get (m : KeyedMap κ ν) (key : κ) (value : ν) (found : m.get key = some value) :
    (key, value) ∈ m.entries := by
  obtain ⟨entry, member, chosen⟩ := List.exists_of_findSome?_eq_some found
  rw [Option.ite_none_right_eq_some] at chosen
  obtain ⟨rfl, same⟩ := chosen
  rw [← Option.some.inj same]
  exact member

theorem get_eq_some (m : KeyedMap κ ν) (key : κ) (value : ν) : m.get key = some value ↔ (key, value) ∈ m.entries := by
  constructor
  · exact mem_of_get m key value
  · intro member
    cases found : m.get key with
    | none => exact absurd (List.mem_map_of_mem member) ((get_eq_none m key).mp found)
    | some other =>
        have equal := List.inj_on_of_nodup_map m.unique (mem_of_get m key other found) member rfl
        rw [(Prod.mk.inj equal).2]

theorem mem_keys_iff (m : KeyedMap κ ν) (key : κ) : key ∈ m.keys ↔ ∃ value, m.get key = some value := by
  rw [← Option.isSome_iff_exists, ← Option.ne_none_iff_isSome, ne_eq, get_eq_none, not_not]

theorem get_empty (key : κ) : (empty : KeyedMap κ ν).get key = none := rfl

def single (key : κ) (value : ν) : KeyedMap κ ν := ⟨[(key, value)], List.nodup_singleton key⟩

theorem get_single (key other : κ) (value : ν) :
    (single key value).get other = if key = other then some value else none := by
  by_cases same : key = other
  · simp [get, single, same]
  · simp [get, single, same]

-- The entries of `other` written over those of `m`: a key of `m` keeps its
-- place, a new key goes to the end.
def merge (m other : KeyedMap κ ν) : KeyedMap κ ν where
  entries := (m.entries.map fun entry => (entry.1, (other.get entry.1).getD entry.2)) ++
    other.entries.filter fun entry => entry.1 ∉ m.keys
  unique := by
    have fresh : (other.entries.filter fun entry => entry.1 ∉ m.keys).map Prod.fst =
        other.keys.filter fun key => key ∉ m.keys := keys_filter other.entries fun key => key ∉ m.keys
    have kept : (m.entries.map fun entry => (entry.1, (other.get entry.1).getD entry.2)).map Prod.fst = m.keys := by
      rw [List.map_map]
      rfl
    rw [List.map_append, fresh, kept, List.nodup_append']
    refine ⟨m.unique, other.unique.filter _, ?_⟩
    intro key old new
    simp [old] at new

theorem mem_merge (m other : KeyedMap κ ν) (key : κ) (value : ν) :
    (key, value) ∈ (m.merge other).entries ↔
      other.get key = some value ∨ other.get key = none ∧ m.get key = some value := by
  simp only [merge, List.mem_append, List.mem_map, List.mem_filter, decide_eq_true_eq]
  constructor
  · rintro (⟨⟨first, old⟩, member, same⟩ | ⟨member, _⟩)
    · obtain ⟨rfl, rfl⟩ := Prod.mk.inj same
      cases written : other.get first with
      | none => exact .inr ⟨rfl, (get_eq_some m _ _).mpr member⟩
      | some new => exact .inl rfl
    · exact .inl ((get_eq_some other key value).mpr member)
  · rintro (written | ⟨untouched, old⟩)
    · by_cases known : key ∈ m.keys
      · obtain ⟨old, found⟩ := (mem_keys_iff m key).mp known
        exact .inl ⟨(key, old), (get_eq_some m key old).mp found, by simp [written]⟩
      · exact .inr ⟨(get_eq_some other key value).mp written, known⟩
    · exact .inl ⟨(key, value), (get_eq_some m key value).mp old, by simp [untouched]⟩

theorem get_merge (m other : KeyedMap κ ν) (key : κ) : (m.merge other).get key = (other.get key).or (m.get key) := by
  ext value
  rw [get_eq_some, mem_merge]
  cases other.get key with
  | none => simp
  | some new => simp

def mergeAll (maps : List (KeyedMap κ ν)) : KeyedMap κ ν := maps.foldl merge empty

theorem get_foldl_merge (maps : List (KeyedMap κ ν)) (m : KeyedMap κ ν) (key : κ) :
    (maps.foldl merge m).get key = (maps.reverse.findSome? fun map => map.get key).or (m.get key) := by
  induction maps generalizing m with
  | nil => rfl
  | cons first rest ih =>
      rw [List.foldl_cons, ih, get_merge, List.reverse_cons, List.findSome?_append, Option.or_assoc]
      simp

theorem get_merge_all (maps : List (KeyedMap κ ν)) (key : κ) :
    (mergeAll maps).get key = maps.reverse.findSome? fun map => map.get key := by
  rw [mergeAll, get_foldl_merge, get_empty, Option.or_none]

theorem find_some_filter (maps : List (KeyedMap κ ν)) (p : KeyedMap κ ν → Bool) (key : κ)
    (silent : ∀ map ∈ maps, p map = false → map.get key = none) :
    ((maps.filter p).findSome? fun map => map.get key) = maps.findSome? fun map => map.get key := by
  induction maps with
  | nil => rfl
  | cons first rest ih =>
      have tail := ih fun map member => silent map (List.mem_cons_of_mem _ member)
      by_cases kept : p first = true
      · rw [List.filter_cons_of_pos kept, List.findSome?_cons, List.findSome?_cons, tail]
      · rw [List.filter_cons_of_neg kept, List.findSome?_cons, silent first (by simp) (by simpa using kept), tail]

theorem merge_all_filter (maps : List (KeyedMap κ ν)) (p : KeyedMap κ ν → Bool)
    (dropped : ∀ map ∈ maps, p map = false → map.keys = []) : Same (mergeAll (maps.filter p)) (mergeAll maps) := by
  intro key
  rw [get_merge_all, get_merge_all, ← List.filter_reverse]
  apply find_some_filter
  intro map member out
  rw [get_eq_none, dropped map (List.mem_reverse.mp member) out]
  exact List.not_mem_nil

theorem get_merge_all_iff (maps : List (KeyedMap κ ν)) (key : κ) (value : ν) :
    (mergeAll maps).get key = some value ↔ ∃ earlier last later, maps = earlier ++ last :: later ∧
      last.get key = some value ∧ ∀ map ∈ later, map.get key = none := by
  rw [get_merge_all, List.findSome?_eq_some_iff]
  constructor
  · rintro ⟨later, last, earlier, shape, found, absent⟩
    refine ⟨earlier.reverse, last, later.reverse, ?_, found, ?_⟩
    · rw [← List.reverse_reverse maps, shape]
      simp
    · intro map member
      exact absent map (List.mem_reverse.mp member)
  · rintro ⟨earlier, last, later, rfl, found, absent⟩
    refine ⟨later.reverse, last, earlier.reverse, by simp, found, ?_⟩
    intro map member
    exact absent map (List.mem_reverse.mp member)

def Agree (maps : List (KeyedMap κ ν)) : Prop :=
  ∀ a ∈ maps, ∀ b ∈ maps, ∀ key x y, a.get key = some x → b.get key = some y → x = y

theorem agree_iff (maps : List (KeyedMap κ ν)) : Agree maps ↔
    ∀ a ∈ maps, ∀ b ∈ maps, ∀ entry ∈ a.entries, ∀ other ∈ b.entries, entry.1 = other.1 → entry.2 = other.2 := by
  constructor
  · intro agree a first b second entry inA other inB same
    exact agree a first b second entry.1 entry.2 other.2 ((get_eq_some _ _ _).mpr inA)
      ((get_eq_some _ _ _).mpr (by rw [same]; exact inB))
  · intro agree a first b second key x y atA atB
    exact agree a first b second (key, x) ((get_eq_some _ _ _).mp atA) (key, y) ((get_eq_some _ _ _).mp atB) rfl

instance [DecidableEq ν] (maps : List (KeyedMap κ ν)) : Decidable (Agree maps) := decidable_of_iff' _ (agree_iff maps)

theorem get_merge_all_agreeing (maps : List (KeyedMap κ ν)) (agree : Agree maps) (key : κ) (value : ν) :
    (mergeAll maps).get key = some value ↔ ∃ map ∈ maps, map.get key = some value := by
  rw [get_merge_all]
  constructor
  · intro found
    obtain ⟨map, member, holds⟩ := List.exists_of_findSome?_eq_some found
    exact ⟨map, List.mem_reverse.mp member, holds⟩
  · rintro ⟨map, member, holds⟩
    cases found : maps.reverse.findSome? fun map => map.get key with
    | none =>
        have absent := List.findSome?_eq_none_iff.mp found map (List.mem_reverse.mpr member)
        exact absurd (absent.symm.trans holds) (by simp)
    | some other =>
        obtain ⟨writer, present, written⟩ := List.exists_of_findSome?_eq_some found
        rw [agree writer (List.mem_reverse.mp present) map member key other value written holds]

theorem agree_perm (maps shuffled : List (KeyedMap κ ν)) (agree : Agree maps) (same : shuffled.Perm maps) :
    Agree shuffled :=
  fun a first b second => agree a (same.mem_iff.mp first) b (same.mem_iff.mp second)

theorem merge_all_perm (maps shuffled : List (KeyedMap κ ν)) (agree : Agree maps) (same : shuffled.Perm maps) :
    Same (mergeAll shuffled) (mergeAll maps) := by
  intro key
  ext value
  rw [get_merge_all_agreeing maps agree, get_merge_all_agreeing shuffled (agree_perm maps shuffled agree same)]
  simp only [same.mem_iff]

end Get

end KeyedMap
