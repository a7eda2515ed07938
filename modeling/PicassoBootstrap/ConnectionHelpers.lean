import PicassoBootstrap.Lib.KeyedMap

set_option autoImplicit false

namespace PicassoBootstrap

variable {δ ρ : Type}

-- A definition module of a pallet. `rpc` may be missing.
structure DefinitionModule (δ ρ : Type) where
  types : KeyedMap String δ
  rpc : Option (KeyedMap String ρ)

-- The modules under their names, in the order of Object.keys.
abbrev Definitions (δ ρ : Type) := KeyedMap String (DefinitionModule δ ρ)

def hasRPC (pallet : DefinitionModule δ ρ) : Bool :=
  match pallet.rpc with
  | none => false
  | some rpc => 0 < rpc.keys.length

def createRPC (definitions : Definitions δ ρ) : KeyedMap String (Option (KeyedMap String ρ)) :=
  (definitions.entries.filter fun (_, pallet) => hasRPC pallet).foldl
    (fun accumulator (key, pallet) => accumulator.merge (KeyedMap.single key pallet.rpc)) KeyedMap.empty

def createTypes (definitions : Definitions δ ρ) : KeyedMap String δ :=
  (definitions.entries.filter fun (_, pallet) => 0 < pallet.types.keys.length).foldl
    (fun accumulator (_, pallet) => accumulator.merge pallet.types) KeyedMap.empty

namespace Definitions

def typeMaps (definitions : Definitions δ ρ) : List (KeyedMap String δ) :=
  definitions.entries.map fun (_, pallet) => pallet.types

def rpcMaps (definitions : Definitions δ ρ) : List (KeyedMap String (Option (KeyedMap String ρ))) :=
  (definitions.entries.filter fun (_, pallet) => hasRPC pallet).map fun (key, pallet) => KeyedMap.single key pallet.rpc

end Definitions

-- Leaving out the modules without types changes nothing.
theorem create_types_same (definitions : Definitions δ ρ) :
    KeyedMap.Same (createTypes definitions) (KeyedMap.mergeAll definitions.typeMaps) := by
  have filtered : createTypes definitions =
      KeyedMap.mergeAll (definitions.typeMaps.filter fun types => 0 < types.keys.length) := by
    rw [createTypes, KeyedMap.mergeAll, Definitions.typeMaps, List.filter_map, List.foldl_map]
    rfl
  rw [filtered]
  apply KeyedMap.merge_all_filter
  intro types _ dropped
  simpa using dropped

theorem create_rpc_merges (definitions : Definitions δ ρ) :
    createRPC definitions = KeyedMap.mergeAll definitions.rpcMaps := by
  rw [createRPC, KeyedMap.mergeAll, Definitions.rpcMaps, List.foldl_map]

theorem create_types_iff (definitions : Definitions δ ρ) (name : String) (definition : δ) :
    (createTypes definitions).get name = some definition ↔ ∃ earlier last later,
      definitions.entries = earlier ++ last :: later ∧ last.2.types.get name = some definition ∧
        ∀ entry ∈ later, entry.2.types.get name = none := by
  rw [create_types_same, KeyedMap.get_merge_all_iff, Definitions.typeMaps]
  constructor
  · rintro ⟨_, _, _, shape, found, absent⟩
    obtain ⟨earlier, others, split, rfl, tail⟩ := List.map_eq_append_iff.mp shape
    obtain ⟨last, later, rfl, rfl, rfl⟩ := List.map_eq_cons_iff.mp tail
    exact ⟨earlier, last, later, split, found, fun entry member => absent _ (List.mem_map_of_mem member)⟩
  · rintro ⟨earlier, last, later, split, found, absent⟩
    refine ⟨_, _, _, by rw [split, List.map_append, List.map_cons], found, ?_⟩
    intro types member
    obtain ⟨entry, present, rfl⟩ := List.mem_map.mp member
    exact absent entry present

theorem mem_create_types_keys (definitions : Definitions δ ρ) (name : String) :
    name ∈ (createTypes definitions).keys ↔ ∃ entry ∈ definitions.entries, name ∈ entry.2.types.keys := by
  rw [KeyedMap.mem_keys_iff]
  constructor
  · rintro ⟨definition, found⟩
    obtain ⟨_, last, _, split, declared, _⟩ := (create_types_iff definitions name definition).mp found
    exact ⟨last, by simp [split], (KeyedMap.mem_keys_iff _ _).mpr ⟨definition, declared⟩⟩
  · rintro ⟨entry, member, declared⟩
    by_contra missing
    have none_left : (createTypes definitions).get name = none := by
      rw [Option.eq_none_iff_forall_ne_some]
      exact fun definition found => missing ⟨definition, found⟩
    rw [create_types_same, KeyedMap.get_merge_all, List.findSome?_eq_none_iff] at none_left
    have absent := none_left entry.2.types (List.mem_reverse.mpr (List.mem_map_of_mem member))
    exact (KeyedMap.get_eq_none _ _).mp absent declared

-- No two modules give different definitions to one name.
def Definitions.Consistent (definitions : Definitions δ ρ) : Prop := KeyedMap.Agree definitions.typeMaps

instance [DecidableEq δ] (definitions : Definitions δ ρ) : Decidable definitions.Consistent :=
  inferInstanceAs (Decidable (KeyedMap.Agree definitions.typeMaps))

theorem create_types_keeps (definitions : Definitions δ ρ) (consistent : definitions.Consistent)
    (entry : String × DefinitionModule δ ρ) (member : entry ∈ definitions.entries) (name : String) (definition : δ)
    (declared : entry.2.types.get name = some definition) : (createTypes definitions).get name = some definition := by
  rw [create_types_same, KeyedMap.get_merge_all_agreeing _ consistent]
  exact ⟨entry.2.types, List.mem_map_of_mem member, declared⟩

theorem create_types_perm (definitions shuffled : Definitions δ ρ) (consistent : definitions.Consistent)
    (same : shuffled.entries.Perm definitions.entries) :
    KeyedMap.Same (createTypes shuffled) (createTypes definitions) := by
  intro name
  rw [create_types_same, create_types_same]
  exact KeyedMap.merge_all_perm _ _ consistent (same.map _) name

-- The names of the modules are distinct, so no two of the maps meet.
theorem rpc_maps_agree (definitions : Definitions δ ρ) : KeyedMap.Agree definitions.rpcMaps := by
  intro a first b second name x y atA atB
  obtain ⟨entry, present, rfl⟩ := List.mem_map.mp first
  obtain ⟨other, found, rfl⟩ := List.mem_map.mp second
  rw [KeyedMap.get_single, Option.ite_none_right_eq_some] at atA atB
  have equal := List.inj_on_of_nodup_map definitions.unique (List.mem_of_mem_filter present)
    (List.mem_of_mem_filter found) (atA.1.trans atB.1.symm)
  rw [← Option.some.inj atA.2, ← Option.some.inj atB.2, equal]

theorem has_rpc_iff (pallet : DefinitionModule δ ρ) :
    hasRPC pallet = true ↔ ∃ rpc, pallet.rpc = some rpc ∧ rpc.keys ≠ [] := by
  cases map : pallet.rpc with
  | none => simp [hasRPC, map]
  | some rpc => simp [hasRPC, map, List.length_pos_iff]

theorem create_rpc_iff (definitions : Definitions δ ρ) (name : String) (value : Option (KeyedMap String ρ)) :
    (createRPC definitions).get name = some value ↔ ∃ pallet rpc, definitions.get name = some pallet ∧
      pallet.rpc = some rpc ∧ rpc.keys ≠ [] ∧ value = some rpc := by
  rw [create_rpc_merges, KeyedMap.get_merge_all_agreeing _ (rpc_maps_agree definitions)]
  constructor
  · rintro ⟨_, member, found⟩
    obtain ⟨⟨key, pallet⟩, present, rfl⟩ := List.mem_map.mp member
    obtain ⟨inside, kept⟩ := List.mem_filter.mp present
    obtain ⟨rfl, stored⟩ := (Option.ite_none_right_eq_some).mp ((KeyedMap.get_single _ _ _).symm.trans found)
    obtain ⟨rpc, given, some_call⟩ := (has_rpc_iff pallet).mp kept
    have value_given : value = some rpc := by
      rw [← given, Option.some.inj stored]
    exact ⟨pallet, rpc, (KeyedMap.get_eq_some _ _ _).mpr inside, given, some_call, value_given⟩
  · rintro ⟨pallet, rpc, named, given, some_call, rfl⟩
    have inside := (KeyedMap.get_eq_some _ _ _).mp named
    have kept := (has_rpc_iff pallet).mpr ⟨rpc, given, some_call⟩
    refine ⟨_, List.mem_map_of_mem (List.mem_filter.mpr ⟨inside, kept⟩), ?_⟩
    rw [KeyedMap.get_single, if_pos rfl, given]

theorem create_rpc_perm (definitions shuffled : Definitions δ ρ) (same : shuffled.entries.Perm definitions.entries) :
    KeyedMap.Same (createRPC shuffled) (createRPC definitions) := by
  rw [create_rpc_merges, create_rpc_merges]
  exact KeyedMap.merge_all_perm _ _ (rpc_maps_agree definitions) ((same.filter _).map _)

theorem configuration_merging (definitions : Definitions δ ρ) :
    (∀ name definition, (createTypes definitions).get name = some definition ↔ ∃ earlier last later,
      definitions.entries = earlier ++ last :: later ∧ last.2.types.get name = some definition ∧
        ∀ entry ∈ later, entry.2.types.get name = none) ∧
    (∀ name, name ∈ (createTypes definitions).keys ↔ ∃ entry ∈ definitions.entries, name ∈ entry.2.types.keys) ∧
    (definitions.Consistent →
      (∀ entry ∈ definitions.entries, ∀ name definition, entry.2.types.get name = some definition →
        (createTypes definitions).get name = some definition) ∧
      ∀ shuffled : Definitions δ ρ, shuffled.entries.Perm definitions.entries →
        KeyedMap.Same (createTypes shuffled) (createTypes definitions)) ∧
    (∀ name value, (createRPC definitions).get name = some value ↔ ∃ pallet rpc, definitions.get name = some pallet ∧
      pallet.rpc = some rpc ∧ rpc.keys ≠ [] ∧ value = some rpc) ∧
    ∀ shuffled : Definitions δ ρ, shuffled.entries.Perm definitions.entries →
      KeyedMap.Same (createRPC shuffled) (createRPC definitions) := by
  refine ⟨create_types_iff definitions, mem_create_types_keys definitions, ?_, create_rpc_iff definitions,
    create_rpc_perm definitions⟩
  intro consistent
  exact ⟨create_types_keeps definitions consistent, fun shuffled => create_types_perm definitions shuffled consistent⟩

def assetDefinitions : DefinitionModule String String :=
  ⟨⟨[("Asset", "Vec<u8>")], by decide⟩,
    some ⟨[("balanceOf", "CustomRpcBalance"), ("listAssets", "Vec<Asset>")], by decide⟩⟩

def commonDefinitions : DefinitionModule String String :=
  ⟨⟨[("SafeRpcWrapper", "String"), ("CurrencyId", "u128")], by decide⟩, some KeyedMap.empty⟩

def lendingDefinitions : DefinitionModule String String := ⟨KeyedMap.empty, some KeyedMap.empty⟩

def sampleDefinitions : Definitions String String :=
  ⟨[("assets", assetDefinitions), ("lending", lendingDefinitions), ("common", commonDefinitions)], by decide⟩

def reorderedDefinitions : Definitions String String :=
  ⟨[("common", commonDefinitions), ("assets", assetDefinitions), ("lending", lendingDefinitions)], by decide⟩

theorem sample_definitions_merge :
    (createTypes sampleDefinitions).get "CurrencyId" = some "u128" ∧
      KeyedMap.Same (createTypes reorderedDefinitions) (createTypes sampleDefinitions) ∧
      KeyedMap.Same (createRPC reorderedDefinitions) (createRPC sampleDefinitions) := by
  have merging := configuration_merging sampleDefinitions
  have reordered : reorderedDefinitions.entries.Perm sampleDefinitions.entries :=
    @List.perm_append_comm _ [("common", commonDefinitions)]
      [("assets", assetDefinitions), ("lending", lendingDefinitions)]
  obtain ⟨kept, unordered⟩ := merging.2.2.1 (by decide)
  exact ⟨kept ("common", commonDefinitions) (by simp [sampleDefinitions]) "CurrencyId" "u128" (by decide),
    unordered reorderedDefinitions reordered, merging.2.2.2.2 reorderedDefinitions reordered⟩

end PicassoBootstrap
