import PicassoBootstrap.BootstrapSteps
import PicassoBootstrap.Lib.Ledger

set_option autoImplicit false

namespace PicassoBootstrap

open Async

-- What the extrinsics are for, apart from how they are sent: pools that belong
-- to their creators, and amounts that are minted for liquidity and for offers.
structure RegisteredPool where
  poolId : Nat
  owner : AccountId32
  pair : CurrencyPair
deriving DecidableEq

-- The pools created so far, the last one first.
abbrev Market := List RegisteredPool

abbrev Account := AccountId32 × Nat

namespace Market

def lookup (market : Market) (poolId : Nat) : Option RegisteredPool :=
  List.find? (fun pool => pool.poolId = poolId) market

def register (market : Market) : ChainStep → Market
  | .pool (.create _ _ owner pair poolId) => ⟨poolId, owner, pair⟩ :: market
  | _ => market

-- Who may do what: pools are created by their owners and filled by them only,
-- routes lead through registered pools of the same pair, and what needs sudo is
-- signed by the sudo key.
def Permits (market : Market) (walletSudo : AccountId32) : ChainStep → Prop
  | .pool (.create _ signer owner _ _) => signer = owner
  | .pool (.mint signer _ _ _) => signer = walletSudo
  | .pool (.addLiquidity signer poolId _ _) => ∃ pool, market.lookup poolId = some pool ∧ pool.owner = signer
  | .pool (.setRoute signer pair route) =>
      signer = walletSudo ∧ ∀ poolId ∈ route, ∃ pool, market.lookup poolId = some pool ∧ pool.pair = pair
  | .pool (.enableTwap signer poolId) => signer = walletSudo ∧ ∃ pool, market.lookup poolId = some pool
  | .offer signer beneficiary _ => signer = beneficiary

def Permitted (walletSudo : AccountId32) : Market → List ChainStep → Prop
  | _, [] => True
  | market, step :: rest => market.Permits walletSudo step ∧ Permitted walletSudo (market.register step) rest

-- The amounts that a call itself names: a mint gives to its receiver, liquidity
-- and the reward of an offer are asked of the signer. What the pallets take or
-- give beside these (fees, stakes, shares of a pool) is not among them.
def bookings (market : Market) : ChainStep → List (Ledger.Entry Account)
  | .pool (.mint _ asset receiver amount) => [.credit (receiver, asset) amount]
  | .pool (.addLiquidity signer poolId base quote) =>
      match market.lookup poolId with
      | some pool => [.debit (signer, pool.pair.base) base, .debit (signer, pool.pair.quote) quote]
      | none => []
  | .offer signer _ offer => [.debit (signer, offer.reward.asset) offer.reward.amount]
  | _ => []

def book : Market → List ChainStep → List (Ledger.Entry Account)
  | _, [] => []
  | market, step :: rest => market.bookings step ++ book (market.register step) rest

def minted (market : Market) (steps : List ChainStep) (account : Account) : Nat :=
  Ledger.credited (market.book steps) account

def spent (market : Market) (steps : List ChainStep) (account : Account) : Nat :=
  Ledger.debited (market.book steps) account

theorem lookup_created (market : Market) (pool : RegisteredPool) :
    lookup (pool :: market) pool.poolId = some pool := by
  simp [lookup]

theorem permitted_append (walletSudo : AccountId32) (market : Market) (before after : List ChainStep) :
    Permitted walletSudo market (before ++ after) ↔
      Permitted walletSudo market before ∧ Permitted walletSudo (before.foldl register market) after := by
  induction before generalizing market with
  | nil => simp [Permitted]
  | cons step rest ih => simp only [List.cons_append, Permitted, ih, List.foldl_cons, and_assoc]

theorem book_append (market : Market) (before after : List ChainStep) :
    book market (before ++ after) = book market before ++ book (before.foldl register market) after := by
  induction before generalizing market with
  | nil => rfl
  | cons step rest ih => simp only [List.cons_append, book, ih, List.foldl_cons, List.append_assoc]

theorem permitted_uncreated (walletSudo : AccountId32) (market : Market) (steps : List ChainStep)
    (uncreated : ∀ step ∈ steps, market.register step = market)
    (permits : ∀ step ∈ steps, market.Permits walletSudo step) : Permitted walletSudo market steps := by
  induction steps with
  | nil => trivial
  | cons step rest ih =>
      refine ⟨permits step (by simp), ?_⟩
      rw [uncreated step (by simp)]
      exact ih (fun other member => uncreated other (by simp [member]))
        fun other member => permits other (by simp [member])

theorem book_uncreated (market : Market) (steps : List ChainStep)
    (uncreated : ∀ step ∈ steps, market.register step = market) :
    book market steps = steps.flatMap market.bookings := by
  induction steps with
  | nil => rfl
  | cons step rest ih =>
      rw [book, uncreated step (by simp), ih fun other member => uncreated other (by simp [member]),
        List.flatMap_cons]

def InOrder (walletSudo : AccountId32) (steps : List ChainStep) : Prop :=
  ∀ market, Permitted walletSudo market steps

theorem in_order_composable (walletSudo : AccountId32) : Composable (InOrder walletSudo) where
  empty := fun _ => trivial
  append := by
    intro before after first second market
    rw [permitted_append]
    exact ⟨first market, second _⟩
  part := by
    rintro part _ ⟨rest, rfl⟩ holds market
    exact ((permitted_append walletSudo market part rest).mp (holds market)).1

def Financed (steps : List ChainStep) : Prop := ∀ market, Ledger.SelfFinanced (book market steps)

theorem financed_spends (steps part : List ChainStep) (financed : Financed steps) (shorter : part <+: steps)
    (market : Market) (account : Account) : spent market part account ≤ minted market part account := by
  obtain ⟨rest, rfl⟩ := shorter
  refine financed market (book market part) ?_ account
  rw [book_append]
  exact List.prefix_append _ _

theorem financed_composable : Composable Financed where
  empty := fun _ => Ledger.self_financed_nil
  append := by
    intro before after first second market
    rw [book_append]
    exact Ledger.self_financed_append _ _ (first market) (second _)
  part := by
    rintro part _ ⟨rest, rfl⟩ holds market
    have whole := holds market
    rw [book_append] at whole
    exact Ledger.self_financed_prefix _ _ (List.prefix_append _ _) whole

-- Of what the steps mint for an account they spend all but `left`, whatever the
-- market.
def Leaves (left : Account → Nat) (steps : List ChainStep) : Prop :=
  ∀ market account, minted market steps account = spent market steps account + left account

theorem leaves_append (first second : Account → Nat) (before after : List ChainStep)
    (head : Leaves first before) (tail : Leaves second after) :
    Leaves (fun account => first account + second account) (before ++ after) := by
  intro market account
  have first_left := head market account
  have second_left := tail (before.foldl register market) account
  simp only [minted, spent] at first_left second_left ⊢
  simp only [book_append, Ledger.credited_append, Ledger.debited_append]
  omega

theorem leaves_flat_map {ι : Type} (xs : List ι) (left : ι → Account → Nat) (steps : ι → List ChainStep)
    (each : ∀ x ∈ xs, Leaves (left x) (steps x)) :
    Leaves (fun account => (xs.map fun x => left x account).sum) (xs.flatMap steps) := by
  induction xs with
  | nil => exact fun _ _ => rfl
  | cons x rest ih =>
      have both := leaves_append _ _ _ _ (each x (by simp)) (ih fun other member => each other (by simp [member]))
      simpa using both

end Market

end PicassoBootstrap
