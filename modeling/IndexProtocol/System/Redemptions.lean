/-
This file proves that the holders of a Set can always leave it. A redemption of
the issuance module can fail in many places: a check, an overflow, a transfer
that the Set cannot pay. In a Set that is solvent, open to the module and free
of external positions none of them does, and what makes it so survives the
redemption. So any number of redemptions that the holders can afford all
succeed, in any order, and each pays exactly its share.
-/

import IndexProtocol.Library.Holdings
import IndexProtocol.System.AuctionUnlock
import IndexProtocol.System.TradingRuns

namespace IndexProtocol

open Revert PreciseUnitMath

/-! ### Tokens that do not overflow -/

namespace ERC20

/-- No accounts hold more than the supply together, and the supply fits. -/
structure Sound (token : ERC20) : Prop where
  within : Holdings.Within token.balanceOf token.totalSupply
  supply : token.totalSupply < 2 ^ 256

section Sound

variable {token : ERC20} {sender recipient : Address} {amount : Nat}

theorem movedBalance_credit_fits (sound : token.Sound)
    (enough : amount ≤ token.balanceOf sender) :
    Function.update token.balanceOf sender (token.balanceOf sender - amount) recipient + amount <
      2 ^ 256 := by
  have fits := sound.supply
  by_cases same : recipient = sender
  · rw [same, Function.update_self]
    have alone := sound.within.single sender
    omega
  · rw [Function.update_of_ne same]
    have both := sound.within.pair same
    omega

/-- A sound token moves whatever the sender holds. -/
theorem move_succeeds (sound : token.Sound) (senderNonzero : sender ≠ 0)
    (recipientNonzero : recipient ≠ 0) (enough : amount ≤ token.balanceOf sender) :
    token.move sender recipient amount =
      .ok { token with balanceOf := token.movedBalance sender recipient amount } := by
  simp only [move, bind_eq_ok, require_eq_ok, SafeMath.add_eq_ok, pure_eq_ok, exists_const]
  exact ⟨senderNonzero, recipientNonzero, enough, _, ⟨movedBalance_credit_fits sound enough, rfl⟩, rfl⟩

theorem Sound.move (sound : token.Sound) (enough : amount ≤ token.balanceOf sender) :
    Sound { token with balanceOf := token.movedBalance sender recipient amount } where
  within := sound.within.move enough recipient
  supply := sound.supply

theorem burn_succeeds (sound : token.Sound) (senderNonzero : sender ≠ 0)
    (enough : amount ≤ token.balanceOf sender) :
    token.burn sender amount = .ok { token with
      totalSupply := token.totalSupply - amount
      balanceOf := Function.update token.balanceOf sender (token.balanceOf sender - amount) } := by
  simp only [burn, bind_eq_ok, require_eq_ok, SafeMath.sub_eq_ok, pure_eq_ok, exists_const]
  exact ⟨senderNonzero, enough, _, ⟨enough.trans (sound.within.single sender), rfl⟩, rfl⟩

theorem Sound.burn (sound : token.Sound) (enough : amount ≤ token.balanceOf sender) :
    Sound { token with
      totalSupply := token.totalSupply - amount
      balanceOf := Function.update token.balanceOf sender (token.balanceOf sender - amount) } where
  within := sound.within.burn enough
  supply := (Nat.sub_le _ _).trans_lt sound.supply

end Sound

end ERC20

/-! ### Paying a recipient -/

namespace World

/-- The Set paid the recipient an amount of every token, and no other account received or paid
anything. -/
structure Pays (recipient : Address) (amounts : Address → Nat) (world next : World) : Prop where
  only : OnlyBalances world next
  held : ∀ token, next.held token + amounts token = world.held token
  received : ∀ token,
    next.balanceOf token recipient = world.balanceOf token recipient + amounts token
  others : ∀ token account, account ≠ recipient → account ≠ world.setToken.address →
    next.balanceOf token account = world.balanceOf token account
  sound : ∀ token, (world.token token).Sound → (next.token token).Sound

section Paying

variable {module recipient token : Address} {amount : Nat} {world middle next : World}
  {amounts later : Address → Nat}

theorem OnlyBalances.privileged (only : OnlyBalances world next)
    (privileged : world.setToken.Privileged ⟨world.controller, module⟩) :
    next.setToken.Privileged ⟨next.controller, module⟩ := by
  obtain ⟨_, _, stored⟩ := only.setToken
  rw [stored, only.controller]
  exact privileged

theorem Pays.refl (recipient : Address) (world : World) :
    Pays recipient (fun _ => 0) world world :=
  ⟨OnlyBalances.refl world, fun _ => rfl, fun _ => rfl, fun _ _ _ _ => rfl, fun _ => id⟩

theorem Pays.trans (first : Pays recipient amounts world middle)
    (second : Pays recipient later middle next) :
    Pays recipient (fun token => amounts token + later token) world next where
  only := first.only.trans second.only
  held token := by
    have before := first.held token
    have after := second.held token
    omega
  received token := by
    rw [second.received, first.received, Nat.add_assoc]
  others token account different outside := by
    rw [second.others token account different (first.only.address ▸ outside),
      first.others token account different outside]
  sound token sound := second.sound token (first.sound token sound)

theorem Pays.grows (pays : Pays recipient amounts world next) (token account : Address)
    (outside : account ≠ world.setToken.address) :
    world.balanceOf token account ≤ next.balanceOf token account := by
  by_cases same : account = recipient
  · subst same
    exact pays.received token ▸ Nat.le_add_right _ _
  · exact (pays.others token account same outside).ge

/-- A token that the Set holds enough of can be paid out. -/
theorem strictInvokeTransfer_succeeds
    (privileged : world.setToken.Privileged ⟨world.controller, module⟩)
    (address : world.setToken.address ≠ 0) (recipientNonzero : recipient ≠ 0)
    (outside : recipient ≠ world.setToken.address) (sound : (world.token token).Sound)
    (enough : amount ≤ world.held token) :
    ∃ next, world.strictInvokeTransfer module token recipient amount = .ok next ∧
      Pays recipient (Pi.single token amount) world next := by
  unfold strictInvokeTransfer
  split
  · rename_i positive
    let paid : ERC20 := { world.token token with
      balanceOf := (world.token token).movedBalance world.setToken.address recipient amount }
    have moved : world.callToken token (fun token =>
        token.transfer world.setToken.address recipient amount) =
          .ok (world.storeToken token paid) := by
      simp only [callToken, bind_eq_ok, pure_eq_ok]
      exact ⟨paid, ERC20.move_succeeds sound address recipientNonzero enough, rfl⟩
    have left : paid.balanceOf world.setToken.address = world.held token - amount := by
      show Function.update _ recipient _ world.setToken.address = _
      rw [Function.update_of_ne outside.symm, Function.update_self]
      rfl
    have held : (world.storeToken token paid).held =
        Function.update world.held token (world.held token - amount) := by
      rw [held_storeToken, left]
    refine ⟨world.storeToken token paid, ?_, onlyBalances_storeToken token paid rfl,
      fun other => ?_, fun other => ?_, fun other account different notSet => ?_,
      fun other soundBefore => ?_⟩
    · simp only [bind_eq_ok, require_eq_ok, SafeMath.sub_eq_ok, pure_eq_ok, exists_const,
        invokeTransfer, if_pos positive, SetToken.validatePrivileged_eq_ok]
      exact ⟨_, ⟨privileged, moved⟩, _, ⟨enough, rfl⟩, by rw [held, Function.update_self], rfl⟩
    · rw [held]
      by_cases same : other = token
      · rw [same, Function.update_self, Pi.single_eq_same, Nat.sub_add_cancel enough]
      · rw [Function.update_of_ne same, Pi.single_eq_of_ne same, Nat.add_zero]
    · by_cases same : other = token
      · rw [same, balanceOf_storeToken_self, Pi.single_eq_same]
        exact ERC20.movedBalance_recipient _ _ _ outside
      · rw [balanceOf_storeToken_other _ _ same, Pi.single_eq_of_ne same, Nat.add_zero]
    · by_cases same : other = token
      · rw [same, balanceOf_storeToken_self]
        exact ERC20.movedBalance_other _ _ _ _ notSet different
      · rw [balanceOf_storeToken_other _ _ same]
    · by_cases same : other = token
      · rw [same, token_storeToken_self]
        exact sound.move enough
      · rw [token_storeToken_other _ same]
        exact soundBefore
  · rename_i zero
    obtain rfl := Nat.eq_zero_of_not_pos zero
    rw [Pi.single_zero]
    exact ⟨world, rfl, Pays.refl recipient world⟩

end Paying

end World

/-! ### Redemptions -/

namespace SetToken

/-- What a quantity of the Set is paid in a component. -/
def share (setToken : SetToken) (quantity : Nat) (component : Address) : Nat :=
  Rounding.mulFloor preciseUnit quantity (setToken.defaultRealUnit component).toNat

theorem SamePositions.trans {setToken middle next : SetToken}
    (first : SamePositions setToken middle) (second : SamePositions middle next) :
    SamePositions setToken next :=
  ⟨second.components.trans first.components,
    second.componentPositions.trans first.componentPositions,
    second.positionMultiplier.trans first.positionMultiplier⟩

end SetToken

namespace BasicIssuanceModule

/-- A component of which a quantity of the Set can be paid. -/
structure Payable (world : World) (quantity : Nat) (component : Address) : Prop where
  internal : world.setToken.externalPositionModules component = []
  readable : FitsInt256 (world.setToken.defaultPositionVirtualUnit component *
    world.setToken.positionMultiplier)
  nonneg : 0 ≤ world.setToken.defaultRealUnit component
  product : quantity * (world.setToken.defaultRealUnit component).toNat < 2 ^ 256
  sound : (world.token component).Sound
  enough : world.setToken.share quantity component ≤ world.held component

section Releasing

variable {module : BasicIssuanceModule} {world next : World} {recipient component : Address}
  {quantity : Nat} {amounts : Address → Nat}

theorem share_of_onlyBalances (only : World.OnlyBalances world next) (quantity : Nat)
    (component : Address) :
    next.setToken.share quantity component = world.setToken.share quantity component := by
  unfold SetToken.share
  rw [only.defaultRealUnit]

/-- Paying other components leaves a component payable. -/
theorem Payable.pays (payable : Payable world quantity component)
    (pays : World.Pays recipient amounts world next) (apart : amounts component = 0) :
    Payable next quantity component := by
  have same := pays.only.samePositions
  have held := pays.held component
  rw [apart, Nat.add_zero] at held
  constructor
  · rw [same.externalPositionModules]
    exact payable.internal
  · unfold SetToken.defaultPositionVirtualUnit
    rw [same.componentPositions, same.positionMultiplier]
    exact payable.readable
  · rw [pays.only.defaultRealUnit]
    exact payable.nonneg
  · rw [pays.only.defaultRealUnit]
    exact payable.product
  · exact pays.sound component payable.sound
  · rw [share_of_onlyBalances pays.only, held]
    exact payable.enough

theorem release_succeeds
    (privileged : world.setToken.Privileged ⟨world.controller, module.address⟩)
    (address : world.setToken.address ≠ 0) (recipientNonzero : recipient ≠ 0)
    (outside : recipient ≠ world.setToken.address)
    (payable : Payable world quantity component) :
    ∃ next, module.release quantity recipient world component = .ok next ∧
      World.Pays recipient (Pi.single component (world.setToken.share quantity component))
        world next := by
  obtain ⟨next, returned, pays⟩ := World.strictInvokeTransfer_succeeds privileged address
    recipientNonzero outside payable.sound payable.enough
  refine ⟨next, ?_, pays⟩
  have internal : Position.hasExternalPosition world.setToken component = false :=
    Position.hasExternalPosition_eq_false.mpr payable.internal
  simp only [release, bind_eq_ok, require_eq_ok, exists_const,
    SetToken.getDefaultPositionRealUnit_eq_ok, SafeCast.toUint256_eq_ok, preciseMul_eq_ok]
  exact ⟨internal, _, ⟨payable.readable, rfl⟩, _, (Int.toNat_of_nonneg payable.nonneg).symm, _,
    ⟨payable.product, rfl⟩, returned⟩

/-- All components of a list can be paid, one after the other. -/
theorem release_all (components : List Address) (distinct : components.Nodup) :
    ∀ world : World, world.setToken.Privileged ⟨world.controller, module.address⟩ →
      world.setToken.address ≠ 0 → recipient ≠ 0 → recipient ≠ world.setToken.address →
      (∀ component ∈ components, Payable world quantity component) →
      ∃ next, components.foldlM (module.release quantity recipient) world = .ok next ∧
        World.Pays recipient (fun token =>
          if token ∈ components then world.setToken.share quantity token else 0) world next := by
  induction components with
  | nil =>
    intro world _ _ _ _ _
    exact ⟨world, rfl, World.Pays.refl recipient world⟩
  | cons component rest inductionHypothesis =>
    intro world privileged address recipientNonzero outside payable
    rw [List.nodup_cons] at distinct
    obtain ⟨middle, released, first⟩ := release_succeeds privileged address recipientNonzero
      outside (payable component List.mem_cons_self)
    have restPayable : ∀ other ∈ rest, Payable middle quantity other := by
      intro other member
      have different : other ≠ component := fun same => distinct.1 (same ▸ member)
      exact (payable other (List.mem_cons_of_mem _ member)).pays first
        (Pi.single_eq_of_ne different _)
    obtain ⟨next, releasing, later⟩ := inductionHypothesis distinct.2 middle
      (first.only.privileged privileged) (first.only.address ▸ address) recipientNonzero
      (first.only.address ▸ outside) restPayable
    refine ⟨next, ?_, ?_⟩
    · rw [List.foldlM_cons, bind_eq_ok]
      exact ⟨middle, released, releasing⟩
    · have both := first.trans later
      convert both using 2 with token
      by_cases same : token = component
      · subst same
        rw [if_pos List.mem_cons_self, Pi.single_eq_same, if_neg distinct.1, Nat.add_zero]
      · rw [Pi.single_eq_of_ne same, Nat.zero_add, share_of_onlyBalances first.only]
        simp only [List.mem_cons, same, false_or]

end Releasing

/-- Nothing stands in the way of a redemption: the module may act on the Set, every component
has a default position only, the Set holds enough of all of them, and no token and no product
overflows. -/
structure Redeemable (module : BasicIssuanceModule) (world : World) : Prop where
  valid : world.controller.isSet world.setToken.address = true
  privileged : world.setToken.Privileged ⟨world.controller, module.address⟩
  address : world.setToken.address ≠ 0
  bookkeeping : PositionBookkeeping world.setToken
  internal : ∀ component ∈ world.setToken.components,
    world.setToken.externalPositionModules component = []
  readable : ∀ component ∈ world.setToken.components,
    FitsInt256 (world.setToken.defaultPositionVirtualUnit component *
      world.setToken.positionMultiplier)
  product : ∀ component ∈ world.setToken.components,
    world.setToken.totalSupply * (world.setToken.defaultRealUnit component).toNat < 2 ^ 256
  solvent : ∀ component ∈ world.setToken.components,
    (world.setToken.totalSupply : Int) * world.setToken.defaultRealUnit component ≤
      world.held component * preciseUnit
  sound : ∀ token, token = world.setToken.address ∨ token ∈ world.setToken.components →
    (world.token token).Sound

/-- What a redemption does to the supply, the positions and the balances. -/
structure Redeemed (sender recipient : Address) (quantity : Nat) (world next : World) :
    Prop where
  controller : next.controller = world.controller
  address : next.setToken.address = world.setToken.address
  supply : next.setToken.totalSupply + quantity = world.setToken.totalSupply
  positions : SetToken.SamePositions world.setToken next.setToken
  spent : ∀ account, account ≠ world.setToken.address →
    world.setToken.balanceOf account ≤
      next.setToken.balanceOf account + if account = sender then quantity else 0
  held : ∀ component ∈ world.setToken.components,
    next.held component + world.setToken.share quantity component = world.held component
  received : ∀ component ∈ world.setToken.components, component ≠ world.setToken.address →
    ∀ account, account ≠ world.setToken.address →
      next.balanceOf component account = world.balanceOf component account +
        if account = recipient then world.setToken.share quantity component else 0

section Redeeming

variable {module : BasicIssuanceModule} {world next : World} {sender recipient : Address}
  {quantity : Nat}

theorem Redeemable.soundSet (redeemable : module.Redeemable world) :
    world.setToken.toERC20.Sound := by
  have sound := redeemable.sound world.setToken.address (Or.inl rfl)
  rwa [World.token, if_pos rfl] at sound

/-- Any part of the supply can be paid in every component. -/
theorem Redeemable.payable (redeemable : module.Redeemable world)
    (enough : quantity ≤ world.setToken.totalSupply) {component : Address}
    (member : component ∈ world.setToken.components) : Payable world quantity component := by
  have nonneg := redeemable.bookkeeping.defaultRealUnit_nonneg component
  obtain ⟨unit, read⟩ := Int.eq_ofNat_of_zero_le nonneg
  have product := redeemable.product component member
  have solvent := redeemable.solvent component member
  rw [read, Int.toNat_natCast] at product
  rw [read] at solvent
  have claimed : quantity * unit ≤ world.setToken.totalSupply * unit :=
    Nat.mul_le_mul_right _ enough
  refine ⟨redeemable.internal component member, redeemable.readable component member, nonneg,
    ?_, redeemable.sound component (Or.inr member), ?_⟩
  · rw [read, Int.toNat_natCast]
    exact claimed.trans_lt product
  · unfold SetToken.share
    rw [read, Int.toNat_natCast]
    refine Nat.le_of_mul_le_mul_right ?_ preciseUnit_pos
    calc Rounding.mulFloor preciseUnit quantity unit * preciseUnit
        ≤ quantity * unit := Rounding.mulFloor_mul_le _ _ _
      _ ≤ world.setToken.totalSupply * unit := claimed
      _ ≤ world.held component * preciseUnit := by exact_mod_cast solvent

/-- The holder's tokens are burned. -/
def burned (sender : Address) (quantity : Nat) (world : World) : World :=
  { world with setToken := { world.setToken with
    totalSupply := world.setToken.totalSupply - quantity
    balanceOf := Function.update world.setToken.balanceOf sender
      (world.setToken.balanceOf sender - quantity) } }

theorem burned_eq_storeToken (sender : Address) (quantity : Nat) (world : World) :
    burned sender quantity world = world.storeToken world.setToken.address
      { world.setToken.toERC20 with
        totalSupply := world.setToken.totalSupply - quantity
        balanceOf := Function.update world.setToken.balanceOf sender
          (world.setToken.balanceOf sender - quantity) } :=
  (if_pos rfl).symm

theorem held_burned (other : sender ≠ world.setToken.address) :
    (burned sender quantity world).held = world.held := by
  rw [burned_eq_storeToken, World.held_storeToken, Function.update_eq_self_iff]
  show Function.update _ sender _ world.setToken.address = _
  rw [Function.update_of_ne other.symm]
  unfold World.held World.balanceOf World.token
  rw [if_pos rfl]

/-- The holder burns a part of the supply. -/
theorem Redeemable.burn (redeemable : module.Redeemable world) (senderNonzero : sender ≠ 0)
    (enough : quantity ≤ world.setToken.balanceOf sender) :
    world.callSetToken (SetToken.burn ⟨world.controller, module.address⟩ sender quantity) =
      .ok (burned sender quantity world) := by
  simp only [World.callSetToken, SetToken.burn, bind_eq_ok, pure_eq_ok,
    SetToken.validatePrivileged_eq_ok, exists_const]
  exact ⟨_, ⟨redeemable.privileged, _,
    ERC20.burn_succeeds redeemable.soundSet senderNonzero enough, rfl⟩, rfl⟩

theorem Redeemable.sound_burned (redeemable : module.Redeemable world)
    (enough : quantity ≤ world.setToken.balanceOf sender) {token : Address}
    (member : token = world.setToken.address ∨ token ∈ world.setToken.components) :
    ((burned sender quantity world).token token).Sound := by
  rw [burned_eq_storeToken]
  by_cases self : token = world.setToken.address
  · rw [self, World.token_storeToken_self]
    exact redeemable.soundSet.burn enough
  · rw [World.token_storeToken_other _ self]
    exact redeemable.sound token member

/-- Burning the tokens of a holder leaves every component payable. -/
theorem Redeemable.payable_burned (redeemable : module.Redeemable world)
    (other : sender ≠ world.setToken.address)
    (enough : quantity ≤ world.setToken.balanceOf sender) {component : Address}
    (member : component ∈ world.setToken.components) :
    Payable (burned sender quantity world) quantity component := by
  have payable := redeemable.payable
    (enough.trans (redeemable.soundSet.within.single sender)) member
  refine ⟨payable.internal, payable.readable, payable.nonneg, payable.product,
    redeemable.sound_burned enough (Or.inr member), ?_⟩
  rw [held_burned other]
  exact payable.enough

theorem redeemed_of_pays (other : sender ≠ world.setToken.address)
    (fits : world.setToken.balanceOf sender ≤ world.setToken.totalSupply)
    (enough : quantity ≤ world.setToken.balanceOf sender)
    (pays : World.Pays recipient (fun token =>
      if token ∈ world.setToken.components then world.setToken.share quantity token else 0)
      (burned sender quantity world) next) :
    Redeemed sender recipient quantity world next where
  controller := pays.only.controller
  address := pays.only.address
  supply := by
    rw [pays.only.totalSupply]
    exact Nat.sub_add_cancel (enough.trans fits)
  positions := ⟨pays.only.samePositions.components, pays.only.samePositions.componentPositions,
    pays.only.samePositions.positionMultiplier⟩
  spent account outside := by
    have address : next.setToken.address = world.setToken.address := pays.only.address
    have kept : Function.update world.setToken.balanceOf sender
        (world.setToken.balanceOf sender - quantity) account ≤
          next.setToken.balanceOf account := by
      have grows := pays.grows world.setToken.address account outside
      rwa [burned_eq_storeToken, World.balanceOf_storeToken_self, World.balanceOf, World.token,
        if_pos address.symm] at grows
    refine le_trans ?_ (Nat.add_le_add_right kept _)
    by_cases same : account = sender
    · rw [same, Function.update_self, if_pos rfl, Nat.sub_add_cancel enough]
    · rw [Function.update_of_ne same, if_neg same, Nat.add_zero]
  held component member := by
    have held := pays.held component
    rwa [if_pos member, held_burned other] at held
  received component member notSet account outside := by
    have before : (burned sender quantity world).balanceOf component account =
        world.balanceOf component account := by
      rw [burned_eq_storeToken, World.balanceOf_storeToken_other _ _ notSet]
    by_cases same : account = recipient
    · subst same
      rw [pays.received, before, if_pos member, if_pos rfl]
    · rw [pays.others component account same outside, before, if_neg same, Nat.add_zero]

/-- What makes a Set redeemable depends on the positions, the supply and what the Set holds. -/
theorem Redeemable.after (redeemable : module.Redeemable world)
    (redeemed : Redeemed sender recipient quantity world next)
    (privileged : next.setToken.Privileged ⟨next.controller, module.address⟩)
    (sound : ∀ token, token = world.setToken.address ∨ token ∈ world.setToken.components →
      (next.token token).Sound)
    (solvent : ∀ component ∈ next.setToken.components,
      (next.setToken.totalSupply : Int) * next.setToken.defaultRealUnit component ≤
        next.held component * preciseUnit) : module.Redeemable next := by
  have same := redeemed.positions
  have fewer : next.setToken.totalSupply ≤ world.setToken.totalSupply :=
    redeemed.supply ▸ Nat.le_add_right _ _
  refine ⟨?_, privileged, redeemed.address ▸ redeemable.address,
    redeemable.bookkeeping.congr same, ?_, ?_, ?_, solvent, ?_⟩
  · rw [redeemed.controller, redeemed.address]
    exact redeemable.valid
  all_goals rw [same.components]
  · intro component member
    rw [same.externalPositionModules]
    exact redeemable.internal component member
  · intro component member
    unfold SetToken.defaultPositionVirtualUnit
    rw [same.componentPositions, same.positionMultiplier]
    exact redeemable.readable component member
  · intro component member
    rw [same.defaultRealUnit]
    exact (Nat.mul_le_mul_right _ fewer).trans_lt (redeemable.product component member)
  · rw [redeemed.address]
    exact sound

/-- A holder who redeems succeeds, is paid the share of every component, and leaves the Set as
redeemable as it was. -/
theorem Redeemable.redeem (redeemable : module.Redeemable world) (positive : 0 < quantity)
    (senderNonzero : sender ≠ 0) (other : sender ≠ world.setToken.address)
    (recipientNonzero : recipient ≠ 0) (outside : recipient ≠ world.setToken.address)
    (enough : quantity ≤ world.setToken.balanceOf sender) :
    ∃ next, module.redeem sender quantity recipient world = .ok next ∧
      Redeemed sender recipient quantity world next ∧ module.Redeemable next := by
  have distinct := redeemable.bookkeeping.components.nodup
  obtain ⟨next, releasing, pays⟩ := release_all world.setToken.components distinct
    (burned sender quantity world) redeemable.privileged redeemable.address recipientNonzero
    outside fun component member => redeemable.payable_burned other enough member
  have returned : module.redeem sender quantity recipient world = .ok next := by
    simp only [BasicIssuanceModule.redeem, bind_eq_ok, require_eq_ok, exists_const,
      ModuleBase.validateOnlyValidAndInitializedSet_eq_ok]
    exact ⟨⟨redeemable.valid, redeemable.privileged.1.1⟩, positive, _,
      redeemable.burn senderNonzero enough, releasing⟩
  have redeemed : Redeemed sender recipient quantity world next :=
    redeemed_of_pays other (redeemable.soundSet.within.single sender) enough pays
  refine ⟨next, returned, redeemed, redeemable.after redeemed ?_ (fun token member => ?_) ?_⟩
  · exact pays.only.privileged redeemable.privileged
  · exact pays.sound token (redeemable.sound_burned enough member)
  · exact Fund.solvent_of_steps preciseUnit_int_pos.le
      (redeem_accounted other distinct returned).steps redeemable.solvent

end Redeeming

/-! ### Everyone leaves -/

structure RedeemRequest where
  sender : Address
  recipient : Address
  quantity : Nat

/-- Some tokens are redeemed, and neither party is the zero address or the Set. -/
structure RedeemRequest.Proper (setToken : Address) (request : RedeemRequest) : Prop where
  positive : 0 < request.quantity
  senderNonzero : request.sender ≠ 0
  senderOutside : request.sender ≠ setToken
  recipientNonzero : request.recipient ≠ 0
  recipientOutside : request.recipient ≠ setToken

/-- What an account redeems in all the requests. -/
def requested (requests : List RedeemRequest) (account : Address) : Nat :=
  (requests.map fun request => if account = request.sender then request.quantity else 0).sum

/-- The shares of a component that an account is paid in all the requests. -/
def entitled (setToken : SetToken) (requests : List RedeemRequest)
    (component account : Address) : Nat :=
  (requests.map fun request =>
    if account = request.recipient then setToken.share request.quantity component else 0).sum

/-- One redemption after the other. -/
def redeemAll (module : BasicIssuanceModule) (requests : List RedeemRequest) (world : World) :
    Outcome World :=
  requests.foldlM (fun reached request =>
    module.redeem request.sender request.quantity request.recipient reached) world

/-- From a redeemable Set, any requests that their senders hold the tokens for all succeed, in
whatever order they come. The Set stays redeemable, and pays every recipient its shares and no
one else anything. -/
theorem everyone_redeems {module : BasicIssuanceModule} (requests : List RedeemRequest) :
    ∀ start : World, module.Redeemable start →
      (∀ request ∈ requests, request.Proper start.setToken.address) →
      (∀ account, account ≠ start.setToken.address →
        requested requests account ≤ start.setToken.balanceOf account) →
      ∃ final, module.redeemAll requests start = .ok final ∧ module.Redeemable final ∧
        SetToken.SamePositions start.setToken final.setToken ∧
        final.setToken.totalSupply + (requests.map RedeemRequest.quantity).sum =
          start.setToken.totalSupply ∧
        ∀ component ∈ start.setToken.components,
          final.held component + (requests.map fun request =>
            start.setToken.share request.quantity component).sum = start.held component ∧
          (component ≠ start.setToken.address →
            ∀ account, account ≠ start.setToken.address →
              final.balanceOf component account = start.balanceOf component account +
                entitled start.setToken requests component account) := by
  induction requests with
  | nil =>
    intro start redeemable _ _
    exact ⟨start, rfl, redeemable, ⟨rfl, rfl, rfl⟩, rfl,
      fun _ _ => ⟨rfl, fun _ _ _ => rfl⟩⟩
  | cons request rest inductionHypothesis =>
    intro start redeemable proper affordable
    obtain ⟨positive, senderNonzero, senderOutside, recipientNonzero, recipientOutside⟩ :=
      proper request List.mem_cons_self
    have enough : request.quantity ≤ start.setToken.balanceOf request.sender := by
      have all := affordable request.sender senderOutside
      rw [requested, List.map_cons, List.sum_cons, if_pos rfl] at all
      exact (Nat.le_add_right _ _).trans all
    obtain ⟨middle, returned, redeemed, kept⟩ := redeemable.redeem positive senderNonzero
      senderOutside recipientNonzero recipientOutside enough
    have restAffordable : ∀ account, account ≠ middle.setToken.address →
        requested rest account ≤ middle.setToken.balanceOf account := by
      intro account outside
      rw [redeemed.address] at outside
      have all := affordable account outside
      have spent := redeemed.spent account outside
      rw [requested, List.map_cons, List.sum_cons] at all
      unfold requested
      omega
    obtain ⟨final, redeeming, finalKept, positions, supply, paid⟩ := inductionHypothesis middle
      kept (fun other member => redeemed.address ▸ proper other (List.mem_cons_of_mem _ member))
      restAffordable
    have shares : ∀ quantity component, middle.setToken.share quantity component =
        start.setToken.share quantity component := by
      intro quantity component
      unfold SetToken.share
      rw [redeemed.positions.defaultRealUnit]
    refine ⟨final, ?_, finalKept, redeemed.positions.trans positions, ?_,
      fun component member => ?_⟩
    · rw [redeemAll, List.foldlM_cons, bind_eq_ok]
      exact ⟨middle, returned, redeeming⟩
    · have before := redeemed.supply
      rw [List.map_cons, List.sum_cons]
      omega
    · obtain ⟨held, received⟩ := paid component (redeemed.positions.components ▸ member)
      simp only [entitled, shares] at held received
      refine ⟨?_, fun notSet account outside => ?_⟩
      · have before := redeemed.held component member
        rw [List.map_cons, List.sum_cons]
        omega
      · rw [received (redeemed.address ▸ notSet) account (redeemed.address ▸ outside),
          redeemed.received component member notSet account outside, entitled, List.map_cons,
          List.sum_cons, Nat.add_assoc]

/-- A Set at address 2 with two holders, which holds a unit of token 3 for each token of it. -/
def sampleHolders : World where
  timestamp := 0
  controller := { sampleController with isInitialized := true, isSet := fun account =>
    account = 2 }
  setToken :=
    { SetToken.construct 2 [3] [10 ^ 18] [4] 5 with
      totalSupply := 2 * 10 ^ 18
      balanceOf := Function.update (Function.update (fun _ => 0) 6 (10 ^ 18)) 7 (10 ^ 18)
      moduleStates := fun account => if account = 4 then .initialized else .none }
  tokens := fun _ =>
    { totalSupply := 2 * 10 ^ 18
      balanceOf := Function.update (fun _ => 0) 2 (2 * 10 ^ 18)
      allowance := fun _ _ => 0 }

theorem sampleHolders_redeemable : (⟨4, 0⟩ : BasicIssuanceModule).Redeemable sampleHolders where
  valid := by decide
  privileged := ⟨by decide, by decide⟩
  address := by decide
  bookkeeping := (PositionBookkeeping.create sampleController_create).congr ⟨rfl, rfl, rfl⟩
  internal component member := by
    obtain rfl := List.mem_singleton.mp member
    rfl
  readable component member := by
    obtain rfl := List.mem_singleton.mp member
    decide
  product component member := by
    obtain rfl := List.mem_singleton.mp member
    decide
  solvent component member := by
    obtain rfl := List.mem_singleton.mp member
    decide
  sound := by
    rintro token (rfl | member)
    · rw [World.token, if_pos rfl]
      have within := ((Holdings.within_zero 0).mint (6 : Address) (10 ^ 18)).mint 7 (10 ^ 18)
      exact ⟨by simpa [sampleHolders] using within, by decide⟩
    · obtain rfl := List.mem_singleton.mp member
      rw [World.token, if_neg (by decide)]
      have within := (Holdings.within_zero 0).mint (2 : Address) (2 * 10 ^ 18)
      exact ⟨by simpa [sampleHolders] using within, by decide⟩

/-- Both holders leave, one of them in two steps and to another account. -/
def sampleRequests : List RedeemRequest :=
  [⟨6, 6, 5 * 10 ^ 17⟩, ⟨7, 7, 10 ^ 18⟩, ⟨6, 8, 5 * 10 ^ 17⟩]

theorem everyone_redeems_sample :
    ∃ final, (⟨4, 0⟩ : BasicIssuanceModule).redeemAll sampleRequests sampleHolders = .ok final ∧
      final.setToken.totalSupply = 0 ∧ final.balanceOf 3 8 = 5 * 10 ^ 17 := by
  have proper : ∀ request ∈ sampleRequests, request.Proper sampleHolders.setToken.address := by
    intro request member
    simp only [sampleRequests, List.mem_cons, List.not_mem_nil, or_false] at member
    rcases member with rfl | rfl | rfl <;>
      exact ⟨by decide, by decide, by decide, by decide, by decide⟩
  have affordable : ∀ account, account ≠ sampleHolders.setToken.address →
      requested sampleRequests account ≤ sampleHolders.setToken.balanceOf account := by
    intro account _
    by_cases seventh : account = 7
    · subst seventh
      decide
    · by_cases sixth : account = 6
      · subst sixth
        decide
      · simp only [requested, sampleRequests, List.map_cons, List.map_nil, List.sum_cons,
          List.sum_nil, if_neg seventh, if_neg sixth]
        exact Nat.zero_le _
  obtain ⟨final, returned, _, _, supply, paid⟩ := everyone_redeems sampleRequests sampleHolders
    sampleHolders_redeemable proper affordable
  refine ⟨final, returned, ?_, ?_⟩
  · exact Nat.add_eq_right.mp supply
  · have received := (paid 3 (by decide)).2 (by decide) 8 (by decide)
    exact received

end BasicIssuanceModule

end IndexProtocol
