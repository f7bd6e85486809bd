/-
This file proves when the airdrop module charges its fee once on what is
airdropped. Absorbing writes the position down to a whole unit per Set token,
so that some of the balance is left untracked, and the next absorption counts it
as airdropped again. The fees of a run are within the rate on everything
airdropped as long as what was left over does not raise the fee of any later
absorption, and an absorption that directly follows another one charges nothing
exactly when the fee on what was left over is less than one token.
-/

import IndexProtocol.Library.Charging
import IndexProtocol.Modules.AirdropModule
import IndexProtocol.Protocol.PositionBookkeeping

namespace IndexProtocol

open Revert PreciseUnitMath

namespace AirdropModule

variable {module : AirdropModule} {msgSender token : Address} {world next : World}

/-! ### One absorption -/

/-- What a Set holds of a token beyond its default position. -/
def untrackedBalance (token : Address) (world : World) : Nat :=
  world.held token -
    Rounding.mulFloor preciseUnit world.setToken.totalSupply
      (world.setToken.defaultRealUnit token).toNat

/-- The fee that an absorption takes. -/
def feeOn (module : AirdropModule) (amount : Nat) : Nat :=
  Rounding.mulFloor preciseUnit amount module.airdropSettings.airdropFee

@[simp] theorem feeOn_zero (module : AirdropModule) : module.feeOn 0 = 0 := by
  unfold feeOn Rounding.mulFloor
  rw [zero_mul, Nat.zero_div]

theorem feeOn_eq_zero_iff (module : AirdropModule) (amount : Nat) :
    module.feeOn amount = 0 ↔ amount * module.airdropSettings.airdropFee < preciseUnit := by
  unfold feeOn Rounding.mulFloor
  rw [Nat.div_eq_zero_iff, or_iff_right preciseUnit_pos.ne']

/-- Where something is untracked, the fee on it leaves the Set and the position is written to
what is left; otherwise nothing happens. -/
theorem absorb_cases (returned : module.absorb msgSender token world = .ok next) :
    (untrackedBalance token world = 0 ∧ next = world) ∨
      0 < untrackedBalance token world ∧ ∃ paid, World.OnlyBalances world paid ∧
        (module.feeOn (untrackedBalance token world) = 0 → paid = world) ∧
        module.feeOn (untrackedBalance token world) ≤ world.held token ∧
        paid.held token = world.held token - module.feeOn (untrackedBalance token world) ∧
        Position.editDefaultPosition ⟨paid.controller, module.address⟩ token
          (paid.held token * preciseUnit / world.setToken.totalSupply) paid.setToken =
            .ok next.setToken ∧
        next = { paid with setToken := next.setToken } := by
  simp only [absorb, absorbInternal, handleAirdropPosition, Position.getDefaultTrackedBalance,
    bind_eq_ok, SetToken.getDefaultPositionRealUnit_eq_ok, SafeCast.toUint256_eq_ok,
    preciseMul_eq_ok, SafeMath.sub_eq_ok] at returned
  obtain ⟨_, _, _, _, _, _, _, ⟨_, ⟨_, rfl⟩, unit, read, _, rfl⟩, _, ⟨_, rfl⟩, handled⟩ := returned
  have untracked : untrackedBalance token world = world.held token -
      Rounding.mulFloor preciseUnit world.setToken.totalSupply unit := by
    unfold untrackedBalance
    rw [read, Int.toNat_natCast]
  rw [← untracked] at handled
  split at handled
  · rename_i some
    simp only [bind_eq_ok, Prod.exists, getPostAirdropUnit, Position.getDefaultPositionUnit,
      SafeMath.sub_eq_ok, preciseDiv_eq_ok] at handled
    obtain ⟨paid, _, _, totalFees, charged, newUnit, ⟨_, ⟨_, rfl⟩, _, _, rfl⟩, edited⟩ := handled
    obtain ⟨only, rfl, enough, left⟩ := handleFees_eq_ok charged
    obtain ⟨edited, stored⟩ := World.callSetToken_eq_ok edited
    rw [only.totalSupply, ← left] at edited
    refine Or.inr ⟨some, paid, only, fun none => ?_, enough, left, edited, stored⟩
    rw [show Rounding.mulFloor preciseUnit _ module.airdropSettings.airdropFee = 0 from none]
      at charged
    exact handleFees_none charged
  · rename_i none
    exact Or.inl ⟨Nat.eq_zero_of_not_pos none, ((pure_eq_ok _ _).mp handled).symm⟩

/-- An edit of a default position moves no token, and stores the unit converted at the
multiplier. -/
theorem edited_stored {call : Call} {newUnit : Nat} {paid : World}
    (edited : Position.editDefaultPosition call token newUnit paid.setToken = .ok next.setToken)
    (stored : next = { paid with setToken := next.setToken }) :
    next.tokens = paid.tokens ∧ next.setToken.toERC20 = paid.setToken.toERC20 ∧
      next.setToken.positionMultiplier = paid.setToken.positionMultiplier ∧
      next.held = paid.held ∧
      paid.setToken.convertRealToVirtualUnit newUnit =
        .ok (next.setToken.defaultPositionVirtualUnit token) := by
  obtain ⟨_, converted⟩ := Position.editDefaultPosition_converted edited
  obtain ⟨_, _, _, _, _, _, _, written⟩ := Position.editDefaultPosition_eq_ok edited
  rw [written] at stored
  obtain rfl := stored
  exact ⟨rfl, rfl, rfl, rfl, converted⟩

/-- The fee is what leaves the Set, and the supply and the multiplier stay. -/
theorem absorb_held (returned : module.absorb msgSender token world = .ok next) :
    module.feeOn (untrackedBalance token world) ≤ world.held token ∧
      next.held token = world.held token - module.feeOn (untrackedBalance token world) := by
  rcases absorb_cases returned with ⟨none, rfl⟩ | ⟨_, paid, _, _, enough, left, edited, stored⟩
  · rw [none, feeOn_zero]
    exact ⟨Nat.zero_le _, rfl⟩
  · obtain ⟨_, _, _, held, _⟩ := edited_stored edited stored
    rw [held]
    exact ⟨enough, left⟩

/-! ### Two absorptions in a row -/

/-- No token was transferred, and the unit of the one is what it was. -/
structure LeavesHoldings (token : Address) (world next : World) : Prop where
  tokens : next.tokens = world.tokens
  toERC20 : next.setToken.toERC20 = world.setToken.toERC20
  unit : next.setToken.defaultRealUnit token = world.setToken.defaultRealUnit token

/-- After an absorption the position is written to what is held, or all of it is tracked. -/
theorem absorb_settles (returned : module.absorb msgSender token world = .ok next) :
    untrackedBalance token next = 0 ∨
      next.setToken.convertRealToVirtualUnit
        (next.held token * preciseUnit / next.setToken.totalSupply : Nat) =
          .ok (next.setToken.defaultPositionVirtualUnit token) := by
  rcases absorb_cases returned with ⟨none, rfl⟩ | ⟨_, paid, only, _, _, _, edited, stored⟩
  · exact Or.inl none
  · obtain ⟨_, same, multiplier, held, converted⟩ := edited_stored edited stored
    have supply : next.setToken.totalSupply = world.setToken.totalSupply :=
      (congrArg ERC20.totalSupply same).trans only.totalSupply
    refine Or.inr ?_
    rw [held, supply, ← converted]
    unfold SetToken.convertRealToVirtualUnit SetToken.convertVirtualToRealUnit
    rw [multiplier]

/-- A second absorption takes the fee on what the first left over. Where that is less than one
token it transfers nothing and leaves the unit as it is. -/
theorem absorb_absorb {first second : Address} {middle after : World}
    (absorbed : module.absorb first token world = .ok middle)
    (again : module.absorb second token middle = .ok after) :
    (after.held token = middle.held token ↔
      untrackedBalance token middle * module.airdropSettings.airdropFee < preciseUnit) ∧
    (untrackedBalance token middle * module.airdropSettings.airdropFee < preciseUnit →
      LeavesHoldings token middle after) := by
  obtain ⟨enough, left⟩ := absorb_held again
  rw [← feeOn_eq_zero_iff]
  refine ⟨⟨fun same => by omega, fun none => by omega⟩, fun none => ?_⟩
  rcases absorb_cases again with ⟨_, rfl⟩ | ⟨some, paid, _, unpaid, _, _, edited, stored⟩
  · exact ⟨rfl, rfl, rfl⟩
  · obtain rfl := unpaid none
    obtain ⟨tokens, same, multiplier, _, converted⟩ := edited_stored edited stored
    have settled := (absorb_settles absorbed).resolve_left some.ne'
    refine ⟨tokens, same, ?_⟩
    unfold SetToken.defaultRealUnit SetToken.realUnit
    rw [multiplier, Except.ok.inj (converted.symm.trans settled)]

/-! ### Runs of airdrops and absorptions -/

end AirdropModule

inductive AirdropAction
  | airdrop (donor : Address) (quantity : Nat)
  | absorb (msgSender : Address)

/-- The world, with the total that was airdropped, the total of the fees, and what the last
absorption left untracked. -/
structure AirdropLedger where
  world : World
  airdropped : Nat
  fees : Nat
  leftover : Nat

namespace AirdropLedger

/-- What is untracked at the start counts as airdropped. -/
def opened (token : Address) (world : World) : AirdropLedger :=
  ⟨world, AirdropModule.untrackedBalance token world, 0, 0⟩

/-- An airdrop is a transfer to the Set. What leaves the Set in an absorption is its fees. -/
def apply (module : AirdropModule) (token : Address) (ledger : AirdropLedger) :
    AirdropAction → Outcome AirdropLedger
  | .airdrop donor quantity => do
    let world ← ledger.world.callToken token fun airdrop =>
      airdrop.transfer donor ledger.world.setToken.address quantity
    pure { ledger with
      world := world
      airdropped := ledger.airdropped + (world.held token - ledger.world.held token) }
  | .absorb msgSender => do
    let world ← module.absorb msgSender token ledger.world
    pure { ledger with
      world := world
      fees := ledger.fees + (ledger.world.held token - world.held token)
      leftover := AirdropModule.untrackedBalance token world }

/-- The fees, with what is untracked beyond what was left over as pending. -/
def account (token : Address) (ledger : AirdropLedger) : Charging.Account :=
  ⟨ledger.airdropped, ledger.fees,
    AirdropModule.untrackedBalance token ledger.world - ledger.leftover⟩

/-- What was left over does not raise the fee of the absorption. -/
def ChargesNew (module : AirdropModule) (token : Address) (ledger : AirdropLedger) :
    AirdropAction → Prop
  | .airdrop _ _ => True
  | .absorb _ =>
    module.feeOn (AirdropModule.untrackedBalance token ledger.world) =
      module.feeOn (AirdropModule.untrackedBalance token ledger.world - ledger.leftover)

variable {module : AirdropModule} {token : Address} {ledger next : AirdropLedger}

/-- An airdrop raises what is untracked by at most what the Set receives. -/
theorem airdrop_untracked {donor : Address} {quantity : Nat} {before after : World}
    (returned : before.callToken token (fun airdrop =>
      airdrop.transfer donor before.setToken.address quantity) = .ok after) :
    AirdropModule.untrackedBalance token after ≤
      AirdropModule.untrackedBalance token before + (after.held token - before.held token) := by
  obtain ⟨moved, transferred, stored⟩ := World.callToken_eq_ok returned
  obtain ⟨_, written⟩ := ERC20.move_eq_ok transferred
  have only : World.OnlyBalances before after := by
    rw [stored]
    exact World.onlyBalances_storeToken _ _ (by rw [written])
  unfold AirdropModule.untrackedBalance
  rw [only.totalSupply, only.defaultRealUnit]
  omega

theorem apply_within
    (within : Charging.Within preciseUnit module.airdropSettings.airdropFee
      (ledger.account token))
    {action : AirdropAction} (new : ledger.ChargesNew module token action)
    (returned : ledger.apply module token action = .ok next) :
    Charging.Within preciseUnit module.airdropSettings.airdropFee (next.account token) := by
  cases action with
  | airdrop donor quantity =>
    simp only [apply, bind_eq_ok, pure_eq_ok] at returned
    obtain ⟨after, transferred, rfl⟩ := returned
    refine within.receive ?_
    have raised := airdrop_untracked transferred
    show AirdropModule.untrackedBalance token after - ledger.leftover ≤
      AirdropModule.untrackedBalance token ledger.world - ledger.leftover + _
    omega
  | absorb msgSender =>
    simp only [apply, bind_eq_ok, pure_eq_ok] at returned
    obtain ⟨after, absorbed, rfl⟩ := returned
    obtain ⟨enough, left⟩ := AirdropModule.absorb_held absorbed
    have charged : ledger.world.held token - after.held token =
        module.feeOn (AirdropModule.untrackedBalance token ledger.world - ledger.leftover) := by
      rw [← new]
      omega
    have least : (ledger.world.held token - after.held token) * preciseUnit ≤
        module.airdropSettings.airdropFee * (ledger.account token).pending := by
      rw [charged, mul_comm module.airdropSettings.airdropFee]
      exact Rounding.mulFloor_mul_le _ _ _
    have charge := within.charge least
    unfold account
    rw [Nat.sub_self]
    exact charge

/-- In every run of airdrops and absorptions of a token, from any Set and at any fee: if what was
left over raises the fee of no absorption, the fees of the run are within the fee on everything
airdropped, and an absorption that directly follows another one transfers nothing and leaves the
unit as it is. Of any two absorptions in a row, the second transfers nothing exactly when the fee
on what the first left over is less than one token. -/
theorem fees_charged_once (module : AirdropModule) (token : Address) (world : World)
    (actions : List AirdropAction) :
    ((∀ front action next, front ++ [action] <+: actions →
        apply module token (run (apply module token) (opened token world) front) action =
            .ok next →
          ChargesNew module token (run (apply module token) (opened token world) front) action) →
      ∀ front, front <+: actions →
        (run (apply module token) (opened token world) front).fees * preciseUnit ≤
            module.airdropSettings.airdropFee *
              (run (apply module token) (opened token world) front).airdropped ∧
          ∀ first second middle after, front ++ [.absorb first, .absorb second] <+: actions →
            apply module token (run (apply module token) (opened token world) front)
                (.absorb first) = .ok middle →
              apply module token middle (.absorb second) = .ok after →
                AirdropModule.LeavesHoldings token middle.world after.world) ∧
    ∀ before first second middle after, module.absorb first token before = .ok middle →
      module.absorb second token middle = .ok after →
        (after.held token = middle.held token ↔
          AirdropModule.untrackedBalance token middle * module.airdropSettings.airdropFee <
            preciseUnit) ∧
        (AirdropModule.untrackedBalance token middle * module.airdropSettings.airdropFee <
            preciseUnit → AirdropModule.LeavesHoldings token middle after) := by
  refine ⟨fun met front within => ⟨?_, ?_⟩, fun _ _ _ _ _ => AirdropModule.absorb_absorb⟩
  · refine (run_invariant_of_met (apply module token)
      (fun ledger => Charging.Within preciseUnit module.airdropSettings.airdropFee
        (ledger.account token)) (ChargesNew module token)
      (fun _ _ _ within new returned => apply_within within new returned) ?_ met front
      within).charged_le
    exact Charging.within_uncharged (Nat.sub_le _ _)
  · intro first second middle after following absorbed again
    have reached : run (apply module token) (opened token world) (front ++ [.absorb first]) =
        middle := by
      rw [run_append, run_cons, run_nil, attempt_eq_of_ok _ absorbed]
    have new := met (front ++ [.absorb first]) (.absorb second) after
      (by rwa [List.append_assoc]) (by rwa [reached])
    rw [reached] at new
    simp only [apply, bind_eq_ok, pure_eq_ok] at absorbed again
    obtain ⟨_, absorbed, rfl⟩ := absorbed
    obtain ⟨_, again, rfl⟩ := again
    refine (AirdropModule.absorb_absorb absorbed again).2 ?_
    rw [← AirdropModule.feeOn_eq_zero_iff]
    refine Eq.trans new ?_
    rw [Nat.sub_self, AirdropModule.feeOn_zero]

/-! ### A sample airdrop -/

/-- A fee of one half on token 3. -/
def sampleAirdrops : AirdropModule where
  address := 4
  airdropSettings :=
    { airdrops := [3], feeRecipient := 10, airdropFee := 5 * 10 ^ 17, anyoneAbsorb := true }
  isAirdrop := fun token => token = 3

/-- A Set of the given supply without positions, and account 7 with a hundred of every token. -/
def sampleAirdropWorld (supply : Nat) : World where
  timestamp := 0
  controller := { sampleController with isSet := fun _ => true }
  setToken :=
    { SetToken.construct 2 [] [] [4] 5 with
      totalSupply := supply
      moduleStates := fun _ => .initialized }
  tokens := fun _ =>
    { totalSupply := 100, balanceOf := fun account => if account = 7 then 100 else 0,
      allowance := fun _ _ => 0 }

/-- Nine tokens are airdropped and absorbed, and absorbed again. -/
def sampleAbsorptions : List AirdropAction :=
  [.airdrop 7 9, .absorb 5, .absorb 5]

/-- With one Set token the five tokens left after a fee of four are all tracked. -/
theorem fees_charged_once_sample :
    let reached := run (apply sampleAirdrops 3) (opened 3 (sampleAirdropWorld (10 ^ 18)))
      sampleAbsorptions
    reached.fees = 4 ∧ reached.fees * preciseUnit ≤ 5 * 10 ^ 17 * reached.airdropped := by
  refine ⟨by decide +kernel, ((fees_charged_once sampleAirdrops 3
    (sampleAirdropWorld (10 ^ 18)) sampleAbsorptions).1 ?_ _ (List.prefix_refl _)).1⟩
  intro front action next within _
  rcases front with _ | ⟨first, _ | ⟨second, _ | ⟨third, rest⟩⟩⟩
  · obtain ⟨rfl, _⟩ := List.cons_prefix_cons.mp within
    trivial
  · obtain ⟨rfl, rfl⟩ : first = .airdrop 7 9 ∧ action = .absorb 5 := by
      simpa [sampleAbsorptions] using within
    show _ = _
    decide +kernel
  · obtain ⟨rfl, rfl, rfl⟩ : first = .airdrop 7 9 ∧ second = .absorb 5 ∧ action = .absorb 5 := by
      simpa [sampleAbsorptions] using within
    show _ = _
    decide +kernel
  · have length := within.length_le
    simp only [sampleAbsorptions, List.length_append, List.length_cons, List.length_nil] at length
    omega

/-- With ten Set tokens the five tokens left after a fee of four are less than one for each, so
none is tracked, and absorbing again takes two of them. -/
theorem fees_charged_twice :
    ¬∀ (module : AirdropModule) (token : Address) (world : World) (actions : List AirdropAction),
      0 < world.setToken.totalSupply → 0 < world.setToken.positionMultiplier →
        module.airdropSettings.airdropFee ≤ preciseUnit →
          (run (apply module token) (opened token world) actions).fees * preciseUnit ≤
            module.airdropSettings.airdropFee *
              (run (apply module token) (opened token world) actions).airdropped := by
  intro always
  have within := always sampleAirdrops 3 (sampleAirdropWorld (10 ^ 19)) sampleAbsorptions
    (by decide) (by decide) (by decide)
  exact absurd within (by decide +kernel)

end AirdropLedger

end IndexProtocol
