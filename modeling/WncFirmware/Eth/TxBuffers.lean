import WncFirmware.Foundation.Bytes
import WncFirmware.Foundation.HandOver
import WncFirmware.Foundation.Runs

/-!
# Transmit buffers of the Ethernet driver

`gd32f20x_eth.c`: the semaphore `tx_buf_free` counts the descriptors that the
DMA does not own.  A token comes back with each interrupt, and not with each
frame, and never when the network is restarted.
-/

namespace WncFirmware.Eth

open WncFirmware.Foundation

def ethTxbufnb : Nat := 4

def ethDmatxdescBusy : UInt32 := 0x80000000
def ethDmatxdescIntc : UInt32 := 0x40000000
def ethDmatxdescLsg : UInt32 := 0x20000000
def ethDmatxdescFsg : UInt32 := 0x10000000
def ethDmatxdescTchm : UInt32 := 0x00100000
def ethDmatxdescTb1s : UInt32 := 0x00001fff

structure TxDesc where
  status : UInt32
  controlBufferSize : UInt32
  buffer : Bytes

def TxDesc.busy (desc : TxDesc) : Bool := desc.status &&& ethDmatxdescBusy != 0

/--
The chain of descriptors, the one that the driver fills next and the one that
the DMA sends next, the semaphore, and the bit `ETH_DMA_INT_T` of the status.
-/
structure EthState where
  dmaTxDscrTab : Nat → TxDesc
  dmaCurrentTxDesc : Nat
  dmaTxDesc : Nat
  txBufFree : Nat
  dmaIntT : Bool

/-! ## The steps -/

def EthState.setDesc (eth : EthState) (place : Nat) (desc : TxDesc) :
    Nat → TxDesc :=
  fun other => if other = place then desc else eth.dmaTxDscrTab other

def TxDesc.fill (desc : TxDesc) (payloads : List Bytes) : TxDesc where
  buffer :=
    payloads.flatten ++ desc.buffer.drop payloads.flatten.length
  controlBufferSize :=
    UInt32.ofNat payloads.flatten.length &&& ethDmatxdescTb1s
  status := desc.status ||| (ethDmatxdescLsg ||| ethDmatxdescFsg) |||
    ethDmatxdescIntc ||| ethDmatxdescBusy

def rtGd32EthTx (eth : EthState) (payloads : List Bytes) : Bool × EthState :=
  if eth.txBufFree = 0 then (false, eth)
  else
    let place := eth.dmaCurrentTxDesc
    (true, { eth with
      txBufFree := eth.txBufFree - 1
      dmaTxDscrTab :=
        eth.setDesc place ((eth.dmaTxDscrTab place).fill payloads)
      dmaCurrentTxDesc := nextPlace ethTxbufnb place })

def frameCompleted (eth : EthState) : Option EthState :=
  let desc := eth.dmaTxDscrTab eth.dmaTxDesc
  if desc.busy then
    some { eth with
      dmaTxDscrTab := eth.setDesc eth.dmaTxDesc
        { desc with status := desc.status &&& ~~~ethDmatxdescBusy }
      dmaTxDesc := nextPlace ethTxbufnb eth.dmaTxDesc
      dmaIntT := true }
  else none

def ethIrqHandler (eth : EthState) : EthState :=
  if eth.dmaIntT then
    { eth with txBufFree := eth.txBufFree + 1, dmaIntT := false }
  else eth

def ethDmaTxDescChainModeInit (eth : EthState) : EthState :=
  { eth with
    dmaTxDscrTab := fun place =>
      { eth.dmaTxDscrTab place with status := ethDmatxdescTchm }
    dmaCurrentTxDesc := 0
    dmaTxDesc := 0 }

/-- `rt_gd32_eth_init` resets the DMA, which clears its status. -/
def networkRestart (eth : EthState) : EthState :=
  { ethDmaTxDescChainModeInit eth with dmaIntT := false }

inductive EthInput where
  | tx (payloads : List Bytes)
  | complete
  | irq
  | restart

def ethStep (eth : EthState) : EthInput → Option EthState
  | .tx payloads => some (rtGd32EthTx eth payloads).2
  | .complete => frameCompleted eth
  | .irq => some (ethIrqHandler eth)
  | .restart => some (networkRestart eth)

def EthState.start : EthState :=
  networkRestart
    { dmaTxDscrTab := fun _ => ⟨0, 0, []⟩
      dmaCurrentTxDesc := 0
      dmaTxDesc := 0
      txBufFree := ethTxbufnb
      dmaIntT := false }

/-! ## Tokens and free descriptors -/

def EthState.busy (eth : EthState) (place : Nat) : Bool :=
  (eth.dmaTxDscrTab place).busy

def EthState.freeDescs (eth : EthState) : Nat := freePlaces ethTxbufnb eth.busy

def EthState.pending (eth : EthState) : Nat := eth.dmaIntT.toNat

/-- `lost` descriptors are free without a token. -/
structure Balance (eth : EthState) (lost : Nat) : Prop where
  chain : ∃ count, TakenFrom ethTxbufnb count eth.dmaTxDesc
    eth.dmaCurrentTxDesc eth.busy
  tokens : eth.txBufFree + eth.pending + lost = eth.freeDescs

/-- No frame completes on top of another one, and no restart meets a frame on
its way. -/
def Keeps (eth : EthState) : EthInput → Prop
  | .tx _ | .irq => True
  | .complete => eth.dmaIntT = false
  | .restart =>
      eth.dmaIntT = false ∧ ∀ place < ethTxbufnb, eth.busy place = false

def StepBalanced (eth : EthState) (input : EthInput) (lost : Nat)
    (next : EthState) : Prop :=
  ∃ after, Balance next after ∧ lost ≤ after ∧
    (after = lost ↔ Keeps eth input)

theorem busy_fill (desc : TxDesc) (payloads : List Bytes) :
    (desc.fill payloads).busy = true := by
  have hset (status : UInt32) : (status ||| ethDmatxdescBusy) &&&
      ethDmatxdescBusy = ethDmatxdescBusy := by
    apply UInt32.toBitVec_inj.mp
    simp only [UInt32.toBitVec_and, UInt32.toBitVec_or]
    ext place
    simp only [BitVec.getElem_and, BitVec.getElem_or]
    grind
  simp only [TxDesc.busy, TxDesc.fill, hset]
  decide

theorem busy_released (desc : TxDesc) :
    TxDesc.busy { desc with status := desc.status &&& ~~~ethDmatxdescBusy } =
      false := by
  have hcleared : ~~~ethDmatxdescBusy &&& ethDmatxdescBusy = 0 := by decide
  simp [TxDesc.busy, UInt32.and_assoc, hcleared]

theorem busy_setDesc_true (eth : EthState) (place : Nat) {desc : TxDesc}
    (h : desc.busy = true) :
    (fun other => (eth.setDesc place desc other).busy) =
      fun other => other == place || eth.busy other := by
  funext other
  by_cases hother : other = place
  · simp [EthState.setDesc, hother, h]
  · simp [EthState.setDesc, EthState.busy, hother]

theorem busy_setDesc_false (eth : EthState) (place : Nat) {desc : TxDesc}
    (h : desc.busy = false) :
    (fun other => (eth.setDesc place desc other).busy) =
      fun other => other != place && eth.busy other := by
  funext other
  by_cases hother : other = place
  · simp [EthState.setDesc, hother, h]
  · simp [EthState.setDesc, EthState.busy, hother]

theorem busy_networkRestart (eth : EthState) :
    (networkRestart eth).busy = fun _ => false := by
  have hinit : (ethDmatxdescTchm &&& ethDmatxdescBusy != 0) = false := by decide
  exact funext fun _ => hinit

/-! ## One step -/

theorem balanced_tx {eth : EthState} {lost : Nat} (h : Balance eth lost)
    (payloads : List Bytes) :
    StepBalanced eth (.tx payloads) lost (rtGd32EthTx eth payloads).2 := by
  unfold rtGd32EthTx
  split
  case isTrue => exact ⟨lost, h, Nat.le_refl lost, by simp [Keeps]⟩
  case isFalse htoken =>
    obtain ⟨count, hchain⟩ := h.chain
    have htokens := h.tokens
    obtain ⟨place, hplace, hfree⟩ :=
      @exists_free_of_pos ethTxbufnb eth.busy (by
        rw [← EthState.freeDescs, ← htokens]
        omega)
    have hnext := hchain.next_free hplace hfree
    have hbusy := busy_setDesc_true eth eth.dmaCurrentTxDesc
      (busy_fill (eth.dmaTxDscrTab eth.dmaCurrentTxDesc) payloads)
    have hcount := freePlaces_take hchain.next_lt hnext
    refine ⟨lost, ⟨⟨count + 1, ?_⟩, ?_⟩, Nat.le_refl lost, by simp [Keeps]⟩
    · have hgiven := hchain.give hnext
      rw [← hbusy] at hgiven
      exact hgiven
    · rw [← hbusy] at hcount
      change eth.txBufFree - 1 + eth.pending + lost =
        freePlaces ethTxbufnb fun other => (eth.setDesc _ _ other).busy
      rw [EthState.freeDescs] at htokens
      omega

theorem balanced_complete {eth next : EthState} {lost : Nat}
    (h : Balance eth lost) (hstep : frameCompleted eth = some next) :
    StepBalanced eth .complete lost next := by
  dsimp only [frameCompleted] at hstep
  split at hstep
  case isFalse => cases hstep
  case isTrue hsent =>
    obtain rfl := Option.some.inj hstep
    obtain ⟨count, hchain⟩ := h.chain
    have htokens := h.tokens
    have hbusy := busy_setDesc_false eth eth.dmaTxDesc
      (busy_released (eth.dmaTxDscrTab eth.dmaTxDesc))
    have htaken : eth.busy eth.dmaTxDesc = true := hsent
    have hgiven := hchain.giveBack htaken
    have hcount := freePlaces_giveBack hchain.back_lt htaken
    rw [← hbusy] at hgiven hcount
    rw [EthState.freeDescs, EthState.pending] at htokens
    -- The bit of an earlier frame stands for this one too.
    refine ⟨lost + eth.dmaIntT.toNat, ⟨⟨count - 1, hgiven⟩, ?_⟩,
      Nat.le_add_right _ _, ?_⟩
    · change eth.txBufFree + 1 + (lost + eth.dmaIntT.toNat) =
        freePlaces ethTxbufnb fun other => (eth.setDesc _ _ other).busy
      omega
    · rw [Nat.add_eq_left, Keeps]
      cases eth.dmaIntT <;> simp

theorem balanced_irq {eth : EthState} {lost : Nat} (h : Balance eth lost) :
    StepBalanced eth .irq lost (ethIrqHandler eth) := by
  refine ⟨lost, ?_, Nat.le_refl lost, by simp [Keeps]⟩
  unfold ethIrqHandler
  split
  case isFalse => exact h
  case isTrue hpending =>
    refine ⟨h.chain, ?_⟩
    have htokens := h.tokens
    rw [EthState.pending, hpending] at htokens
    exact htokens

theorem balanced_restart {eth : EthState} {lost : Nat} (h : Balance eth lost) :
    StepBalanced eth .restart lost (networkRestart eth) := by
  have htokens := h.tokens
  have hle := freePlaces_le ethTxbufnb eth.busy
  have hnone := busy_networkRestart eth
  have hfree : (networkRestart eth).freeDescs = ethTxbufnb := by
    rw [EthState.freeDescs, hnone]
    exact freePlaces_eq_num_iff.mpr fun _ _ => rfl
  rw [← EthState.freeDescs] at hle
  refine ⟨ethTxbufnb - eth.txBufFree, ⟨⟨0, ?_⟩, ?_⟩, by omega, ?_⟩
  · rw [hnone]
    exact @TakenFrom.none ethTxbufnb (by decide)
  · rw [hfree]
    change eth.txBufFree + 0 + (ethTxbufnb - eth.txBufFree) = ethTxbufnb
    omega
  · have hall : eth.freeDescs = ethTxbufnb ↔
        ∀ place < ethTxbufnb, eth.busy place = false := freePlaces_eq_num_iff
    rw [Keeps, ← hall]
    rw [EthState.pending] at htokens
    cases hpending : eth.dmaIntT <;> simp [hpending] at htokens ⊢ <;> omega

theorem step_balanced {eth next : EthState} {input : EthInput} {lost : Nat}
    (h : Balance eth lost) (hstep : ethStep eth input = some next) :
    StepBalanced eth input lost next := by
  cases input with
  | tx payloads =>
      cases hstep
      exact balanced_tx h payloads
  | complete => exact balanced_complete h hstep
  | irq =>
      cases hstep
      exact balanced_irq h
  | restart =>
      cases hstep
      exact balanced_restart h

/-! ## Runs -/

theorem balance_start : Balance .start 0 where
  chain := by
    refine ⟨0, ?_⟩
    rw [EthState.start, busy_networkRestart]
    exact @TakenFrom.none ethTxbufnb (by decide)
  tokens := by decide

theorem run_balanced {eth final : EthState} {inputs : List EthInput}
    (hrun : Run ethStep (fun _ _ => True) eth inputs final) {lost : Nat}
    (h : Balance eth lost) :
    ∃ after, Balance final after ∧ lost ≤ after ∧
      (after = lost ↔ Run ethStep Keeps eth inputs final) := by
  induction hrun generalizing lost with
  | nil state => exact ⟨lost, h, Nat.le_refl lost, by simp [Run.nil]⟩
  | @cons state input next inputs final _ hstep later ih =>
      obtain ⟨middle, hmiddle, hle, hkeeps⟩ := step_balanced h hstep
      obtain ⟨after, hafter, hlater, hrest⟩ := ih hmiddle
      refine ⟨after, hafter, hle.trans hlater, ?_⟩
      constructor
      · intro hsame
        have hnone : middle = lost := by omega
        exact .cons (hkeeps.mp hnone) hstep (hrest.mp (by omega))
      · intro hkept
        cases hkept with
        | cons hguard hother hinputs =>
            obtain rfl := Option.some.inj (hother.symm.trans hstep)
            have hnone := hkeeps.mpr hguard
            have hmore := hrest.mpr hinputs
            omega

theorem tokens_match_free_descs_iff {final : EthState}
    {inputs : List EthInput}
    (hrun : Run ethStep (fun _ _ => True) .start inputs final)
    (hquiet : final.dmaIntT = false) :
    final.txBufFree = final.freeDescs ↔ Run ethStep Keeps .start inputs final := by
  obtain ⟨lost, hbalance, -, hkeeps⟩ := run_balanced hrun balance_start
  have htokens := hbalance.tokens
  rw [EthState.pending, hquiet] at htokens
  rw [← hkeeps]
  change final.txBufFree + 0 + lost = final.freeDescs at htokens
  omega

theorem one_frame_returns_token :
    ∃ final, Run ethStep (fun _ _ => True) .start
        [.tx [[1, 2, 3]], .complete, .irq] final ∧
      final.dmaIntT = false ∧ final.txBufFree = final.freeDescs := by
  have hafter : ([.tx [[1, 2, 3]], .complete, .irq].foldlM ethStep .start).map
      (·.dmaIntT) = some false := by
    decide
  obtain ⟨final, hfinal, hquiet⟩ := Option.map_eq_some_iff.mp hafter
  have hrun := Run.of_foldlM hfinal
  refine ⟨final, hrun, hquiet,
    (tokens_match_free_descs_iff hrun hquiet).mpr ?_⟩
  cases hrun with
  | cons _ htx hrun =>
      cases hrun with
      | cons _ hcomplete hrun =>
          cases hrun with
          | cons _ hirq hrun =>
              cases hrun
              cases htx
              exact .cons trivial rfl
                (.cons rfl hcomplete (.cons trivial hirq (.nil _)))

/-- Two frames complete before the interrupt: one token is gone. -/
theorem two_frames_return_one_token :
    ∃ final, Run ethStep (fun _ _ => True) .start
        [.tx [[1]], .tx [[2]], .complete, .complete, .irq] final ∧
      final.dmaIntT = false ∧ final.txBufFree = 3 ∧ final.freeDescs = 4 := by
  have hafter : ([.tx [[1]], .tx [[2]], .complete, .complete,
      .irq].foldlM ethStep .start).map
        (fun final => (final.dmaIntT, final.txBufFree, final.freeDescs)) =
          some (false, 3, 4) := by
    decide
  obtain ⟨final, hfinal, hvalues⟩ := Option.map_eq_some_iff.mp hafter
  simp only [Prod.mk.injEq] at hvalues
  exact ⟨final, Run.of_foldlM hfinal, hvalues⟩

end WncFirmware.Eth
