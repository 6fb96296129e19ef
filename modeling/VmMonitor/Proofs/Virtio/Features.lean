import VmMonitor.Proofs.Virtio.Make

/-!
Features as driver and device have agreed on them. The driver names them in two pages, through one
register behind a selector, and may change its mind; what counts of each page is its last word since
the last reset, as far as the device has offered it. Transport and device both keep the outcome, and
the two copies never part.
-/

namespace VmMonitor

open Virtio

-- A device that offers the same features whatever is done to it.
class FixedOffer (ν : Type) [VirtioDevice ν] : Prop where
  acked : ∀ (d : ν) features,
    VirtioDevice.features (VirtioDevice.ackFeatures d features) = VirtioDevice.features d
  configured : ∀ (d : ν) offset bytes,
    VirtioDevice.features (VirtioDevice.writeConfig d offset bytes) = VirtioDevice.features d
  reset : ∀ d : ν, VirtioDevice.features (VirtioDevice.reset d) = VirtioDevice.features d
  called : ∀ {d : ν} {m rings served} (call : Call), call.perform d m rings = .ok served →
    VirtioDevice.features served.device = VirtioDevice.features d

instance {ν : Type} [VirtioDevice ν] [Lanes ν] [FixedMake ν] : FixedOffer ν :=
  have lasting : Lasting (VirtioDevice.features : ν → UInt64) :=
    FixedMake.lasting.map Make.features
  ⟨lasting.acked, lasting.configured, lasting.reset, lasting.call⟩

namespace Transport

section Words

variable (high low value : UInt32) (offered : UInt64)

-- One page of what is acknowledged gives way to a word, as far as it is offered.
theorem gated_merge (acked mask word : UInt64) :
    (acked &&& offered &&& mask) ||| (word &&& offered) = ((acked &&& mask) ||| word) &&& offered := by
  apply UInt64.toBitVec_inj.mp
  ext i
  simp only [UInt64.toBitVec_or, UInt64.toBitVec_and, BitVec.getElem_or, BitVec.getElem_and]
  cases acked.toBitVec[i] <;> cases offered.toBitVec[i] <;> cases mask.toBitVec[i] <;> simp

theorem gated_low :
    (joined high low &&& offered &&& ~~~((0xffffffff : UInt64) <<< ((0 : UInt32).toUInt64 * 32))) |||
      (value.toUInt64 <<< ((0 : UInt32).toUInt64 * 32) &&& offered) =
      joined high value &&& offered := by
  have mask : ~~~((0xffffffff : UInt64) <<< ((0 : UInt32).toUInt64 * 32)) = 0xffffffff00000000 := by
    decide
  have word : value.toUInt64 <<< ((0 : UInt32).toUInt64 * 32) = value.toUInt64 := by simp
  rw [mask, word, gated_merge]
  exact congrArg (· &&& offered) (withLow_joined high low value)

theorem gated_high :
    (joined high low &&& offered &&& ~~~((0xffffffff : UInt64) <<< ((1 : UInt32).toUInt64 * 32))) |||
      (value.toUInt64 <<< ((1 : UInt32).toUInt64 * 32) &&& offered) =
      joined value low &&& offered := by
  have mask : ~~~((0xffffffff : UInt64) <<< ((1 : UInt32).toUInt64 * 32)) = 0xffffffff := by
    decide
  rw [mask, gated_merge]
  exact congrArg (· &&& offered) (withHigh_joined high low value)

theorem joined_low : (joined high low).toUInt32 = low := by
  apply UInt32.toBitVec_inj.mp
  ext i lt
  simp [joined]

theorem joined_high : (joined high low >>> 32).toUInt32 = high := by
  apply UInt32.toBitVec_inj.mp
  ext i lt
  have within : 32 + i < 64 := by omega
  have past : ¬ 32 + i < 32 := by omega
  simp [joined, within, past, BitVec.getLsbD_eq_getElem lt]

theorem featurePage_and (a b : UInt64) (p : UInt32) :
    featurePage (a &&& b) p = featurePage a p &&& featurePage b p := by
  unfold featurePage
  split
  · apply UInt32.toBitVec_inj.mp
    simp [BitVec.ushiftRight_and_distrib, BitVec.setWidth_and]
  · rfl

theorem featurePage_joined {p : UInt32} (known : p < 2) :
    featurePage (joined high low) p = if p = 0 then low else high := by
  rcases page_cases known with rfl | rfl
  · simpa [featurePage] using joined_low high low
  · simpa [featurePage] using joined_high high low

end Words

variable {ν : Type}

namespace Stroke

-- The word stored to a register.
def word? (r : Register) : Stroke ν → Option UInt32
  | write _ a value => if r.accessed a then some value.toUInt32 else none
  | reset => none

-- The page that the driver has selected since the last reset.
def page : List (Stroke ν) → UInt32
  | [] => 0
  | s :: earlier => if s.Resets then 0 else (s.word? .driverFeaturesSel).getD (page earlier)

-- The word that it stored last for a page since then.
def wanted (p : UInt32) : List (Stroke ν) → UInt32
  | [] => 0
  | s :: earlier =>
      if s.Resets then 0
      else if page earlier = p then (s.word? .driverFeatures).getD (wanted p earlier)
      else wanted p earlier

variable {s : Stroke ν} {log : List (Stroke ν)}

theorem page_reset (resets : s.Resets) : page (s :: log) = 0 := if_pos resets

theorem wanted_reset (resets : s.Resets) (p : UInt32) : wanted p (s :: log) = 0 := if_pos resets

theorem page_kept (kept : ¬ s.Resets) (other : s.word? .driverFeaturesSel = none) :
    page (s :: log) = page log := by
  simp [page, kept, other]

theorem wanted_kept (kept : ¬ s.Resets) (other : s.word? .driverFeatures = none) (p : UInt32) :
    wanted p (s :: log) = wanted p log := by
  simp [wanted, kept, other]

end Stroke

variable {t t' : Transport ν} {b : Board}

theorem finish_features (t : Transport ν) (b : Board) (served : Served ν) :
    (t.finish b served).1.device = served.device ∧
      (t.finish b served).1.driverFeatureSelect = t.driverFeatureSelect ∧
      (t.finish b served).1.acked = t.acked := by
  obtain ⟨status, after⟩ := finish_device t b served
  rw [after]
  exact ⟨rfl, rfl, rfl⟩

-- The agreement so far: how the transport follows from what the driver has written.
structure Agreed [VirtioDevice ν] (offered : UInt64) (t : Transport ν) (log : List (Stroke ν)) :
    Prop where
  offer : VirtioDevice.features t.device = offered
  page : t.driverFeatureSelect = Stroke.page log
  acked : t.acked = joined (Stroke.wanted 1 log) (Stroke.wanted 0 log) &&& offered

variable [VirtioDevice ν] {a : Access} {s : Stroke ν} {value : UInt32} {offered : UInt64}
  {log : List (Stroke ν)}

-- What can happen to a device apart from features.
inductive Passes (d : ν) : ν → Prop
  | still : Passes d d
  | configured (offset : UInt64) (bytes : List UInt8) :
      Passes d (VirtioDevice.writeConfig d offset bytes)
  | called {m : Medium} {rings : Rings} {served : Served ν} (call : Call)
      (done : call.perform d m rings = .ok served) : Passes d served.device

-- What a stroke can do about features: nothing, turn to another page, name the features of the page,
-- or start all over.
inductive Dealing (t : Transport ν) (s : Stroke ν) : Transport ν → Prop
  | aside {t' : Transport ν} (kept : ¬ s.Resets) (page : s.word? .driverFeaturesSel = none)
      (word : s.word? .driverFeatures = none) (passes : Passes t.device t'.device)
      (select : t'.driverFeatureSelect = t.driverFeatureSelect) (acked : t'.acked = t.acked) :
      Dealing t s t'
  | turns {value : UInt32} (kept : ¬ s.Resets) (page : s.word? .driverFeaturesSel = some value)
      (word : s.word? .driverFeatures = none) :
      Dealing t s { t with driverFeatureSelect := value }
  | names {value : UInt32} (b : Board) (kept : ¬ s.Resets)
      (page : s.word? .driverFeaturesSel = none) (word : s.word? .driverFeatures = some value) :
      Dealing t s (t.ackFeatures b value).1
  | resets (resets : s.Resets) : Dealing t s t.reset

theorem configure_features (t : Transport ν) (b : Board) (f : QueueConfig → QueueConfig.Setting) :
    (t.configure b f).1.device = t.device ∧
      (t.configure b f).1.driverFeatureSelect = t.driverFeatureSelect ∧
      (t.configure b f).1.acked = t.acked := by
  unfold configure
  split <;> exact ⟨rfl, rfl, rfl⟩

theorem setQueueReady_features {ready : Bool} {r : Transport ν × Board}
    (done : t.setQueueReady b ready = .ok r) : r.1.device = t.device ∧
      r.1.driverFeatureSelect = t.driverFeatureSelect ∧ r.1.acked = t.acked := by
  cases setQueueReady_readied done with
  | still => exact ⟨rfl, rfl, rfl⟩
  | refused text => exact ⟨rfl, rfl, rfl⟩
  | switched selected switch inside => exact ⟨rfl, rfl, rfl⟩

theorem notifyQueue_features {i : Nat} {r : Transport ν × Board}
    (done : t.notifyQueue b i = .ok r) : Passes t.device r.1.device ∧
      r.1.driverFeatureSelect = t.driverFeatureSelect ∧ r.1.acked = t.acked := by
  cases notifyQueue_notified done with
  | refused text => exact ⟨.still, rfl, rfl⟩
  | @served served notified =>
      obtain ⟨device, frame⟩ := finish_features t b served
      exact ⟨device ▸ .called (.notify i) notified, frame⟩

theorem writeRegister_dealing {value : UInt64} {r : Transport ν × Board}
    (below : a.offset < configStart) (word : a.width = .word)
    (done : t.writeRegister b a value.toUInt32 = .ok r) :
    Dealing t (.write t a value) r.1 := by
  have reach {r : Register} (named : Register.of a.offset.toNat = r) : r.accessed a :=
    ⟨below, word, named⟩
  have past {r : Register} (other : Register.of a.offset.toNat ≠ r) :
      (Stroke.write t a value).word? r = none := if_neg fun accessed => other accessed.2.2
  have spared (other : Register.of a.offset.toNat ≠ .status) :
      ¬ (Stroke.write t a value).Resets := fun resets => other resets.1.2.2
  unfold writeRegister at done
  cases register : Register.of a.offset.toNat with
  | driverFeatures =>
      rw [register] at done past spared
      cases done
      exact .names b (spared nofun) (past nofun) (if_pos (reach register))
  | driverFeaturesSel =>
      rw [register] at done past spared
      cases done
      exact .turns (spared nofun) (if_pos (reach register)) (past nofun)
  | status =>
      rw [register] at done past
      cases done
      unfold setStatus
      split
      · rename_i zero
        exact .resets ⟨reach register, zero⟩
      · rename_i some
        exact .aside (fun resets => some resets.2) (past nofun) (past nofun) .still rfl rfl
  | queueReady =>
      rw [register] at done past spared
      obtain ⟨device, select, acked⟩ := setQueueReady_features done
      exact .aside (spared nofun) (past nofun) (past nofun) (device ▸ .still) select acked
  | queueNotify =>
      rw [register] at done past spared
      obtain ⟨passes, select, acked⟩ := notifyQueue_features done
      exact .aside (spared nofun) (past nofun) (past nofun) passes select acked
  | queueNum | queueDescLow | queueDescHigh | queueAvailLow | queueAvailHigh | queueUsedLow
  | queueUsedHigh =>
      rw [register] at done past spared
      cases done
      obtain ⟨device, select, acked⟩ := configure_features t b _
      exact .aside (spared nofun) (past nofun) (past nofun) (device ▸ .still) select acked
  | _ =>
      rw [register] at done past spared
      cases done
      exact .aside (spared nofun) (past nofun) (past nofun) .still rfl rfl

theorem write_dealing {value : UInt64} {r : Answered (Transport ν) Unit}
    (done : t.write b a value = .ok r) : Dealing t (.write t a value) r.device := by
  -- An access that is no word below the configuration space stores to no register.
  have outside (out : ¬ (a.offset < configStart ∧ a.width = .word)) {t' : Transport ν}
      (passes : Passes t.device t'.device) (select : t'.driverFeatureSelect = t.driverFeatureSelect)
      (acked : t'.acked = t.acked) : Dealing t (.write t a value) t' := by
    have past (r : Register) : (Stroke.write t a value).word? r = none :=
      if_neg fun accessed => out ⟨accessed.1, accessed.2.1⟩
    exact .aside (fun resets => out ⟨resets.1.1, resets.1.2.1⟩) (past _) (past _) passes select acked
  obtain ⟨answer, after, board⟩ := r
  cases write_written done with
  | refused out => exact outside out .still rfl rfl
  | configured out bytes => exact outside out (.configured ..) rfl rfl
  | stored below word wrote => exact writeRegister_dealing below word wrote

theorem input_features {data : List UInt8} {r : Answered (Transport ν) Unit}
    (done : t.input b data = .ok r) : Passes t.device r.device.device ∧
      r.device.driverFeatureSelect = t.driverFeatureSelect ∧ r.device.acked = t.acked := by
  obtain ⟨served, taken, rfl⟩ := input_parts done
  obtain ⟨device, frame⟩ := finish_features t b served
  exact ⟨device ▸ .called (.input data) taken, frame⟩

-- A property of a transport and its strokes that the dealings with features keep, and that whatever
-- passes by leaves alone, holds of every history.
theorem history_dealing {P : Transport ν → List (Stroke ν) → Prop} {fresh : ν} {line : Nat}
    (start : P (Transport.new fresh line) [])
    (passes : ∀ {t t' log}, P t log → Passes t.device t'.device →
      t'.driverFeatureSelect = t.driverFeatureSelect → t'.acked = t.acked → P t' log)
    (deals : ∀ {t t' s log}, P t log → Dealing t s t' → P t' (s :: log))
    (history : History fresh line t log) : P t log := by
  induction history with
  | start => exact start
  | read _ done ih =>
      rw [read_device done]
      exact ih
  | wrote _ done ih => exact deals ih (write_dealing done)
  | fed _ done ih =>
      obtain ⟨passed, select, acked⟩ := input_features done
      exact passes ih passed select acked
  | ended b _ ih =>
      rw [endOfInterrupt_same]
      exact ih
  | reset _ ih => exact deals ih (.resets trivial)

-- The pages that the driver can name, and the others.

theorem ackFeatures_known (known : t.driverFeatureSelect < 2) (b : Board) (value : UInt32) :
    ∃ acked, (t.ackFeatures b value).1 =
        { t with acked := acked, device := VirtioDevice.ackFeatures t.device acked } ∧
      ∀ high low offered, VirtioDevice.features t.device = offered →
        t.acked = joined high low &&& offered → acked =
          joined (if t.driverFeatureSelect = 1 then value else high)
            (if t.driverFeatureSelect = 0 then value else low) &&& offered := by
  unfold ackFeatures
  rw [if_pos known]
  refine ⟨_, rfl, ?_⟩
  rintro high low offered rfl same
  rw [same]
  rcases page_cases known with zero | one
  · rw [zero]
    exact gated_low high low value _
  · rw [one]
    exact gated_high high low value _

theorem ackFeatures_unknown (unknown : ¬ t.driverFeatureSelect < 2) (b : Board) (value : UInt32) :
    ∃ text, t.ackFeatures b value = (t, b.warn text) := by
  unfold ackFeatures
  rw [if_neg unknown]
  exact ⟨_, rfl⟩

theorem new_agreed (fresh : ν) (line : Nat) :
    Agreed (VirtioDevice.features fresh) (Transport.new fresh line) [] where
  offer := rfl
  page := rfl
  acked := by simp [Transport.new, Stroke.wanted, joined]

-- What a device with a memory for it was told last.
structure Remembers (told : ν → UInt64) : Prop where
  acked : ∀ (d : ν) features, told (VirtioDevice.ackFeatures d features) = features
  reset : ∀ d : ν, told (VirtioDevice.reset d) = 0
  passes : ∀ {d d' : ν}, Passes d d' → told d' = told d

theorem history_told {told : ν → UInt64} (remembers : Remembers told) {fresh : ν} {line : Nat}
    (untold : told fresh = 0) (history : History fresh line t log) : told t.device = t.acked := by
  refine history_dealing (P := fun t _ => told t.device = t.acked) untold ?_ ?_ history
  · intro t t' log same passes _ acked
    exact (remembers.passes passes).trans (same.trans acked.symm)
  · intro t t' s log same dealing
    cases dealing with
    | aside kept page word passes select acked =>
        exact (remembers.passes passes).trans (same.trans acked.symm)
    | turns => exact same
    | @names value b =>
        by_cases known : t.driverFeatureSelect < 2
        · obtain ⟨acked, after, _⟩ := ackFeatures_known known b value
          rw [after]
          exact remembers.acked t.device acked
        · obtain ⟨text, after⟩ := ackFeatures_unknown known b value
          rw [after]
          exact same
    | resets => exact remembers.reset t.device

theorem net_remembers : Remembers Net.acked where
  acked _ _ := rfl
  reset _ := rfl
  passes passes := by
    cases passes with
    | still => rfl
    | configured => rfl
    | called call done =>
        have same := congrArg Net.acked (Net.bare_unworked.call call done)
        exact same

theorem write_names (accessed : Register.driverFeatures.accessed a) (b : Board) (value : UInt64) :
    t.write b a value = .ok ⟨.ok (), (t.ackFeatures b value.toUInt32).1,
      (t.ackFeatures b value.toUInt32).2⟩ := by
  rw [write_register accessed, writeRegister, accessed.2.2]
  rfl

-- What driver and device have come to. A page that the device does not have is refused without a
-- change to anything.
structure Negotiated (fresh : ν) (t : Transport ν) (log : List (Stroke ν)) : Prop where
  offer : VirtioDevice.features t.device = VirtioDevice.features fresh
  subset : t.acked &&& ~~~(VirtioDevice.features fresh) = 0
  pages : ∀ p : UInt32, p < 2 → featurePage t.acked p =
    Stroke.wanted p log &&& featurePage (VirtioDevice.features fresh) p
  elsewhere : ¬ Stroke.page log < 2 → ∀ b a value, Register.driverFeatures.accessed a →
    ∃ text, t.write b a value = .ok ⟨.ok (), t, b.warn text⟩
  handed : Stroke.page log < 2 → ∀ b a value, Register.driverFeatures.accessed a →
    ∃ t' b', t.write b a value = .ok ⟨.ok (), t', b'⟩ ∧
      t'.device = VirtioDevice.ackFeatures t.device t'.acked

theorem Agreed.negotiated {fresh : ν} (agreed : Agreed (VirtioDevice.features fresh) t log) :
    Negotiated fresh t log where
  offer := agreed.offer
  subset := by
    rw [agreed.acked, UInt64.and_assoc]
    simp
  pages p known := by
    rw [agreed.acked, featurePage_and, featurePage_joined _ _ known]
    rcases page_cases known with rfl | rfl <;> rfl
  elsewhere unknown b a value accessed := by
    rw [← agreed.page] at unknown
    obtain ⟨text, refused⟩ := ackFeatures_unknown unknown b value.toUInt32
    exact ⟨text, by rw [write_names accessed, refused]⟩
  handed known b a value accessed := by
    rw [← agreed.page] at known
    obtain ⟨acked, after, _⟩ := ackFeatures_known known b value.toUInt32
    refine ⟨_, _, write_names accessed b value, ?_⟩
    rw [after]

section Agreement

variable [FixedOffer ν]

theorem Passes.features {d d' : ν} (passes : Passes d d') :
    VirtioDevice.features d' = VirtioDevice.features d := by
  cases passes with
  | still => rfl
  | configured offset bytes => exact FixedOffer.configured d offset bytes
  | called call done => exact FixedOffer.called call done

theorem Agreed.passes (agreed : Agreed offered t log) (passes : Passes t.device t'.device)
    (select : t'.driverFeatureSelect = t.driverFeatureSelect) (acked : t'.acked = t.acked) :
    Agreed offered t' log :=
  ⟨passes.features.trans agreed.offer, select.trans agreed.page, acked.trans agreed.acked⟩

theorem Agreed.deals (agreed : Agreed offered t log) (dealing : Dealing t s t') :
    Agreed offered t' (s :: log) := by
  obtain ⟨offer, page, acked⟩ := agreed
  cases dealing with
  | aside kept quiet silent passes select same =>
      refine ⟨passes.features.trans offer, ?_, ?_⟩
      · rw [select, page, Stroke.page_kept kept quiet]
      · rw [same, acked, Stroke.wanted_kept kept silent, Stroke.wanted_kept kept silent]
  | turns kept turned silent =>
      refine ⟨offer, ?_, ?_⟩
      · simp [Stroke.page, kept, turned]
      · rw [Stroke.wanted_kept kept silent, Stroke.wanted_kept kept silent]
        exact acked
  | @names value b kept quiet word =>
      have still : Stroke.page (s :: log) = Stroke.page log := Stroke.page_kept kept quiet
      by_cases known : t.driverFeatureSelect < 2
      · obtain ⟨acked', same, merged⟩ := ackFeatures_known known b value
        rw [same]
        refine ⟨(FixedOffer.acked ..).trans offer, page.trans still.symm, ?_⟩
        have merged := merged _ _ _ offer acked
        rw [page] at merged
        simpa [Stroke.wanted, kept, word] using merged
      · obtain ⟨text, same⟩ := ackFeatures_unknown known b value
        rw [same]
        have away (p : UInt32) (named : p < 2) :
            Stroke.wanted p (s :: log) = Stroke.wanted p log := by
          have differs : Stroke.page log ≠ p := by
            intro here
            rw [page, here] at known
            exact known named
          simp [Stroke.wanted, kept, differs]
        refine ⟨offer, page.trans still.symm, ?_⟩
        rw [away 0 (by decide), away 1 (by decide)]
        exact acked
  | resets again =>
      refine ⟨(FixedOffer.reset _).trans offer, (Stroke.page_reset again).symm, ?_⟩
      rw [Stroke.wanted_reset again, Stroke.wanted_reset again]
      simp [Transport.reset, joined]

theorem history_agreed {fresh : ν} {line : Nat} (history : History fresh line t log) :
    Agreed (VirtioDevice.features fresh) t log :=
  history_dealing (new_agreed fresh line) Agreed.passes Agreed.deals history

end Agreement

-- In every history of a device with a fixed offer, and the copy that a link keeps.
theorem history_negotiated :
    (∀ (ν : Type) [VirtioDevice ν] [FixedOffer ν] (fresh : ν) (line : Nat) (t : Transport ν)
      (log : List (Stroke ν)), History fresh line t log → Negotiated fresh t log) ∧
    ∀ (fresh : Net) (line : Nat) (t : Transport Net) (log : List (Stroke Net)),
      fresh.acked = 0 → History fresh line t log → t.device.acked = t.acked :=
  ⟨fun _ _ _ _ _ _ _ history => (history_agreed history).negotiated,
    fun _ _ _ _ unacked history => history_told net_remembers unacked history⟩

-- A driver that asks for everything, then for less, and tries a page that there is not.
theorem history_negotiated_twice :
    ∃ t log, History (Net.new .accepting [2, 0, 0, 0, 0, 1]) 49 t log ∧ t.acked = 0x100010000 ∧
      Negotiated (Net.new .accepting [2, 0, 0, 0, 0, 1]) t log ∧ t.device.acked = t.acked := by
  let fresh := Net.new .accepting [2, 0, 0, 0, 0, 1]
  have ran : ((Transport.new fresh 49).stores ⟨⟨⟨[]⟩, #[]⟩, .initial⟩
      [(0x20, 0xffffffff), (0x24, 1), (0x20, 0xffffffff), (0x24, 2), (0x20, 0x20), (0x24, 0),
        (0x20, 0x10000)]).toOption.any (fun r => r.1.acked = 0x100010000) = true := by
    decide +kernel
  obtain ⟨r, done, acked⟩ := Checked.ok_of_any ran
  obtain ⟨log, history⟩ := stores_history .start done
  exact ⟨r.1, log, history, of_decide_eq_true acked, history_negotiated.1 _ _ _ _ _ history,
    history_negotiated.2 _ _ _ _ rfl history⟩

end Transport

end VmMonitor
