import VmMonitor.Cpu.Exit
import VmMonitor.Proofs.Cpu.Lookup

/-!
The identification registers. They are loaded when the guest is set up, with the values that the
configuration puts in place of the initial ones, and no exit changes them: the guest reads what was
configured.
-/

namespace VmMonitor

namespace SysReg

-- The value that an identification register has: that of the configuration, if it names one.
def configured (overrides : Std.TreeMap String UInt64) (i : IdRegister) : UInt64 :=
  (overrides[i.name]?).getD i.initial

theorem write_value (r : SysReg) (s : VcpuState) (value : UInt64) (i : IdRegister) :
    (r.write s value).ids.value i = if r = ident i then value else s.ids.value i := by
  cases r with
  | ident j =>
      by_cases same : i = j
      · subst same
        simp [write, IdRegisters.set]
      · simp [write, IdRegisters.set, same, Ne.symm same]
  | _ => simp [write]

-- What the guest may write is never an identification register.
theorem write_kept {r : SysReg} (free : r.writeable = true) (s : VcpuState) (value : UInt64) :
    (r.write s value).ids = s.ids := by
  cases r with
  | ident i => cases free
  | ccsidr => cases free
  | _ => rfl

theorem load_value (s : VcpuState) (r : SysReg) (i : IdRegister) :
    (load s r).ids.value i = if r = ident i then i.initial else s.ids.value i := by
  unfold load
  cases initial : r.initial? with
  | none =>
      have other : r ≠ ident i := by
        rintro rfl
        cases initial
      rw [if_neg other]
  | some value =>
      dsimp only
      rw [write_value]
      by_cases same : r = ident i
      · subst same
        cases initial
        rfl
      · rw [if_neg same, if_neg same]

theorem loadAll_value (l : List SysReg) (s : VcpuState) (i : IdRegister) :
    (l.foldl load s).ids.value i = if ident i ∈ l then i.initial else s.ids.value i := by
  induction l generalizing s with
  | nil => rfl
  | cons r rest ih =>
      rw [List.foldl_cons, ih, load_value]
      by_cases later : ident i ∈ rest
      · rw [if_pos later, if_pos (List.mem_cons_of_mem _ later)]
      · rw [if_neg later]
        simp only [List.mem_cons, later, or_false, eq_comm]

-- Each name stands in the list once, so that the order of the overrides does not matter.
theorem override_value {l : List (String × UInt64)} {s s' : VcpuState} (i : IdRegister)
    (apart : (l.map Prod.fst).Nodup) (done : override l s = .ok s') :
    (∀ value, (i.name, value) ∈ l → s'.ids.value i = value) ∧
      ((∀ value, (i.name, value) ∉ l) → s'.ids.value i = s.ids.value i) := by
  induction l generalizing s with
  | nil =>
      cases done
      exact ⟨nofun, fun _ => rfl⟩
  | cons entry rest ih =>
      obtain ⟨name, given⟩ := entry
      obtain ⟨once, apart⟩ := List.nodup_cons.mp apart
      unfold override at done
      split at done
      · rename_i r found
        obtain ⟨listed, kept⟩ := ih apart done
        have stored := write_value r s given i
        refine ⟨fun value here => ?_, fun absent => ?_⟩
        · rcases List.mem_cons.mp here with first | later
          · cases first
            have own : r = ident i :=
              Option.some.inj (found.symm.trans (named?_name (.ident i)))
            rw [kept fun _ later => once (List.mem_map.mpr ⟨_, later, rfl⟩), stored, if_pos own]
          · exact listed value later
        · have other : r ≠ ident i := by
            rintro rfl
            exact absent given (named?_some found ▸ List.mem_cons_self)
          rw [kept fun value later => absent value (List.mem_cons_of_mem _ later), stored,
            if_neg other]
      · cases done

theorem setUp_value {overrides : Std.TreeMap String UInt64} {s s' : VcpuState}
    (done : setUp overrides.toList s = .ok s') (i : IdRegister) :
    s'.ids.value i = configured overrides i := by
  have apart : (overrides.toList.map Prod.fst).Nodup := by
    rw [Std.TreeMap.map_fst_toList_eq_keys]
    exact Std.TreeMap.nodup_keys
  obtain ⟨listed, kept⟩ := override_value i apart done
  unfold configured
  cases given : overrides[i.name]? with
  | some value => exact listed value (Std.TreeMap.mem_toList_iff_getElem?_eq_some.mpr given)
  | none =>
      have absent (value : UInt64) : (i.name, value) ∉ overrides.toList := fun here => by
        have some := Std.TreeMap.mem_toList_iff_getElem?_eq_some.mp here
        rw [given] at some
        cases some
      rw [kept absent, loadAll_value, if_pos (mem_all _)]
      rfl

end SysReg

namespace VcpuState

-- The guest has trapped because it reads register `r` into general purpose register `t`.
def Reads (s : VcpuState) (r : SysReg) (t : Nat) : Prop :=
  s.exception? = some .synchronous ∧ s.syndrome.class? = some .systemRegister ∧
    SysRegAccess.ofIss s.syndrome.iss = ⟨r.id, t, true⟩

instance (s : VcpuState) (r : SysReg) (t : Nat) : Decidable (s.Reads r t) :=
  inferInstanceAs (Decidable (_ ∧ _ ∧ _))

end VcpuState

-- A handler that leaves the identification registers alone.
def HypercallHandler.Discreet (η : Type) [HypercallHandler η] : Prop :=
  ∀ (h : η) (s : VcpuState), (HypercallHandler.handle h s).2.1.ids = s.ids

theorem noHypercalls_discreet : HypercallHandler.Discreet NoHypercalls := fun _ _ => rfl

namespace Platform

variable {δ τ η : Type} {p : Platform δ τ η} {s : VcpuState} {r : Exited δ τ η TrapOutcome}

theorem sysRegAccess_ids {a : SysRegAccess} {s' : VcpuState} (done : sysRegAccess s a = .ok s') :
    s'.ids = s.ids := by
  unfold sysRegAccess at done
  split at done
  · cases done
  · split at done
    · cases done
      rfl
    · split at done
      · rename_i free
        cases done
        exact SysReg.write_kept free s _
      · cases done

theorem dataAbort_ids [BusDevice δ] (done : p.dataAbort s = .ok r) : r.state.ids = s.ids := by
  unfold dataAbort at done
  dsimp only at done
  split at done
  · cases done
    rfl
  split at done
  · cases done
    rfl
  split at done <;>
    · obtain ⟨answered, _, done⟩ := Checked.bind_eq_ok.mp done
      split at done <;> cases done <;> rfl

theorem hypercall_ids [HypercallHandler η] (discreet : HypercallHandler.Discreet η)
    (p : Platform δ τ η) (s : VcpuState) : (p.hypercall s).state.ids = s.ids := by
  unfold hypercall
  dsimp only
  split
  · split <;> rfl
  · exact discreet _ s

theorem waitFor_ids [HostTimer τ] (done : p.waitFor s = .ok r) : r.state.ids = s.ids := by
  unfold waitFor at done
  split at done
  · cases done
    rfl
  obtain ⟨⟨answer, timer, gic⟩, _, done⟩ := Checked.bind_eq_ok.mp done
  cases answer <;> cases done <;> rfl

theorem physicalIrq_ids (p : Platform δ τ η) (s : VcpuState) :
    (p.physicalIrq s).1.ids = s.ids := by
  unfold physicalIrq
  split
  · rfl
  · split <;> rfl

variable [BusDevice δ] [HostTimer τ] [HypercallHandler η]

-- Whatever the guest stopped for, and whether or not it could be handled.
theorem handleExit_ids (discreet : HypercallHandler.Discreet η) (done : p.handleExit s = .ok r) :
    r.state.ids = s.ids := by
  unfold handleExit at done
  split at done
  · unfold synchronous at done
    split at done
    · split at done
      · rename_i accessed
        cases done
        exact sysRegAccess_ids accessed
      · cases done
        rfl
    · cases done
      exact hypercall_ids discreet p s
    · exact dataAbort_ids done
    · exact waitFor_ids done
    · cases done
      rfl
  · cases done
    exact physicalIrq_ids p s
  · cases done
    exact physicalIrq_ids p s
  · cases done
    rfl
  · cases done
    rfl
  · cases done
    rfl

theorem handleExit_reads {i : IdRegister} {t : Nat} (reads : s.Reads (.ident i) t) :
    p.handleExit s = .ok ⟨.ok .resume, (s.setReg t (s.ids.value i)).advancePc, p⟩ := by
  obtain ⟨taken, trapped, access⟩ := reads
  have accessed : sysRegAccess s (.ofIss s.syndrome.iss) =
      .ok (s.setReg t (s.ids.value i)).advancePc := by
    unfold sysRegAccess
    rw [access]
    dsimp only
    rw [SysReg.find?_id]
    rfl
  unfold handleExit
  rw [taken]
  change p.synchronous s = _
  unfold synchronous
  rw [trapped]
  dsimp only
  rw [accessed]

end Platform

end VmMonitor
