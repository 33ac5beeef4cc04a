import StyleTypings.Proofs.Walk.Frozen

namespace StyleTypings.Walk

open Text (encode)
open World (Noted requests run_bind run_get)

variable {t : Toolchain} {e : Exclusion} {d : Disk} {w : World}

theorem requests_entered (task : Task) (w : World) :
    requests (task.entered w).calls = requests w.calls := by
  unfold Task.entered
  split
  · rw [World.calls_pause]
  · rfl

theorem requests_submits (r? : Option WriteRequest) (w : World) :
    requests ((submits t r?).run w).2.calls = requests w.calls ++ r?.toList := by
  cases r? with
  | none => exact (List.append_nil _).symm
  | some r => exact World.requests_submit w r

theorem run_invariant {I : World → Prop} (hpause : ∀ w, I w → I (World.pause.run w).2)
    (hnoted : ∀ w w', Noted w w' → I w → I w')
    (hsubmit : ∀ w r, I w → I ((t.capabilities.submit r).run w).2) (h : I w) (fuel : Nat)
    (p : Progress) : I ((run t e fuel p).run w).2 := by
  induction fuel generalizing w p with
  | zero => exact h
  | succ fuel ih =>
    obtain ⟨_ | ⟨task, later⟩, s⟩ := p
    · exact h
    · obtain ⟨noted, hn, hrun⟩ := run_step (t := t) (e := e) task later s w
      have hentered : I (task.entered w) := by
        unfold Task.entered
        split
        · exact hpause w h
        · exact h
      have h' := hnoted _ _ hn hentered
      rw [run_succ, hrun]
      cases task.gain t e (task.entered w).disk with
      | error f => exact h'
      | ok g =>
        refine ih ?_ _
        cases g.request? with
        | none => exact h'
        | some r => exact hsubmit noted r h'

theorem run_fromDirectory_invariant {I : World → Prop}
    (hpause : ∀ w, I w → I (World.pause.run w).2) (hnoted : ∀ w w', Noted w w' → I w → I w')
    (hsubmit : ∀ w r, I w → I ((t.capabilities.submit r).run w).2) (h : I w) (root : String) :
    I ((fromDirectory t e root).run w).2 := by
  unfold fromDirectory
  rw [run_bind, run_get]
  dsimp only
  cases start w.disk (encode root) with
  | error f => exact h
  | ok tasks => exact run_invariant hpause hnoted hsubmit h _ _

def still (t : Toolchain) (e : Exclusion) (d : Disk) :
    (fuel : Nat) → Progress → Except Failure Summary × List WriteRequest
  | 0, p => (.ok p.summary, [])
  | fuel + 1, p =>
    match p.tasks with
    | [] => (.ok p.summary, [])
    | task :: later =>
      match task.gain t e d with
      | .error f => (.error f, [])
      | .ok g =>
        let (answer, rs) := still t e d fuel ⟨g.tasks ++ later, p.summary ++ g.summary⟩
        (answer, g.request?.toList ++ rs)

theorem still_congr {t' : Toolchain} (hcompile : t.compiler.compile d = t'.compiler.compile d)
    (hformat : t.formatter.format d = t'.formatter.format d) (fuel : Nat) (p : Progress) :
    still t e d fuel p = still t' e d fuel p := by
  have hgain : ∀ task : Task, task.gain t e d = task.gain t' e d := by
    intro task
    have hsheet : ∀ text, sheetGain t d text = sheetGain t' d text := fun text ↦ by
      simp only [sheetGain, Toolchain.namesOf, Toolchain.requestFor, Toolchain.formattedText,
        hcompile, hformat]
    cases task with
    | enter path => rfl
    | visit path kind => cases kind <;> simp only [Task.gain, hsheet]
  induction fuel generalizing p with
  | zero => rfl
  | succ fuel ih => simp only [still, hgain, ih]

/-- A walk in a world whose disk stays as it is. `I` tells by how many tasks it may go on. -/
theorem run_eq_still {I : Nat → World → Prop}
    (hdisk : ∀ n w task, I (n + 1) w → (Task.entered task w).disk = d)
    (hnext : ∀ n w task noted r?, I (n + 1) w → Noted (Task.entered task w) noted →
      I n ((submits t r?).run noted).2)
    {fuel : Nat} (h : I fuel w) (p : Progress) :
    ∃ n w', (run t e fuel p).run w = ((still t e d fuel p).1, w') ∧ I n w' ∧
      requests w'.calls = requests w.calls ++ (still t e d fuel p).2 := by
  induction fuel generalizing w p with
  | zero => exact ⟨0, w, rfl, h, (List.append_nil _).symm⟩
  | succ fuel ih =>
    obtain ⟨_ | ⟨task, later⟩, s⟩ := p
    · exact ⟨_, w, rfl, h, (List.append_nil _).symm⟩
    · obtain ⟨noted, hn, hrun⟩ := run_step (t := t) (e := e) task later s w
      have hcalls : requests noted.calls = requests w.calls := by
        rw [hn.requests_eq, requests_entered]
      rw [hdisk _ _ _ h] at hrun
      rw [run_succ, hrun]
      simp only [still]
      cases hgain : task.gain t e d with
      | error f => exact ⟨fuel, noted, rfl, hnext _ _ _ _ none h hn, by simp [hcalls]⟩
      | ok g =>
        obtain ⟨n, w', hrest, hI, hrequests⟩ := ih (hnext _ _ _ _ g.request? h hn)
          ⟨g.tasks ++ later, s ++ g.summary⟩
        refine ⟨n, w', hrest, hI, ?_⟩
        rw [hrequests, requests_submits, hcalls, List.append_assoc]

end StyleTypings.Walk
