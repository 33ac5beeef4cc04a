import StyleTypings.Proofs.Walk.Interleaved
import StyleTypings.Proofs.Walk.Still
import StyleTypings.Proofs.World.Output

namespace StyleTypings.Walk

open Disk (Location Node)
open Text (encode)
open Watch (NoLinks)
open World (Noted Tame printed requests run_bind run_get run_note)

variable {t : Toolchain} {e : Exclusion} {d : Disk} {w w' : World}

def shown (rs : List WriteRequest) : String := String.join (rs.map printed)

theorem shown_append (a b : List WriteRequest) : shown (a ++ b) = shown a ++ shown b := by
  simp [shown, String.join_append]

/-- A world in which requests are printed behind some output if there is room, and nothing is left
to write. -/
structure Prints (out : String) (full : Bool) (d : Disk) (w : World) : Prop where
  disk : w.disk = d
  queue : w.writer.queue = []
  stdout : w.stdout = (if full then out else out ++ shown (requests w.calls), full)

variable {out : String} {full : Bool}

theorem run_pause_of_idle (h : w.writer.queue = []) :
    ∃ schedule, World.pause.run w = ((), { w with schedule }) := by
  have hnone : w.writer.next? = none := by simp [Writer.next?, h]
  rw [World.run_pause]
  split
  · exact ⟨w.schedule, World.run_workFor_of_none w hnone _⟩
  next n later _ => exact ⟨later, World.run_workFor_of_none { w with schedule := later } hnone n⟩

theorem Prints.entered (h : Prints out full d w) (task : Task) :
    Prints out full d (task.entered w) := by
  unfold Task.entered
  split
  · obtain ⟨schedule, hpause⟩ := run_pause_of_idle h.queue
    rw [hpause]
    exact ⟨h.disk, h.queue, h.stdout⟩
  · exact h

theorem Prints.noted (h : Prints out full d w) (hnoted : Noted w w') : Prints out full d w' := by
  have hrequests := hnoted.requests_eq
  obtain ⟨log, calls, rfl⟩ := hnoted.eq
  refine ⟨h.disk, h.queue, h.stdout.trans ?_⟩
  rw [hrequests]

theorem Prints.submits (h : Prints out full d w) (hsink : t.sink = .output)
    (r? : Option WriteRequest) : Prints out full d ((submits t r?).run w).2 := by
  cases r? with
  | none => exact h
  | some r =>
    have hrun : ((Walk.submits t (some r)).run w).2 =
        ((World.printRequest r).run { w with calls := w.calls ++ [.submit r] }).2 := by
      simp only [Walk.submits, Toolchain.capabilities, run_bind, run_note, hsink]
    obtain ⟨hdisk, hwriter, hcalls⟩ :=
      World.frame_printRequest { w with calls := w.calls ++ [.submit r] } r
    obtain ⟨houtput, hfull⟩ := Prod.mk.inj h.stdout
    rw [hrun]
    refine ⟨hdisk.trans h.disk, (congrArg (·.queue) hwriter).trans h.queue, ?_⟩
    rw [World.stdout_printRequest, hcalls, World.requests_append, shown_append]
    dsimp only
    rw [houtput, hfull]
    cases full with
    | true => rfl
    | false => exact congrArg (·, false) (String.append_assoc ..)

theorem Prints.run (h : Prints out full d w) (hsink : t.sink = .output) (fuel : Nat)
    (p : Progress) :
    ∃ w', (Walk.run t e fuel p).run w = ((still t e d fuel p).1, w') ∧ Prints out full d w' ∧
      requests w'.calls = requests w.calls ++ (still t e d fuel p).2 := by
  obtain ⟨-, w', hrun, hprints, hrequests⟩ := run_eq_still (I := fun _ ↦ Prints out full d)
    (fun _ _ task h ↦ (h.entered task).disk)
    (fun _ _ task _ r? h hn ↦ ((h.entered task).noted hn).submits hsink r?) h p
  exact ⟨w', hrun, hprints, hrequests⟩

/-- A world whose writer does nothing at the next points. -/
structure Holds (d : Disk) (points : Nat) (w : World) : Prop where
  disk : w.disk = d
  schedule : ∃ k, w.schedule = List.replicate (points + k) 0

theorem Holds.pause {points : Nat} (h : Holds d (points + 1) w) :
    Holds d points (World.pause.run w).2 := by
  obtain ⟨k, hk⟩ := h.schedule
  rw [Nat.add_right_comm, List.replicate_succ] at hk
  rw [Scene.run_pause_of_zero hk]
  exact ⟨h.disk, k, rfl⟩

theorem Holds.mono {points points' : Nat} (h : Holds d points w) (hle : points' ≤ points) :
    Holds d points' w := by
  obtain ⟨k, hk⟩ := h.schedule
  exact ⟨h.disk, points - points' + k, by rw [hk]; congr 1; omega⟩

theorem Holds.entered {points : Nat} (h : Holds d (points + 1) w) (task : Task) :
    Holds d points (task.entered w) := by
  unfold Task.entered
  split
  · exact h.pause
  · exact h.mono (Nat.le_succ _)

theorem Holds.noted {points : Nat} (h : Holds d points w) (hnoted : Noted w w') :
    Holds d points w' := by
  obtain ⟨log, calls, rfl⟩ := hnoted.eq
  exact ⟨h.disk, h.schedule⟩

theorem Holds.submit {points : Nat} (h : Holds d (points + 1) w) (r : WriteRequest) :
    Holds d points ((World.submit r).run w).2 := by
  cases hw : w.writer.submit? r with
  | some writer =>
    rw [World.run_submit_of_some w hw]
    exact Holds.pause (w := { w with writer }) ⟨h.disk, h.schedule⟩
  | none =>
    rw [World.run_submit_of_none w hw, World.run_report]
    have h := h.mono (Nat.le_succ points)
    split
    · exact ⟨h.disk, h.schedule⟩
    · exact ⟨h.disk, h.schedule⟩

theorem Holds.submits {points : Nat} (h : Holds d (points + 1) w) (hsink : t.sink = .writer)
    (r? : Option WriteRequest) : Holds d points ((submits t r?).run w).2 := by
  cases r? with
  | none => exact h.mono (Nat.le_succ _)
  | some r =>
    rw [Walk.submits, World.run_submit_of_writer w hsink]
    exact Holds.submit (w := { w with calls := w.calls ++ [.submit r] }) ⟨h.disk, h.schedule⟩ r

theorem Holds.run {fuel : Nat} (h : Holds d (2 * fuel) w) (hsink : t.sink = .writer)
    (p : Progress) : ∃ w', (Walk.run t e fuel p).run w = ((still t e d fuel p).1, w') ∧
      requests w'.calls = requests w.calls ++ (still t e d fuel p).2 := by
  obtain ⟨-, w', hrun, -, hrequests⟩ := run_eq_still (I := fun n ↦ Holds d (2 * n))
    (fun n _ task h ↦ (Holds.entered (show Holds d (2 * n + 1 + 1) _ from h) task).disk)
    (fun n _ task _ r? h hn ↦
      ((Holds.entered (show Holds d (2 * n + 1 + 1) _ from h) task).noted hn).submits hsink r?) h p
  exact ⟨w', hrun, hrequests⟩

def stillFrom (t : Toolchain) (e : Exclusion) (d : Disk) (root : String) :
    Except Failure Summary × List WriteRequest :=
  match start d (encode root) with
  | .error f => (.error f, [])
  | .ok tasks => still t e d (taskBound d) ⟨tasks, {}⟩

theorem Prints.run_fromDirectory (h : Prints out full d w) (hsink : t.sink = .output)
    (root : String) :
    ∃ w', (fromDirectory t e root).run w = ((stillFrom t e d root).1, w') ∧ Prints out full d w' ∧
      requests w'.calls = requests w.calls ++ (stillFrom t e d root).2 := by
  unfold fromDirectory stillFrom
  simp only [run_bind, run_get, h.disk]
  cases start d (encode root) with
  | error f => exact ⟨w, rfl, h, (List.append_nil _).symm⟩
  | ok tasks => exact h.run hsink _ _

theorem tasks_of_gain_file {path : Text.Bytes} {kind : Disk.Kind} (hk : kind ≠ .dir) {g : Gain}
    (h : (Task.visit path kind).gain t e d = .ok g) : g.tasks = [] := by
  cases kind with
  | dir => exact absurd rfl hk
  | file | link =>
    simp only [Task.gain] at h
    split at h
    · cases h
      rfl
    · obtain ⟨_, _, -, -, rfl⟩ := sheetGain_eq_ok_iff.1 h
      rfl

theorem run_fromFile {root : String} {n : Node} (hnode : d.node (encode root) false = .ok n)
    (hfile : n.kind = .file) (hdisk : w.disk = d) (hqueue : w.writer.queue = []) :
    ∃ w', (fromDirectory t e root).run w = ((stillFrom t e d root).1, w') ∧
      requests w'.calls = requests w.calls ++ (stillFrom t e d root).2 := by
  have hstart := start_of_node hnode (by simp [hfile])
  obtain ⟨noted, hn, hstep⟩ :=
    run_step (t := t) (e := e) (.visit (encode root) n.kind) [] {} w
  have hentered : ((Task.visit (encode root) n.kind).entered w).disk = d := by
    unfold Task.entered
    split
    · obtain ⟨schedule, hpause⟩ := run_pause_of_idle hqueue
      rw [hpause]
      exact hdisk
    · exact hdisk
  have hcalls : requests noted.calls = requests w.calls := by
    rw [hn.requests_eq, requests_entered]
  obtain ⟨k, hbound⟩ : ∃ k, taskBound d = k + 1 := ⟨_, rfl⟩
  rw [hentered] at hstep
  rw [run_fromDirectory (hdisk ▸ hstart), hdisk, hbound, run_succ, hstep, stillFrom, hstart, hbound]
  simp only [still]
  cases hgain : (Task.visit (encode root) n.kind).gain t e d with
  | error f => exact ⟨noted, rfl, by simp [hcalls]⟩
  | ok g =>
    have htasks := tasks_of_gain_file (by simp [hfile]) hgain
    simp only [outcome, htasks, List.append_nil]
    refine ⟨((submits t g.request?).run noted).2, ?_, ?_⟩
    · cases k <;> rfl
    · rw [requests_submits, hcalls]
      cases k <;> simp [still]

/-- Whatever the writer does beside a walk of tools that take no notice of typings, the walk answers
and submits what it would on a disk that stays as it is. -/
theorem run_written {root : String} (hwf : d.top.WellFormed) (hsteady : t.Steady d)
    (hsink : t.sink = .writer)
    (hlinks : ∀ n, d.node (encode root) false = .ok n → NoLinks n)
    (hshows : Scene.Shows (Scene.begin d root) w) :
    ∃ w', (fromDirectory t e root).run w = ((stillFrom t e d root).1, w') ∧
      requests w'.calls = (stillFrom t e d root).2 := by
  have hdisk : w.disk = d := hshows.disk_eq
  have hqueue : w.writer.queue = [] := hshows.queue_eq
  have hrequests : requests w.calls = [] := hshows.requests_eq
  cases hnode : d.node (encode root) false with
  | error fault =>
    have hstart : start d (encode root) = .error (failure (encode root) fault) := by
      rw [start, hnode]
    refine ⟨w, ?_, by rw [hrequests, stillFrom, hstart]⟩
    unfold fromDirectory stillFrom
    simp only [run_bind, run_get, hdisk, hstart]
    rfl
  | ok n =>
    have hn := hlinks n hnode
    cases hkind : n.kind with
    | link =>
      cases n with
      | link target => exact absurd (Node.at?_nil _) (hn [] target)
      | file _ _ | dir _ => cases hkind
    | file =>
      obtain ⟨w', hrun, hcalls⟩ := run_fromFile (t := t) (e := e) hnode hkind hdisk hqueue
      exact ⟨w', hrun, by rw [hcalls, hrequests, List.nil_append]⟩
    | dir =>
      obtain ⟨top, hground, hbound⟩ := exists_ground hwf hnode (by simp [hkind])
      have c : Calm (t.frozen d) d (encode root) top n :=
        ⟨hground, hkind, hn, t.functional_frozen d, hsink⟩
      have htame : Tame (Retyped d) Retypes w := ⟨hdisk ▸ .refl, by simp [hqueue]⟩
      obtain ⟨s, answer, w', hrun, hfollows, hphase⟩ :=
        Scene.exists_run_fromDirectory (e := e) c hnode hbound hshows
      -- The same walk with a writer that is held back is one on a disk that stays as it is.
      obtain ⟨held, hrun', -, -, hsubmitted⟩ :=
        hfollows.reachable.exists_run_held c hnode hbound hphase
      have hstart := start_of_node hnode (by simp [hkind])
      have hholds : Holds d (2 * taskBound d)
          { disk := d, schedule := List.replicate (2 * taskBound d) 0 } := ⟨rfl, 0, rfl⟩
      obtain ⟨held', hstill, hcalls⟩ :=
        hholds.run (t := t.frozen d) (e := e) hsink ⟨[.visit (encode root) n.kind], {}⟩
      rw [run_fromDirectory hstart] at hrun'
      obtain ⟨rfl, rfl⟩ := Prod.mk.inj (hrun'.symm.trans hstill)
      have hfrom : stillFrom t e d root = still (t.frozen d) e d (taskBound d)
          ⟨[.visit (encode root) n.kind], {}⟩ := by
        rw [stillFrom, hstart]
        exact still_congr (show t.compiler.compile d = (t.frozen d).compiler.compile d from rfl)
          (show t.formatter.format d = (t.frozen d).formatter.format d from rfl) _ _
      refine ⟨w', ?_, ?_⟩
      · rw [run_fromDirectory_frozen hsteady htame, hrun, hfrom]
      · rw [hfollows.shows.requests_eq, ← hsubmitted, hcalls, hfrom]
        rfl

end StyleTypings.Walk
