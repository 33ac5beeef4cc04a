import StyleTypings.Proofs.Walk.Onward
import StyleTypings.Proofs.Watch.Edits

namespace StyleTypings.Walk

open Disk (Location Name Node)
open Disk.Node (Alike)
open Text (Bytes encode)
open Watch (Functional NoLinks sheet sheetDisk skipping writingTools)
open World (Noted requests)

variable {t : Toolchain} {e : Exclusion}

namespace Scene

variable {s s' s'' : Scene} {w w' w'' : World}

/-- A scene of a world whose writer lives, and whose failures are reported without ado; `taking`
says whether the writer takes requests. -/
structure Shows (s : Scene) (w : World) (taking : Bool := true) : Prop where
  disk_eq : w.disk = s.disk
  queue_eq : w.writer.queue = s.waiting
  requests_eq : requests w.calls = s.submitted
  taking_eq : w.writer.taking = taking
  alive : w.writer.alive = true
  calm : w.reportPanics = false

theorem shows_begin (d : Disk) (root : String) (schedule : List Nat) :
    Shows (begin d root) { disk := d, schedule } :=
  ⟨rfl, rfl, rfl, rfl, rfl, rfl⟩

theorem Shows.congr (h : Shows s w) (schedule : List Nat) : Shows s { w with schedule } :=
  ⟨h.disk_eq, h.queue_eq, h.requests_eq, h.taking_eq, h.alive, h.calm⟩

theorem Shows.turn (h : Shows s w) (phase : Phase) (done : Nat) :
    Shows { s with phase, done } w :=
  ⟨h.disk_eq, h.queue_eq, h.requests_eq, h.taking_eq, h.alive, h.calm⟩

theorem Shows.noted (h : Shows s w) (hnoted : Noted w w') : Shows s w' := by
  have hrequests := hnoted.requests_eq
  obtain ⟨log, calls, rfl⟩ := hnoted.eq
  exact ⟨h.disk_eq, h.queue_eq, hrequests.trans h.requests_eq, h.taking_eq, h.alive, h.calm⟩

theorem Shows.accepts (h : Shows s w) : w.writer.accepts = true := by
  rw [Writer.accepts, h.taking_eq, h.alive]
  rfl

/-- What the program does is seen in scenes. Its writer may work at so many points at most; if a
schedule holds the writer back at all of them, it attempts nothing. -/
structure Follows (t : Toolchain) (e : Exclusion) (points : Nat) (s : Scene) (w : World)
    (s' : Scene) (w' : World) : Prop where
  reachable : Reachable t e s s'
  shows : Shows s' w'
  held (k : Nat) : w.schedule = List.replicate (k + points) 0 →
    s'.attempts = s.attempts ∧ s'.disk = s.disk ∧ ∃ j, w'.schedule = List.replicate (k + j) 0

theorem Follows.trans {points points' : Nat} (h : Follows t e points s w s' w')
    (h' : Follows t e points' s' w' s'' w'') : Follows t e (points + points') s w s'' w'' := by
  refine ⟨h.reachable.trans h'.reachable, h'.shows, fun k hk ↦ ?_⟩
  obtain ⟨hattempts, hdisk, j, hj⟩ := h.held (k + points') (by rw [hk]; congr 1; omega)
  obtain ⟨hattempts', hdisk', j', hj'⟩ := h'.held (k + j) (by rw [hj]; congr 1; omega)
  exact ⟨hattempts'.trans hattempts, hdisk'.trans hdisk, j + j', by rw [hj', Nat.add_assoc]⟩

theorem Follows.mono {points points' : Nat} (h : Follows t e points s w s' w')
    (hle : points ≤ points') : Follows t e points' s w s' w' := by
  refine ⟨h.reachable, h.shows, fun k hk ↦ ?_⟩
  obtain ⟨hattempts, hdisk, j, hj⟩ := h.held (k + (points' - points))
    (by rw [hk]; congr 1; omega)
  exact ⟨hattempts, hdisk, points' - points + j, by rw [hj, Nat.add_assoc]⟩

theorem Follows.of_step (hstep : Step t e s s') (hshows : Shows s' w')
    (hattempts : s'.attempts = s.attempts) (hdisk : s'.disk = s.disk)
    (hschedule : w'.schedule = w.schedule) : Follows t e 0 s w s' w' :=
  ⟨.next .start hstep, hshows, fun _ hk ↦ ⟨hattempts, hdisk, 0, hschedule.trans hk⟩⟩

theorem Shows.work {taking : Bool} (h : Shows s w taking) : ∃ s', Reachable t e s s' ∧
    s'.phase = s.phase ∧ s'.done = s.done ∧ Shows s' (World.work.run w).2 taking := by
  cases hnext : w.writer.next? with
  | none =>
    rw [World.run_work_of_none w hnext]
    exact ⟨s, .start, rfl, rfl, h⟩
  | some next =>
    obtain ⟨r, writer⟩ := next
    rw [World.run_work_of_some w hnext]
    obtain ⟨-, hqueue, hwriter⟩ := Writer.next?_eq_some_iff.1 hnext
    have hwaiting : s.waiting = r :: writer.queue := h.queue_eq.symm.trans hqueue
    have htaking : writer.taking = taking := by
      rw [hwriter]
      exact h.taking_eq
    have halive : writer.alive = true := by
      rw [hwriter]
      exact h.alive
    unfold World.attempt
    split
    next disk hwrite =>
      rw [h.disk_eq] at hwrite
      exact ⟨_, .next .start (.attempt hwaiting .written hwrite), rfl, rfl, rfl, rfl, h.requests_eq,
        htaking, halive, h.calm⟩
    next fault _ =>
      rw [if_neg (by simp [h.calm])]
      exact ⟨_, .next .start (.attempt hwaiting (.failed fault none) rfl), rfl, rfl, h.disk_eq, rfl,
        h.requests_eq, htaking, halive, h.calm⟩

theorem Shows.workFor {taking : Bool} (h : Shows s w taking) (n : Nat) :
    ∃ s', Reachable t e s s' ∧ s'.phase = s.phase ∧ s'.done = s.done ∧
      Shows s' ((World.workFor n).run w).2 taking := by
  induction n generalizing s w with
  | zero => exact ⟨s, .start, rfl, rfl, h⟩
  | succ n ih =>
    obtain ⟨s₁, hreach, hphase, hdone, hshows⟩ := h.work (t := t) (e := e)
    obtain ⟨s₂, hreach', hphase', hdone', hshows'⟩ := ih hshows
    exact ⟨s₂, hreach.trans hreach', hphase'.trans hphase, hdone'.trans hdone, hshows'⟩

theorem Shows.pause (h : Shows s w) : ∃ s', s'.phase = s.phase ∧ s'.done = s.done ∧
    Follows t e 1 s w s' (World.pause.run w).2 := by
  rw [World.run_pause]
  cases hschedule : w.schedule with
  | nil =>
    obtain ⟨s', hreach, hphase, hdone, hshows⟩ :=
      h.workFor (t := t) (e := e) w.writer.queue.length
    exact ⟨s', hphase, hdone, hreach, hshows, by simp [hschedule, List.replicate_succ]⟩
  | cons n later =>
    cases n with
    | zero =>
      refine ⟨s, rfl, rfl, .start, h.congr later, fun k hk ↦ ⟨rfl, rfl, 0, ?_⟩⟩
      rw [hschedule, List.replicate_succ] at hk
      exact (List.cons.inj hk).2
    | succ n =>
      obtain ⟨s', hreach, hphase, hdone, hshows⟩ :=
        (h.congr later).workFor (t := t) (e := e) (n + 1)
      refine ⟨s', hphase, hdone, hreach, hshows, fun k hk ↦ ?_⟩
      rw [hschedule, List.replicate_succ] at hk
      cases (List.cons.inj hk).1

theorem Shows.finish (h : Shows s w) {answer : Except Failure Summary}
    (hphase : s.phase = .ended answer) : ∃ s', Reachable t e s s' ∧ s'.Finished answer ∧
      (World.finish.run w).2.disk = s'.disk ∧
      requests (World.finish.run w).2.calls = s'.submitted := by
  have hclosed : Shows s { w with writer := w.writer.close } false :=
    ⟨h.disk_eq, h.queue_eq, h.requests_eq, rfl, h.alive, h.calm⟩
  obtain ⟨s', hreach, hphase', -, hshows⟩ :=
    hclosed.workFor (t := t) (e := e) w.writer.queue.length
  have hidle := World.next?_workFor { w with writer := w.writer.close }
    (Nat.le_refl w.writer.queue.length)
  obtain ⟨log, hlog⟩ := World.exists_run_finish w h.taking_eq
  refine ⟨s', hreach, ⟨hphase'.trans hphase, ?_⟩, ?_, ?_⟩
  · rw [← hshows.queue_eq]
    refine Classical.byContradiction fun hne ↦ ?_
    obtain ⟨r, rest, hqueue⟩ := List.exists_cons_of_ne_nil hne
    simp [Writer.next?, hqueue, hshows.alive] at hidle
  · rw [hlog, ← hshows.disk_eq]
    rfl
  · rw [hlog, ← hshows.requests_eq]
    rfl

def handed (r? : Option WriteRequest) (w : World) : World :=
  { w with
    calls := w.calls ++ (r?.map Call.submit).toList
    writer := { w.writer with queue := w.writer.queue ++ r?.toList } }

theorem Shows.entered (h : Shows s w) (task : Task) : ∃ s', s'.phase = s.phase ∧
    s'.done = s.done ∧ Follows t e 1 s w s' (task.entered w) := by
  unfold Task.entered
  split
  · exact h.pause
  · refine ⟨s, rfl, rfl, .start, h, fun k hk ↦ ⟨rfl, rfl, 1, hk⟩⟩

section Writer

variable (hsink : t.sink = .writer)
include hsink

omit hsink in
theorem Shows.gained (h : Shows s w) (later : List Task) (summary : Summary) (g : Gain) :
    Shows (s.after later summary (.ok g)) (handed g.request? w) := by
  refine ⟨h.disk_eq, congrArg (· ++ _) h.queue_eq, ?_, h.taking_eq, h.alive, h.calm⟩
  rw [handed, World.requests_append, h.requests_eq]
  cases hr : g.request? <;> simp [after, hr, requests]

theorem Shows.submits {r? : Option WriteRequest} (haccepts : w.writer.accepts = true)
    (h : Shows s (handed r? w)) : ∃ s', s'.phase = s.phase ∧ s'.done = s.done ∧
      Follows t e 1 s (handed r? w) s' ((Walk.submits t r?).run w).2 := by
  cases r? with
  | none =>
    have hw : handed none w = w := by simp [handed]
    rw [hw] at h ⊢
    exact ⟨s, rfl, rfl, .start, h, fun k hk ↦ ⟨rfl, rfl, 1, hk⟩⟩
  | some r =>
    have htaken : w.writer.submit? r = some { w.writer with queue := w.writer.queue ++ [r] } := by
      rw [Writer.submit?, haccepts]
      rfl
    rw [Walk.submits, World.run_submit_of_writer w hsink,
      World.run_submit_of_some { w with calls := w.calls ++ [.submit r] } htaken]
    exact h.pause

theorem Shows.step (h : Shows s w) {task : Task} {later : List Task} {summary : Summary}
    (hphase : s.phase = .walking ⟨task :: later, summary⟩) :
    ∃ s' result w', (Walk.step t e ⟨task :: later, summary⟩).run w = (result, w') ∧
      Follows t e 2 s w s' w' ∧ s'.done = s.done + 1 ∧
      s'.phase = match result with
        | .ok p => .walking p
        | .error f => .ended (.error f) := by
  obtain ⟨noted, hnoted, hrun⟩ := run_step (t := t) (e := e) task later summary w
  obtain ⟨s₁, hphase₁, hdone₁, hfollows⟩ := h.entered (t := t) (e := e) task
  have hshows := hfollows.shows.noted hnoted
  have hstep := step_task (e := e) hsink (hphase₁.trans hphase)
  rw [hfollows.shows.disk_eq] at hrun
  cases hgain : task.gain t e s₁.disk with
  | error f =>
    rw [hgain] at hrun hstep
    have hafter : Follows t e 0 s₁ (task.entered w) (s₁.after later summary (.error f)) noted :=
      .of_step hstep (hshows.turn _ _) rfl rfl hnoted.schedule_eq
    exact ⟨_, _, _, hrun, (hfollows.trans hafter).mono (by omega), by simp [after, hdone₁], rfl⟩
  | ok g =>
    rw [hgain] at hrun hstep
    have hhanded := hshows.gained later summary g
    have hafter : Follows t e 0 s₁ (task.entered w) (s₁.after later summary (.ok g))
        (handed g.request? noted) := .of_step hstep hhanded rfl rfl hnoted.schedule_eq
    obtain ⟨s₂, hphase₂, hdone₂, hfollows₂⟩ := hhanded.submits (e := e) hsink hshows.accepts
    exact ⟨s₂, _, _, hrun, (hfollows.trans hafter).trans hfollows₂,
      hdone₂.trans (by simp [after, hdone₁]), hphase₂⟩

omit hsink in
theorem Shows.arrive (h : Shows s w) {summary : Summary}
    (hphase : s.phase = .walking ⟨[], summary⟩) (fuel : Nat) :
    ∃ s' answer w', (Walk.run t e fuel ⟨[], summary⟩).run w = (answer, w') ∧
      Follows t e (2 * fuel) s w s' w' ∧ s'.phase = .ended answer := by
  have hrun : (Walk.run t e fuel ⟨[], summary⟩).run w = (.ok summary, w) := by
    cases fuel <;> rfl
  have hafter : Follows t e 0 s w { s with phase := .ended (.ok summary) } w :=
    .of_step (.arrive hphase) (h.turn _ _) rfl rfl rfl
  exact ⟨_, _, _, hrun, hafter.mono (Nat.zero_le _), rfl⟩

/-- The walk of the program is seen in scenes up to its end, if it is given enough fuel. -/
theorem Shows.run (h : Shows s w) {p : Progress} {bound fuel : Nat} (hphase : s.phase = .walking p)
    (hbound : ∀ s' task later summary, Reachable t e s s' →
      s'.phase = .walking ⟨task :: later, summary⟩ → s'.done < bound)
    (hfuel : bound ≤ s.done + fuel) :
    ∃ s' answer w', (Walk.run t e fuel p).run w = (answer, w') ∧
      Follows t e (2 * fuel) s w s' w' ∧ s'.phase = .ended answer := by
  induction fuel generalizing s w p with
  | zero =>
    obtain ⟨_ | ⟨task, later⟩, summary⟩ := p
    · exact h.arrive hphase 0
    · -- A task is left and the fuel is out: more tasks are done than there can be.
      have := hbound s task later summary .start hphase
      omega
  | succ fuel ih =>
    obtain ⟨_ | ⟨task, later⟩, summary⟩ := p
    · exact h.arrive hphase (fuel + 1)
    · obtain ⟨s₁, result, w₁, hstep, hfollows, hdone₁, hphase₁⟩ := h.step (e := e) hsink hphase
      have hrun : (Walk.run t e (fuel + 1) ⟨task :: later, summary⟩).run w =
          match result with
          | .error f => (.error f, w₁)
          | .ok p => (Walk.run t e fuel p).run w₁ := by
        conv => lhs; unfold Walk.run
        simp only [World.run_bind, hstep]
        cases result <;> rfl
      rw [hrun]
      cases result with
      | error f => exact ⟨s₁, _, w₁, rfl, hfollows.mono (by omega), hphase₁⟩
      | ok p =>
        obtain ⟨s₂, answer, w₂, hrest, hfollows', hover⟩ := ih hfollows.shows hphase₁
          (fun s' task later summary hr ↦ hbound s' task later summary
            (hfollows.reachable.trans hr)) (by omega)
        exact ⟨s₂, answer, w₂, hrest, (hfollows.trans hfollows').mono (by omega), hover⟩

end Writer

/-- The program walks from a root and gives an answer; when its writer is finished, the disk and the
requests are those of a scene. -/
def Concludes (t : Toolchain) (e : Exclusion) (root : String) (w : World) (s : Scene)
    (answer : Except Failure Summary) : Prop :=
  ∃ w', (fromDirectory t e root).run w = (answer, w') ∧ (World.finish.run w').2.disk = s.disk ∧
    requests (World.finish.run w').2.calls = s.submitted

section Calm

variable {d : Disk} {root : String} {top : Location} {n : Node}
  (c : Calm t d (encode root) top n) (hnode : d.node (encode root) false = .ok n)
include c hnode

theorem Reachable.done_lt (h : Reachable t e (begin d root) s) {task : Task} {later : List Task}
    {summary : Summary} (hphase : s.phase = .walking ⟨task :: later, summary⟩) :
    s.done < weight (some n) := by
  obtain ⟨cost, hdone, hpending, -⟩ :=
    (h.onward c hnode (settled_refl c.wellFormed)).heads.walking hphase
  obtain ⟨cost', hcost, -⟩ := hpending.tail
  omega

theorem Reachable.done_le (h : Reachable t e (begin d root) s) : s.done ≤ weight (some n) := by
  have hheads := (h.onward c hnode (settled_refl c.wellFormed)).heads
  cases hphase : s.phase with
  | walking p =>
    obtain ⟨cost, hdone, -⟩ := hheads.walking hphase
    omega
  | ended answer => exact (hheads.ended hphase).1

/-- The program walks through scenes, whatever its writer does. -/
theorem exists_run_fromDirectory (hbound : weight (some n) ≤ taskBound d)
    (hshows : Shows (begin d root) w) :
    ∃ s answer w', (fromDirectory t e root).run w = (answer, w') ∧
      Follows t e (2 * taskBound d) (begin d root) w s w' ∧ s.phase = .ended answer := by
  have hstart := start_of_node hnode (by simp [c.directory])
  have hdisk : w.disk = d := hshows.disk_eq
  have hphase : (begin d root).phase = .walking ⟨[.visit (encode root) n.kind], {}⟩ := by
    rw [begin, hstart]
  have hdone : ∀ s' task later summary, Reachable t e (begin d root) s' →
      s'.phase = .walking ⟨task :: later, summary⟩ → s'.done < weight (some n) :=
    fun s' task later summary h hwalking ↦ h.done_lt c hnode hwalking
  rw [run_fromDirectory (hdisk ▸ hstart), hdisk]
  exact hshows.run c.sink hphase hdone (by simpa [begin] using hbound)

theorem exists_concludes (hbound : weight (some n) ≤ taskBound d)
    (hshows : Shows (begin d root) w) :
    ∃ s answer, Reachable t e (begin d root) s ∧ s.Finished answer ∧
      Concludes t e root w s answer := by
  obtain ⟨s, answer, w', hrun, hfollows, hphase⟩ :=
    exists_run_fromDirectory (e := e) c hnode hbound hshows
  obtain ⟨s', hreach, hfinished, hdisk, hrequests⟩ :=
    hfollows.shows.finish (t := t) (e := e) hphase
  exact ⟨s', answer, hfollows.reachable.trans hreach, hfinished, w', hrun, hdisk, hrequests⟩

theorem Reachable.exists_run (h : Reachable t e (begin d root) s)
    (hbound : weight (some n) ≤ taskBound d) {answer : Except Failure Summary}
    (hphase : s.phase = .ended answer) (hshows : Shows (begin d root) w) :
    ∃ s' w', (fromDirectory t e root).run w = (answer, w') ∧
      Follows t e (2 * taskBound d) (begin d root) w s' w' ∧ s'.submitted = s.submitted := by
  obtain ⟨s', answer', w', hrun, hfollows, hphase'⟩ :=
    exists_run_fromDirectory (e := e) c hnode hbound hshows
  obtain ⟨rfl, hsubmitted⟩ := h.agree c hnode (settled_refl c.wellFormed)
    (settled_refl c.wellFormed) hfollows.reachable hphase hphase'
  exact ⟨s', w', hrun, hfollows, hsubmitted⟩

theorem Reachable.exists_run_held (h : Reachable t e (begin d root) s)
    (hbound : weight (some n) ≤ taskBound d) {answer : Except Failure Summary}
    (hphase : s.phase = .ended answer) :
    ∃ w, (fromDirectory t e root).run
        { disk := d, schedule := List.replicate (2 * taskBound d) 0 } = (answer, w) ∧
      w.disk = d ∧ w.writer.queue = s.submitted ∧ requests w.calls = s.submitted := by
  obtain ⟨s', w, hrun, hfollows, hsubmitted⟩ :=
    h.exists_run c hnode hbound hphase (shows_begin d root (List.replicate (2 * taskBound d) 0))
  obtain ⟨hattempts, hdisk, -⟩ := hfollows.held 0 (by rw [Nat.zero_add])
  have hwaiting : s'.waiting = s'.submitted := by
    simpa [hattempts, begin] using (hfollows.reachable.accounts c.sink).split
  refine ⟨w, hrun, hfollows.shows.disk_eq.trans hdisk, ?_, ?_⟩
  · rw [hfollows.shows.queue_eq, hwaiting, hsubmitted]
  · rw [hfollows.shows.requests_eq, hsubmitted]

theorem Reachable.agree_again (h : Reachable t e (begin d root) s)
    {answer answer' : Except Failure Summary} (hfinished : s.Finished answer)
    (h' : Reachable t e (begin s.disk root) s') (hfinished' : s'.Finished answer') :
    answer' = answer ∧ s'.submitted = s.submitted :=
  h.agree c hnode (settled_refl c.wellFormed)
    (h.onward c hnode (settled_refl c.wellFormed)).settled h' hfinished.1 hfinished'.1

theorem Reachable.exists_concludes_again (h : Reachable t e (begin d root) s)
    {answer : Except Failure Summary} (hfinished : s.Finished answer)
    (hshows : Shows (begin s.disk root) w) : ∃ s', Reachable t e (begin s.disk root) s' ∧
      s'.Finished answer ∧ Concludes t e root w s' answer := by
  have hsettled := (h.onward c hnode (settled_refl c.wellFormed)).settled
  obtain ⟨n₁, hnode₁, c₁, hbound₁⟩ := hsettled.exists_calm c hnode
  obtain ⟨s', answer', h', hfinished', hconcludes⟩ := exists_concludes c₁ hnode₁ hbound₁ hshows
  obtain ⟨rfl, -⟩ := h.agree_again c hnode hfinished h' hfinished'
  exact ⟨s', h', hfinished', hconcludes⟩

theorem Reachable.exists_typings (h : Reachable t e (begin d root) s) {location : Location}
    (hchanged : ¬Option.Rel Alike (d.top.at? location) (s.disk.top.at? location)) :
    ∃ text contents, Module.isModule text = true ∧
      ⟨Module.typingsPath text, contents⟩ ∈ s.submitted ∧
      d.spot? (encode (Module.typingsPath text)) = some location := by
  have haccounts := h.accounts c.sink
  obtain ⟨r, bytes, hr, hspot⟩ := haccounts.changed location hchanged
  have hmem := haccounts.mem_submitted hr
  obtain ⟨above, x, text, g, -, hc, hg, hrequest⟩ :=
    (h.onward c hnode (settled_refl c.wellFormed)).asked r hmem
  obtain ⟨content, names, -, -, rfl⟩ := sheetGain_eq_ok_iff.1 hg
  cases hrequest
  exact ⟨text, _, hc.isModule, hmem, hspot⟩

theorem Reachable.length_le (h : Reachable t e (begin d root) s)
    (hbound : weight (some n) ≤ taskBound d) :
    s.done + s.attempts.length ≤ 2 * taskBound d := by
  have haccounts := h.accounts c.sink
  have hattempts : s.attempts.length ≤ s.submitted.length := by
    rw [← haccounts.split, List.length_append, List.length_map]
    exact Nat.le_add_right ..
  have := haccounts.length_le
  have := h.done_le c hnode
  omega

end Calm

theorem exists_step_or_finished (hsink : t.sink = .writer) (s : Scene) :
    (∃ s', Step t e s s') ∨ ∃ answer, s.Finished answer := by
  obtain ⟨disk, phase, waiting, submitted, attempts, done⟩ := s
  cases phase with
  | walking p =>
    obtain ⟨_ | ⟨task, later⟩, summary⟩ := p
    · exact .inl ⟨_, .arrive rfl⟩
    · exact .inl ⟨_, step_task hsink rfl⟩
  | ended answer =>
    cases waiting with
    | nil => exact .inr ⟨answer, rfl, rfl⟩
    | cons r rest => exact .inl ⟨_, .attempt rfl (.failed .noSpace none) rfl⟩

/-- Whatever an attempt of one walk leaves in its file, the last attempt of another walk at the same
request left there. So it is if the same writes succeed and the others leave their files alone. -/
def Repeats (s s' : Scene) : Prop :=
  ∀ r bytes, (r, bytes) ∈ s'.left → s.lastLeft r = some bytes

/-- A walk from a directory without links is the same however the writer works beside it, whichever
of its writes fail and whatever they leave in their files. What the program does is one of these
walks, for every schedule of its writer. Each of them comes to its end; it submits and answers what
the program does if the writer is held back until the walk is over; only typings of stylesheets that
it submitted have changed; and the program answers the same when it walks on the disk that is left,
where every walk submits the same. That second walk changes nothing if its writes go like those of
the first one; in any case it changes only files in which it leaves something else, which no write
does that has succeeded in both. -/
theorem undisturbed {d : Disk} {root : String} {n : Node} (hwf : d.top.WellFormed)
    (hnode : d.node (encode root) false = .ok n) (hdir : n.kind = .dir) (hlinks : NoLinks n)
    (hfunctional : Functional t) (hsink : t.sink = .writer) :
    (∀ w, Shows (begin d root) w → ∃ s answer, Reachable t e (begin d root) s ∧
        s.Finished answer ∧ Concludes t e root w s answer) ∧
      ∀ s, Reachable t e (begin d root) s →
        (((∃ s', Step t e s s') ∨ ∃ answer, s.Finished answer) ∧
          s.done + s.attempts.length ≤ 2 * taskBound d) ∧
        (∀ answer, s.phase = .ended answer →
          ∃ w, (fromDirectory t e root).run
              { disk := d, schedule := List.replicate (2 * taskBound d) 0 } = (answer, w) ∧
            w.disk = d ∧ w.writer.queue = s.submitted ∧ requests w.calls = s.submitted) ∧
        (∀ location, ¬Option.Rel Alike (d.top.at? location) (s.disk.top.at? location) →
          ∃ text contents, Module.isModule text = true ∧
            ⟨Module.typingsPath text, contents⟩ ∈ s.submitted ∧
            d.spot? (encode (Module.typingsPath text)) = some location) ∧
        ∀ answer, s.Finished answer →
          (∀ w, Shows (begin s.disk root) w → ∃ s', Reachable t e (begin s.disk root) s' ∧
            s'.Finished answer ∧ Concludes t e root w s' answer) ∧
          ∀ s' answer', Reachable t e (begin s.disk root) s' → s'.Finished answer' →
            answer' = answer ∧ s'.submitted = s.submitted ∧ (Repeats s s' → s'.disk = s.disk) ∧
              ∀ location, ¬Option.Rel Alike (s.disk.top.at? location) (s'.disk.top.at? location) →
                ∃ r bytes, (r, bytes) ∈ s'.left ∧ s.lastLeft r ≠ some bytes ∧
                  d.spot? (encode r.target) = some location := by
  obtain ⟨top, hground, hbound⟩ := exists_ground hwf hnode (by simp [hdir])
  have c : Calm t d (encode root) top n := ⟨hground, hdir, hlinks, hfunctional, hsink⟩
  refine ⟨fun w hshows ↦ exists_concludes c hnode hbound hshows, fun s h ↦ ⟨?_, ?_, ?_, ?_⟩⟩
  · exact ⟨exists_step_or_finished hsink s, h.length_le c hnode hbound⟩
  · exact fun answer hphase ↦ h.exists_run_held c hnode hbound hphase
  · exact fun location hchanged ↦ h.exists_typings c hnode hchanged
  · intro answer hfinished
    refine ⟨fun w hshows ↦ h.exists_concludes_again c hnode hfinished hshows, ?_⟩
    intro s' answer' h' hfinished'
    obtain ⟨hanswer, hsubmitted⟩ := h.agree_again c hnode hfinished h' hfinished'
    exact ⟨hanswer, hsubmitted, h.disk_eq c hnode h', h.changed_again c hnode h'⟩

def sparedNode : Node :=
  .dir [([118], .dir [(encode "x.module.css", .file (encode ".b\x7b\x7d") false)]),
    (encode "a.module.css", .file (encode ".b\x7b\x7d") false)]

def sparedDisk : Disk where
  top := .dir [([115], sparedNode)]

theorem wellFormed_sparedDisk : sparedDisk.top.WellFormed := by
  have hwrite : (sheetDisk (encode ".b\x7b\x7d")).write (encode "/s/v/x.module.css")
      (encode ".b\x7b\x7d") = .ok sparedDisk := by cbv
  exact Disk.wellFormed_of_write hwrite (Watch.setting_sheetDisk _).wellFormed

theorem node_sparedDisk : sparedDisk.node (encode "/s") false = .ok sparedNode := by cbv

theorem noLinks_sparedNode : NoLinks sparedNode :=
  Watch.noLinks_dir (by simp [Watch.noLinks_dir, Watch.noLinks_file])

def sparedRequest : WriteRequest := writingTools.requestFor sparedDisk ["b"] sheet

theorem exists_write_sparedRequest (content : Bytes) :
    ∃ disk, sparedDisk.write (encode sparedRequest.target) content = .ok disk := by
  have hspot : sparedDisk.spot? (encode (Module.typingsPath sheet)) =
      some [[115], encode "a.module.css.d.ts"] := by cbv
  exact Disk.exists_write hspot content

theorem exists_reachable_sparedDisk (outcome : Disk.Outcome) {disk : Disk}
    (h : sparedDisk.leave (encode sparedRequest.target)
      (outcome.left? (encode sparedRequest.contents)) = .ok disk) :
    ∃ s, Reachable writingTools skipping (begin sparedDisk "/s") s ∧ s.disk = disk ∧
      s.attempts = [(sparedRequest, outcome)] ∧ s.submitted = [sparedRequest] ∧
      s.Finished (.ok ⟨["/s/a.module.css.d.ts"], ["/s/v"]⟩) := by
  have hread : sparedDisk.readText (encode sheet) = .ok ".b\x7b\x7d" := by
    have hbytes : sparedDisk.read (encode sheet) = .ok (encode ".b\x7b\x7d") := by cbv
    simp only [Disk.readText, hbytes, Text.decode?_eq_some_iff.2 rfl]
  have hsheet : stylesheet? (encode sheet) = some sheet :=
    stylesheet?_eq_some_iff.2 ⟨Text.decode?_eq_some_iff.2 rfl, by decide +kernel⟩
  have hstart : start sparedDisk (encode "/s") = .ok [.visit (encode "/s") .dir] := by cbv
  have hvisit : (Task.visit (encode "/s") .dir).gain writingTools skipping sparedDisk =
      .ok { tasks := [.enter (encode "/s")] } := by cbv
  have henter : (Task.enter (encode "/s")).gain writingTools skipping sparedDisk =
      .ok { tasks := [.visit (encode sheet) .file, .visit (encode "/s/v") .dir] } := by cbv
  have hfile : (Task.visit (encode sheet) .file).gain writingTools skipping sparedDisk =
      .ok { summary := ⟨["/s/a.module.css.d.ts"], []⟩
            request? := some sparedRequest } := by
    simp only [Task.gain, hsheet]
    exact sheetGain_eq_ok_iff.2 ⟨_, _, hread, Watch.namesOf_sheet _, rfl⟩
  have hskip : (Task.visit (encode "/s/v") .dir).gain writingTools skipping sparedDisk =
      .ok { summary := ⟨[], ["/s/v"]⟩ } := by cbv
  have hbegin : (begin sparedDisk "/s").phase = .walking ⟨[.visit (encode "/s") .dir], {}⟩ := by
    rw [begin, hstart]
  have hwalked := ((((Reachable.start.task rfl hbegin hvisit).task rfl rfl henter).task rfl rfl
    hfile).task rfl rfl hskip).next (.arrive rfl)
  exact ⟨_, hwalked.next (.attempt (r := sparedRequest) rfl outcome h), rfl, rfl, rfl, rfl, rfl⟩

theorem repeats_of_attempts {s s' : Scene} {r : WriteRequest} (h : s.attempts = [(r, .written)])
    (h' : s'.attempts = s.attempts) : Repeats s s' := by
  intro r' bytes hmem
  obtain ⟨rfl, rfl⟩ : r' = r ∧ bytes = encode r.contents := by
    simpa [left, h', h, Disk.Outcome.left?] using hmem
  simp [lastLeft, left, h, Disk.Outcome.left?]

theorem undisturbed_spared : ∃ s r,
    Reachable writingTools skipping (begin sparedDisk "/s") s ∧ s.attempts = [(r, .written)] ∧
      s.Finished (.ok ⟨["/s/a.module.css.d.ts"], ["/s/v"]⟩) ∧
      (∃ w, (fromDirectory writingTools skipping "/s").run
          { disk := sparedDisk, schedule := List.replicate (2 * taskBound sparedDisk) 0 } =
            (.ok ⟨["/s/a.module.css.d.ts"], ["/s/v"]⟩, w) ∧
        w.disk = sparedDisk ∧ w.writer.queue = s.submitted) ∧
      ∃ s', s'.submitted = s.submitted ∧ (s'.attempts = s.attempts → s'.disk = s.disk) ∧
        Concludes writingTools skipping "/s" { disk := s.disk } s'
          (.ok ⟨["/s/a.module.css.d.ts"], ["/s/v"]⟩) := by
  obtain ⟨disk, hwrite⟩ := exists_write_sparedRequest (encode sparedRequest.contents)
  obtain ⟨s, hreach, -, hattempts, -, hfinished⟩ := exists_reachable_sparedDisk .written hwrite
  obtain ⟨-, hall⟩ := undisturbed wellFormed_sparedDisk node_sparedDisk rfl noLinks_sparedNode
    (t := writingTools) (e := skipping) ⟨fun _ _ ↦ rfl, fun _ _ ↦ rfl⟩ rfl
  obtain ⟨-, hheld, -, hagain⟩ := hall s hreach
  obtain ⟨w, hrun, hdisk, hqueue, -⟩ := hheld _ hfinished.1
  obtain ⟨hconcludes, hsame⟩ := hagain _ hfinished
  obtain ⟨s', hreach', hfinished', hconcludes'⟩ := hconcludes _ (shows_begin s.disk "/s" [])
  obtain ⟨-, hsubmitted, hdisk', -⟩ := hsame s' _ hreach' hfinished'
  exact ⟨s, sparedRequest, hreach, hattempts, hfinished, ⟨w, hrun, hdisk, hqueue⟩, s', hsubmitted,
    fun heq ↦ hdisk' (repeats_of_attempts hattempts heq), hconcludes'⟩

/-- The same writes succeed in both walks, none of them, and still the second one leaves a file
behind that the first one did not: its write failed when it had made the file. -/
theorem disk_changed_of_same_written : ∃ s s' answer,
    Reachable writingTools skipping (begin sparedDisk "/s") s ∧ s.Finished answer ∧
      Reachable writingTools skipping (begin s.disk "/s") s' ∧ s'.Finished answer ∧
      (∀ r, (r, .written) ∈ s'.attempts ↔ (r, .written) ∈ s.attempts) ∧
      s.disk.contents (encode "/s/a.module.css.d.ts") = .error .noEntry ∧
      s'.disk.contents (encode "/s/a.module.css.d.ts") = .ok [] := by
  obtain ⟨disk, hwrite⟩ := exists_write_sparedRequest []
  obtain ⟨s, hreach, hdisk, hattempts, -, hfinished⟩ :=
    exists_reachable_sparedDisk (.failed .noSpace none) rfl
  obtain ⟨s', hreach', hdisk', hattempts', -, hfinished'⟩ :=
    exists_reachable_sparedDisk (.failed .noSpace (some [])) hwrite
  have hmissing : sparedDisk.contents (encode "/s/a.module.css.d.ts") = .error .noEntry := by cbv
  refine ⟨s, s', _, hreach, hfinished, hdisk ▸ hreach', hfinished', ?_, hdisk ▸ hmissing, ?_⟩
  · simp [hattempts, hattempts']
  · obtain ⟨spot, executable, w⟩ := Disk.exists_wrote hwrite
    rw [hdisk']
    exact w.contents_same w.fileAt?_self

end Scene
end StyleTypings.Walk
