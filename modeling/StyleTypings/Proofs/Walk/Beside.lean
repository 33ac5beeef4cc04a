import StyleTypings.Proofs.Disk.Spots
import StyleTypings.Proofs.Walk.Gains

namespace StyleTypings.Walk

open Disk (Location)
open Disk.Node (Alike)
open Text (Bytes encode)
open World (Noted requests)

inductive Phase where
  | walking (p : Progress)
  | ended (answer : Except Failure Summary)

structure Scene where
  disk : Disk
  phase : Phase
  /-- The requests that the writer has not attempted, oldest first. -/
  waiting : List WriteRequest := []
  submitted : List WriteRequest := []
  /-- The requests that the writer has attempted, in order, and what came of each of them. -/
  attempts : List (WriteRequest × Disk.Outcome) := []
  done : Nat := 0

namespace Scene

/-- The world that a task finds; the writer does nothing while the task is done. -/
def world (s : Scene) : World where
  disk := s.disk
  writer := { queue := s.waiting }
  schedule := [0, 0]

def leave (s : Scene) (w : World) (phase : Phase) : Scene :=
  { s with
    disk := w.disk
    phase
    waiting := w.writer.queue
    submitted := s.submitted ++ requests w.calls
    done := s.done + 1 }

def begin (d : Disk) (root : String) : Scene where
  disk := d
  phase :=
    match start d (encode root) with
    | .error f => .ended (.error f)
    | .ok tasks => .walking ⟨tasks, {}⟩

/-- The walk is over, and the writer has attempted all that was submitted: what finishing the writer
waits for. -/
def Finished (s : Scene) (answer : Except Failure Summary) : Prop :=
  s.phase = .ended answer ∧ s.waiting = []

variable (t : Toolchain) (e : Exclusion)

/-- What can happen next. A task begins with all that it reads from the disk, so that the writer
need not work in the midst of one. -/
inductive Step : Scene → Scene → Prop
  | walk {s : Scene} {task : Task} {later : List Task} {summary : Summary} {p : Progress}
      {w : World} (hphase : s.phase = .walking ⟨task :: later, summary⟩)
      (h : (Walk.step t e ⟨task :: later, summary⟩).run s.world = (.ok p, w)) :
      Step s (s.leave w (.walking p))
  | stop {s : Scene} {task : Task} {later : List Task} {summary : Summary} {f : Failure}
      {w : World} (hphase : s.phase = .walking ⟨task :: later, summary⟩)
      (h : (Walk.step t e ⟨task :: later, summary⟩).run s.world = (.error f, w)) :
      Step s (s.leave w (.ended (.error f)))
  | arrive {s : Scene} {summary : Summary} (hphase : s.phase = .walking ⟨[], summary⟩) :
      Step s { s with phase := .ended (.ok summary) }
  | attempt {s : Scene} {r : WriteRequest} {rest : List WriteRequest} {disk : Disk}
      (hwaiting : s.waiting = r :: rest) (outcome : Disk.Outcome)
      (h : s.disk.leave (encode r.target) (outcome.left? (encode r.contents)) = .ok disk) :
      Step s { s with disk, waiting := rest, attempts := s.attempts ++ [(r, outcome)] }

inductive Reachable (first : Scene) : Scene → Prop
  | start : Reachable first first
  | next {s s' : Scene} (h : Reachable first s) (step : Step t e s s') : Reachable first s'

variable {t e} {first s s' : Scene}

theorem Reachable.trans (h : Reachable t e first s) (h' : Reachable t e s s') :
    Reachable t e first s' := by
  induction h' with
  | start => exact h
  | next _ step ih => exact ih.next step

def after (s : Scene) (later : List Task) (summary : Summary) : Except Failure Gain → Scene
  | .error f => { s with phase := .ended (.error f), done := s.done + 1 }
  | .ok g => { s with
      phase := .walking ⟨g.tasks ++ later, summary ++ g.summary⟩
      waiting := s.waiting ++ g.request?.toList
      submitted := s.submitted ++ g.request?.toList
      done := s.done + 1 }

variable (t e) in
inductive Moves : Scene → Scene → Prop
  | task {s : Scene} {task : Task} {later : List Task} {summary : Summary}
      (hphase : s.phase = .walking ⟨task :: later, summary⟩) :
      Moves s (s.after later summary (task.gain t e s.disk))
  | arrive {s : Scene} {summary : Summary} (hphase : s.phase = .walking ⟨[], summary⟩) :
      Moves s { s with phase := .ended (.ok summary) }
  | attempt {s : Scene} {r : WriteRequest} {rest : List WriteRequest} {disk : Disk}
      (hwaiting : s.waiting = r :: rest) (outcome : Disk.Outcome)
      (h : s.disk.leave (encode r.target) (outcome.left? (encode r.contents)) = .ok disk) :
      Moves s { s with disk, waiting := rest, attempts := s.attempts ++ [(r, outcome)] }

theorem run_pause_of_zero {w : World} {later : List Nat} (h : w.schedule = 0 :: later) :
    World.pause.run w = ((), { w with schedule := later }) := by
  rw [World.run_pause, h]
  rfl

/-- A world whose writer takes requests and does nothing when it may work next. -/
structure Resting (w : World) : Prop where
  schedule : ∃ later, w.schedule = 0 :: later
  accepts : w.writer.accepts = true

theorem resting_entered (task : Task) (s : Scene) :
    Resting (task.entered s.world) ∧ (task.entered s.world).disk = s.disk ∧
      (task.entered s.world).writer.queue = s.waiting ∧ (task.entered s.world).calls = [] := by
  unfold Task.entered
  split
  · rw [run_pause_of_zero (w := s.world) rfl]
    exact ⟨⟨⟨_, rfl⟩, rfl⟩, rfl, rfl, rfl⟩
  · exact ⟨⟨⟨_, rfl⟩, rfl⟩, rfl, rfl, rfl⟩

theorem Resting.noted {w noted : World} (h : Resting w) (hnoted : Noted w noted) :
    Resting noted := by
  obtain ⟨log, calls, rfl⟩ := hnoted.eq
  exact ⟨h.schedule, h.accepts⟩

section Writer

variable (hsink : t.sink = .writer)
include hsink

theorem Resting.submits {w : World} (h : Resting w) (r? : Option WriteRequest) :
    ((submits t r?).run w).2.disk = w.disk ∧
      ((submits t r?).run w).2.writer.queue = w.writer.queue ++ r?.toList ∧
      requests ((submits t r?).run w).2.calls = requests w.calls ++ r?.toList := by
  cases r? with
  | none =>
    simp only [Option.toList_none, List.append_nil]
    exact ⟨rfl, rfl, rfl⟩
  | some r =>
    obtain ⟨later, hschedule⟩ := h.schedule
    have htaken : w.writer.submit? r = some { w.writer with queue := w.writer.queue ++ [r] } := by
      rw [Writer.submit?, h.accepts]
      rfl
    have hpause := run_pause_of_zero (w := { w with
      calls := w.calls ++ [.submit r]
      writer := { w.writer with queue := w.writer.queue ++ [r] } }) hschedule
    have hrun : ((Walk.submits t (some r)).run w).2 = { w with
        calls := w.calls ++ [.submit r]
        writer := { w.writer with queue := w.writer.queue ++ [r] }
        schedule := later } := by
      rw [Walk.submits, World.run_submit_of_writer w hsink,
        World.run_submit_of_some { w with calls := w.calls ++ [.submit r] } htaken, hpause]
    refine ⟨?_, ?_, World.requests_submit w r⟩
    · rw [hrun]
    · rw [hrun]
      rfl

/-- Running a task in the world that it finds leaves the scene as what the task adds leaves it. -/
theorem run_step_world_cases (task : Task) (later : List Task) (summary : Summary) (s : Scene) :
    (∃ f w, (Walk.step t e ⟨task :: later, summary⟩).run s.world = (.error f, w) ∧
        s.leave w (.ended (.error f)) = s.after later summary (task.gain t e s.disk)) ∨
      ∃ p w, (Walk.step t e ⟨task :: later, summary⟩).run s.world = (.ok p, w) ∧
        s.leave w (.walking p) = s.after later summary (task.gain t e s.disk) := by
  obtain ⟨noted, hnoted, hrun⟩ := run_step (t := t) (e := e) task later summary s.world
  obtain ⟨hresting, hdisk, hqueue, hcalls⟩ := resting_entered task s
  have hresting' := hresting.noted hnoted
  rw [hdisk] at hrun
  cases hgain : task.gain t e s.disk with
  | error f =>
    rw [hgain] at hrun
    refine .inl ⟨f, noted, hrun, ?_⟩
    rw [leave, hnoted.disk_eq, hnoted.writer_eq, hnoted.requests_eq, hdisk, hqueue, hcalls]
    simp [after, requests]
  | ok g =>
    rw [hgain] at hrun
    refine .inr ⟨_, _, hrun, ?_⟩
    obtain ⟨hdisk', hqueue', hcalls'⟩ := hresting'.submits hsink g.request?
    rw [leave, hdisk', hqueue', hcalls', hnoted.disk_eq, hnoted.writer_eq, hnoted.requests_eq,
      hdisk, hqueue, hcalls]
    simp [after, requests]

/-- Steps are what tasks add on the disk of the scene, and what the writer does. -/
theorem step_iff_moves : Step t e s s' ↔ Moves t e s s' := by
  constructor
  · intro h
    cases h with
    | @walk task later summary p w hphase h =>
      rcases run_step_world_cases (t := t) (e := e) hsink task later summary s with
        ⟨f, w', hrun, -⟩ | ⟨p', w', hrun, hleave⟩
      · cases h.symm.trans hrun
      · cases h.symm.trans hrun
        exact hleave ▸ .task hphase
    | @stop task later summary f w hphase h =>
      rcases run_step_world_cases (t := t) (e := e) hsink task later summary s with
        ⟨f', w', hrun, hleave⟩ | ⟨p, w', hrun, -⟩
      · cases h.symm.trans hrun
        exact hleave ▸ .task hphase
      · cases h.symm.trans hrun
    | arrive hphase => exact .arrive hphase
    | attempt hwaiting outcome h => exact .attempt hwaiting outcome h
  · intro h
    cases h with
    | @task task later summary hphase =>
      rcases run_step_world_cases (t := t) (e := e) hsink task later summary s with
        ⟨f, w, hrun, hleave⟩ | ⟨p, w, hrun, hleave⟩
      · exact hleave ▸ .stop hphase hrun
      · exact hleave ▸ .walk hphase hrun
    | arrive hphase => exact .arrive hphase
    | attempt hwaiting outcome h => exact .attempt hwaiting outcome h

theorem step_task {task : Task} {later : List Task} {summary : Summary}
    (hphase : s.phase = .walking ⟨task :: later, summary⟩) :
    Step t e s (s.after later summary (task.gain t e s.disk)) :=
  (step_iff_moves hsink).2 (.task hphase)

theorem Reachable.task {task : Task} {later : List Task} {summary : Summary} {g : Gain}
    (h : Reachable t e first s) (hphase : s.phase = .walking ⟨task :: later, summary⟩)
    (hgain : task.gain t e s.disk = .ok g) :
    Reachable t e first (s.after later summary (.ok g)) :=
  hgain ▸ h.next (step_task hsink hphase)

end Writer

def left (s : Scene) : List (WriteRequest × Bytes) :=
  s.attempts.filterMap fun (r, outcome) ↦ (outcome.left? (encode r.contents)).map (r, ·)

theorem left_attempt (s : Scene) (disk : Disk) (rest : List WriteRequest) (r : WriteRequest)
    (outcome : Disk.Outcome) :
    left { s with disk, waiting := rest, attempts := s.attempts ++ [(r, outcome)] } =
      s.left ++ ((outcome.left? (encode r.contents)).map (r, ·)).toList := by
  cases h : outcome.left? (encode r.contents) <;> simp [left, h]

theorem mem_attempts_of_left {r : WriteRequest} {bytes : Bytes} (h : (r, bytes) ∈ s.left) :
    ∃ outcome, (r, outcome) ∈ s.attempts := by
  obtain ⟨⟨r', outcome⟩, hmem, hleft⟩ := List.mem_filterMap.1 h
  obtain ⟨_, -, heq⟩ := Option.map_eq_some_iff.1 hleft
  cases heq
  exact ⟨outcome, hmem⟩

def lastLeft (s : Scene) (r : WriteRequest) : Option Bytes :=
  ((s.left.filter (·.1 == r)).getLast?).map (·.2)

theorem mem_left_of_lastLeft {r : WriteRequest} {bytes : Bytes} (h : s.lastLeft r = some bytes) :
    (r, bytes) ∈ s.left := by
  obtain ⟨⟨r', bytes'⟩, hlast, rfl⟩ := Option.map_eq_some_iff.1 h
  obtain ⟨hmem, heq⟩ := List.mem_filter.1 (List.mem_of_getLast? hlast)
  exact eq_of_beq heq ▸ hmem

/-- What a scene says of the disk that its walk began with: requests are attempted in their order,
no path leads elsewhere, and only in files that an attempt opened there is something new. -/
structure Accounts (d : Disk) (s : Scene) : Prop where
  split : s.attempts.map (·.1) ++ s.waiting = s.submitted
  length_le : s.submitted.length ≤ s.done
  grows : Disk.Grows (fun _ ↦ True) d s.disk
  changed (location : Location) :
    ¬Option.Rel Alike (d.top.at? location) (s.disk.top.at? location) →
      ∃ r bytes, (r, bytes) ∈ s.left ∧ d.spot? (encode r.target) = some location

theorem accounts_begin (d : Disk) (root : String) : Accounts d (begin d root) :=
  ⟨rfl, Nat.le_refl 0, .refl _ _, fun _ h ↦ absurd (Disk.Node.rel_refl _) h⟩

theorem Accounts.next {d : Disk} (h : Accounts d s) (hmoves : Moves t e s s') : Accounts d s' := by
  cases hmoves with
  | @task task later summary hphase =>
    cases task.gain t e s.disk with
    | error f => exact ⟨h.split, Nat.le_succ_of_le h.length_le, h.grows, h.changed⟩
    | ok g =>
      refine ⟨?_, ?_, h.grows, h.changed⟩
      · simp only [after]
        rw [← List.append_assoc, h.split]
      · have := h.length_le
        cases hr : g.request? <;> simp [after, hr] <;> omega
  | arrive hphase => exact ⟨h.split, h.length_le, h.grows, h.changed⟩
  | @attempt r rest disk hwaiting outcome hleave =>
    have hsplit : (s.attempts ++ [(r, outcome)]).map (·.1) ++ rest = s.submitted := by
      rw [← h.split, hwaiting]
      simp
    have hleft := left_attempt s disk rest r outcome
    cases hopened : outcome.left? (encode r.contents) with
    | none =>
      rw [hopened] at hleave hleft
      cases hleave
      refine ⟨hsplit, h.length_le, h.grows, fun location hchanged ↦ ?_⟩
      rw [hleft]
      simpa using h.changed location hchanged
    | some bytes =>
      rw [hopened] at hleave hleft
      obtain ⟨spot, executable, hwrote⟩ := Disk.exists_wrote hleave
      refine ⟨hsplit, h.length_le, h.grows.trans (hwrote.grows fun _ ↦ trivial),
        fun location hchanged ↦ ?_⟩
      rw [hleft]
      by_cases hl : location = spot
      · refine ⟨r, bytes, by simp, ?_⟩
        rw [hl, ← Disk.spot?_eq_of_grows h.grows]
        exact hwrote.spot?_eq
      · have hbefore : ¬Option.Rel Alike (d.top.at? location) (s.disk.top.at? location) :=
          fun hrel ↦ hchanged (Disk.Node.rel_trans hrel (hwrote.replaces.elsewhere location hl))
        obtain ⟨r', bytes', hr, hspot⟩ := h.changed location hbefore
        exact ⟨r', bytes', List.mem_append_left _ hr, hspot⟩

theorem Reachable.accounts (hsink : t.sink = .writer) {d : Disk} {root : String}
    (h : Reachable t e (begin d root) s) : Accounts d s := by
  induction h with
  | start => exact accounts_begin d root
  | next _ step ih => exact ih.next ((step_iff_moves hsink).1 step)

theorem Accounts.waiting_subset {d : Disk} (h : Accounts d s) : s.waiting ⊆ s.submitted :=
  fun _ hr ↦ h.split ▸ List.mem_append_right _ hr

theorem Accounts.mem_submitted {d : Disk} (h : Accounts d s) {r : WriteRequest}
    {bytes : Bytes} (hr : (r, bytes) ∈ s.left) : r ∈ s.submitted := by
  obtain ⟨outcome, hmem⟩ := mem_attempts_of_left hr
  exact h.split ▸ List.mem_append_left _ (List.mem_map_of_mem hmem)

end Scene
end StyleTypings.Walk
