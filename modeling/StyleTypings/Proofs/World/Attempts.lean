import StyleTypings.Proofs.Disk.Spots
import StyleTypings.Proofs.World.Output

namespace StyleTypings.World

open Disk (Grows Location)
open Disk.Node (Alike)
open Text (encode)

structure Stock where
  disk : Disk
  failures : List WriteFailure

def Stock.attempt (stock : Stock) (r : WriteRequest) : Stock :=
  match stock.disk.write (encode r.target) (encode r.contents) with
  | .ok disk => { stock with disk }
  | .error fault => { stock with failures := stock.failures ++ [⟨r.target, fault⟩] }

def Stock.attempts (stock : Stock) (rs : List WriteRequest) : Stock := rs.foldl Stock.attempt stock

def stock (w : World) : Stock := ⟨w.disk, w.failures⟩

/-- No path leads elsewhere after some attempts, and only where one of the requests is written there
is something new. -/
structure Stock.Changes (before after : Stock) (rs : List WriteRequest) : Prop where
  grows : Grows (fun _ ↦ True) before.disk after.disk
  changed (location : Location) :
    ¬Option.Rel Alike (before.disk.top.at? location) (after.disk.top.at? location) →
      ∃ r ∈ rs, before.disk.spot? (encode r.target) = some location

theorem Stock.changes_attempt (stock : Stock) (r : WriteRequest) :
    stock.Changes (stock.attempt r) [r] := by
  unfold Stock.attempt
  split
  next disk hwrite =>
    obtain ⟨spot, executable, hwrote⟩ := Disk.exists_wrote hwrite
    refine ⟨hwrote.grows fun _ ↦ trivial, fun location hchanged ↦ ⟨r, by simp, ?_⟩⟩
    by_cases hl : location = spot
    · rw [hl]
      exact hwrote.spot?_eq
    · exact absurd (hwrote.replaces.elsewhere location hl) hchanged
  next => exact ⟨.refl _ _, fun _ hchanged ↦ absurd (Disk.Node.rel_refl _) hchanged⟩

theorem Stock.Changes.trans {a b c : Stock} {rs rs' : List WriteRequest} (h : a.Changes b rs)
    (h' : b.Changes c rs') : a.Changes c (rs ++ rs') := by
  refine ⟨h.grows.trans h'.grows, fun location hchanged ↦ ?_⟩
  by_cases hrel : Option.Rel Alike (a.disk.top.at? location) (b.disk.top.at? location)
  · obtain ⟨r, hr, hspot⟩ := h'.changed location fun hrel' ↦
      hchanged (Disk.Node.rel_trans hrel hrel')
    exact ⟨r, List.mem_append_right _ hr, (Disk.spot?_eq_of_grows h.grows _).symm.trans hspot⟩
  · obtain ⟨r, hr, hspot⟩ := h.changed location hrel
    exact ⟨r, List.mem_append_left _ hr, hspot⟩

theorem Stock.changes_attempts (stock : Stock) (rs : List WriteRequest) :
    stock.Changes (stock.attempts rs) rs := by
  induction rs generalizing stock with
  | nil => exact ⟨.refl _ _, fun _ hchanged ↦ absurd (Disk.Node.rel_refl _) hchanged⟩
  | cons r rs ih => exact (stock.changes_attempt r).trans (ih (stock.attempt r))

/-- The requests of a program are attempted in order, up to those that wait. -/
structure Keeping (begun : Stock) (w : World) : Prop where
  split : ∃ done, requests w.calls = done ++ w.writer.queue ∧ begun.attempts done = w.stock
  alive : w.writer.alive = true
  calm : w.reportPanics = false

variable {t : Toolchain} {begun : Stock} {w w' : World}

theorem Keeping.noted (h : Keeping begun w) (hn : Noted w w') : Keeping begun w' := by
  have hrequests := hn.requests_eq
  obtain ⟨log, calls, rfl⟩ := hn.eq
  obtain ⟨done, hsplit, hstock⟩ := h.split
  exact ⟨⟨done, hrequests.trans hsplit, hstock⟩, h.alive, h.calm⟩

theorem Keeping.work (h : Keeping begun w) : Keeping begun (work.run w).2 := by
  cases hn : w.writer.next? with
  | none =>
    rw [run_work_of_none w hn]
    exact h
  | some next =>
    obtain ⟨r, writer⟩ := next
    obtain ⟨done, hsplit, hstock⟩ := h.split
    obtain ⟨halive, hqueue, hwriter⟩ := Writer.next?_eq_some_iff.1 hn
    have halive' : writer.alive = true := by rw [hwriter, ← halive]
    have hdone : requests w.calls = (done ++ [r]) ++ writer.queue := by
      rw [hsplit, hqueue, List.append_assoc]
      rfl
    have hnext : begun.attempts (done ++ [r]) = w.stock.attempt r := by
      rw [← hstock, Stock.attempts, List.foldl_append]
      rfl
    -- The writer and `Stock.attempt` look at the same write; neither way ends the writer's thread.
    rw [run_work_of_some w hn]
    unfold attempt
    unfold Stock.attempt stock at hnext
    split
    next disk hwrite =>
      rw [hwrite] at hnext
      exact ⟨⟨_, hdone, hnext⟩, halive', h.calm⟩
    next fault hwrite =>
      rw [hwrite] at hnext
      rw [if_neg (by simp [h.calm])]
      exact ⟨⟨_, hdone, hnext⟩, halive', h.calm⟩

theorem Keeping.pause (h : Keeping begun w) : Keeping begun (pause.run w).2 :=
  pause_invariant (fun _ h ↦ h.work) (fun _ _ h ↦ ⟨h.split, h.alive, h.calm⟩) h

theorem Keeping.submit (h : Keeping begun w) (hsink : t.sink = .writer)
    (htaking : w.writer.taking = true) (r : WriteRequest) :
    Keeping begun ((t.capabilities.submit r).run w).2 ∧
      ((t.capabilities.submit r).run w).2.writer.taking = true := by
  obtain ⟨done, hsplit, hstock⟩ := h.split
  have haccepted : w.writer.submit? r = some { w.writer with queue := w.writer.queue ++ [r] } :=
    Writer.submit?_eq_some_iff.2 ⟨htaking, h.alive, rfl⟩
  rw [run_submit_of_writer w hsink,
    run_submit_of_some { w with calls := w.calls ++ [.submit r] } haccepted]
  refine ⟨Keeping.pause ⟨⟨done, ?_, hstock⟩, h.alive, h.calm⟩, (taking_pause _).trans htaking⟩
  rw [requests_append, hsplit, List.append_assoc]
  rfl

theorem Keeping.finish (h : Keeping begun w) (htaking : w.writer.taking = true) :
    (finish.run w).2.writer.queue = [] ∧
      begun.attempts (requests w.calls) = (finish.run w).2.stock := by
  obtain ⟨log, hlog⟩ := exists_run_finish w htaking
  have hkeeping : Keeping begun (drain.run { w with writer := w.writer.close }).2 :=
    workFor_invariant (w := { w with writer := w.writer.close }) (fun _ h ↦ h.work)
      ⟨h.split, h.alive, h.calm⟩ _
  have hnext : (drain.run { w with writer := w.writer.close }).2.writer.next? = none :=
    next?_workFor _ (Nat.le_refl _)
  have hcalls := calls_finish w
  rw [hlog] at hcalls ⊢
  generalize (drain.run { w with writer := w.writer.close }).2 = drained at hkeeping hnext hcalls ⊢
  have hqueue : drained.writer.queue = [] := by
    cases hq : drained.writer.queue with
    | nil => rfl
    | cons r rest => simp [Writer.next?, hq, hkeeping.alive] at hnext
  obtain ⟨done, hsplit, hstock⟩ := hkeeping.split
  refine ⟨hqueue, ?_⟩
  rw [← hcalls, hsplit, hqueue, List.append_nil]
  exact hstock

end StyleTypings.World
