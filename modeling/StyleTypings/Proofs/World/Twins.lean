import StyleTypings.Proofs.Disk.Agree
import StyleTypings.Proofs.World.Generation

namespace StyleTypings

open Disk (Location)
open Text (Bytes encode)

def Disk.Clear (hidden : Location → Prop) (d : Disk) (path : Bytes) : Prop :=
  ∀ l ∈ d.way path, ¬hidden l

/-- Tools whose answers do not depend on what is hidden. -/
structure Toolchain.Overlooks (t : Toolchain) (hidden : Location → Prop) : Prop where
  compile {d d' : Disk} (h : d.Agree hidden d') : t.compiler.compile d' = t.compiler.compile d
  format {d d' : Disk} (h : d.Agree hidden d') : t.formatter.format d' = t.formatter.format d

namespace World

/-- Worlds with the same of everything but what is hidden. Files were written since their first disk
was `d`, and those that wait to be written are not hidden. -/
structure Twin (hidden : Location → Prop) (d : Disk) (w w' : World) : Prop where
  eq : w' = { w with disk := w'.disk }
  agree : w.disk.Agree hidden w'.disk
  grows : Disk.Grows (fun _ ↦ True) d w.disk
  wellFormed : w.disk.top.WellFormed
  wellFormed' : w'.disk.top.WellFormed
  queue (r : WriteRequest) : r ∈ w.writer.queue → Disk.Clear hidden d (encode r.target)

/-- A computation that cannot tell such worlds apart. -/
def Blind {α : Type} (hidden : Location → Prop) (d : Disk) (x : App α) : Prop :=
  ∀ w w', Twin hidden d w w' →
    (x.run w').1 = (x.run w).1 ∧ Twin hidden d (x.run w).2 (x.run w').2

section Twin

variable {α β : Type} {hidden : Location → Prop} {d : Disk} {w w' : World}

theorem Twin.clear (h : Twin hidden d w w') {path : Bytes} (hclear : Disk.Clear hidden d path) :
    Disk.Clear hidden w.disk path := by
  rw [Disk.Clear, Disk.way_eq_of_grows h.grows]
  exact hclear

theorem Twin.exists_eq (h : Twin hidden d w w') : ∃ disk', w' = { w with disk := disk' } :=
  ⟨_, h.eq⟩

theorem Twin.calls_eq (h : Twin hidden d w w') : w'.calls = w.calls := by
  obtain ⟨disk', rfl⟩ := h.exists_eq
  rfl

theorem Twin.writer_eq (h : Twin hidden d w w') : w'.writer = w.writer := by
  obtain ⟨disk', rfl⟩ := h.exists_eq
  rfl

theorem blind_pure (a : α) : Blind hidden d (pure a : App α) :=
  fun _ _ h ↦ ⟨rfl, h⟩

theorem Blind.bind {x : App α} {f : α → App β} (hx : Blind hidden d x)
    (hf : ∀ a, Blind hidden d (f a)) : Blind hidden d (x >>= f) := by
  intro w w' h
  obtain ⟨hanswer, htwin⟩ := hx w w' h
  rw [run_bind, run_bind, hanswer]
  exact hf _ _ _ htwin

theorem blind_modify {f : World → World} (hdisk : ∀ w disk, f { w with disk } = { f w with disk })
    (hqueue : ∀ w, ∀ r ∈ (f w).writer.queue, r ∈ w.writer.queue) :
    Blind hidden d (modify f : App Unit) := by
  intro w w' h
  obtain ⟨disk', rfl⟩ := h.exists_eq
  have hw : (f w).disk = w.disk := by
    have hself := congrArg World.disk (hdisk w w.disk)
    exact hself
  rw [run_modify, run_modify, hdisk]
  refine ⟨rfl, rfl, ?_, ?_, ?_, h.wellFormed', fun r hr ↦ h.queue r (hqueue w r hr)⟩
  · exact hw.symm ▸ h.agree
  · exact hw.symm ▸ h.grows
  · exact hw.symm ▸ h.wellFormed

theorem blind_say (event : Log.Event) : Blind hidden d (say event) :=
  blind_modify (fun _ _ ↦ rfl) fun _ _ hr ↦ hr

theorem blind_note (c : Call) : Blind hidden d (note c) :=
  blind_modify (fun _ _ ↦ rfl) fun _ _ hr ↦ hr

theorem blind_report (thread : Thread) (f : WriteFailure) :
    Blind hidden d (report thread f) := by
  intro w w' h
  obtain ⟨disk', rfl⟩ := h.exists_eq
  rw [run_report, run_report]
  cases w.reportPanics with
  | true => exact ⟨rfl, rfl, h.agree, h.grows, h.wellFormed, h.wellFormed', h.queue⟩
  | false => exact ⟨rfl, rfl, h.agree, h.grows, h.wellFormed, h.wellFormed', h.queue⟩

theorem blind_printRequest (r : WriteRequest) : Blind hidden d (printRequest r) := by
  intro w w' h
  obtain ⟨disk', rfl⟩ := h.exists_eq
  obtain ⟨_, _, _, outputFull, _, _, _, _, _, reportPanics, _⟩ := w
  cases outputFull <;> cases reportPanics <;>
    exact ⟨rfl, rfl, h.agree, h.grows, h.wellFormed, h.wellFormed', h.queue⟩

theorem Twin.attempt {r : WriteRequest} {writer : Writer} (h : Twin hidden d w w')
    (hclear : Disk.Clear hidden d (encode r.target))
    (hqueue : ∀ r ∈ writer.queue, Disk.Clear hidden d (encode r.target)) :
    Twin hidden d (w.attempt r writer) (w'.attempt r writer) := by
  obtain ⟨disk', rfl⟩ := h.exists_eq
  unfold World.attempt
  rcases h.agree.write (h.clear hclear) (encode r.contents) with
    ⟨fault, hw, hw'⟩ | ⟨e, e', hw, hw', hagree⟩
  · simp only [hw, hw']
    cases w.reportPanics with
    | true =>
      exact ⟨rfl, h.agree, h.grows, h.wellFormed, h.wellFormed', by simp [Writer.die]⟩
    | false => exact ⟨rfl, h.agree, h.grows, h.wellFormed, h.wellFormed', hqueue⟩
  · simp only [hw, hw']
    obtain ⟨spot, executable, hwrote⟩ := Disk.exists_wrote hw
    exact ⟨rfl, hagree, h.grows.trans (hwrote.grows fun _ ↦ trivial),
      Disk.wellFormed_of_write hw h.wellFormed, Disk.wellFormed_of_write hw' h.wellFormed', hqueue⟩

theorem Twin.work (h : Twin hidden d w w') : Twin hidden d (work.run w).2 (work.run w').2 := by
  have hwriter := h.writer_eq
  cases hnext : w.writer.next? with
  | none =>
    rw [run_work_of_none w hnext, run_work_of_none w' (hwriter ▸ hnext)]
    exact h
  | some next =>
    obtain ⟨r, writer⟩ := next
    rw [run_work_of_some w hnext, run_work_of_some w' (hwriter ▸ hnext)]
    have hq := (Writer.next?_eq_some_iff.1 hnext).2.1
    apply h.attempt
    · exact h.queue r (hq ▸ List.mem_cons_self ..)
    · intro r hr
      exact h.queue r (hq ▸ List.mem_cons_of_mem _ hr)

theorem Twin.workFor (h : Twin hidden d w w') (n : Nat) :
    Twin hidden d ((workFor n).run w).2 ((workFor n).run w').2 := by
  induction n generalizing w w' with
  | zero => exact h
  | succ n ih => exact ih h.work

theorem Twin.schedule (h : Twin hidden d w w') (schedule : List Nat) :
    Twin hidden d { w with schedule } { w' with schedule } := by
  obtain ⟨disk', rfl⟩ := h.exists_eq
  exact ⟨rfl, h.agree, h.grows, h.wellFormed, h.wellFormed', h.queue⟩

theorem blind_pause : Blind hidden d pause := by
  intro w w' h
  have hschedule : w'.schedule = w.schedule := by
    obtain ⟨disk', rfl⟩ := h.exists_eq
    rfl
  refine ⟨rfl, ?_⟩
  rw [run_pause, run_pause, hschedule]
  cases w.schedule with
  | nil =>
    dsimp only
    rw [run_drain, run_drain, h.writer_eq]
    exact h.workFor _
  | cons n later => exact (h.schedule later).workFor n

theorem blind_submit {r : WriteRequest} (hclear : Disk.Clear hidden d (encode r.target)) :
    Blind hidden d (submit r) := by
  intro w w' h
  have hwriter := h.writer_eq
  cases hsubmit : w.writer.submit? r with
  | none =>
    rw [run_submit_of_none w hsubmit, run_submit_of_none w' (hwriter ▸ hsubmit)]
    exact ⟨rfl, (blind_report .main _ w w' h).2⟩
  | some writer =>
    rw [run_submit_of_some w hsubmit, run_submit_of_some w' (hwriter ▸ hsubmit)]
    apply blind_pause
    obtain ⟨-, -, rfl⟩ := Writer.submit?_eq_some_iff.1 hsubmit
    obtain ⟨disk', rfl⟩ := h.exists_eq
    refine ⟨rfl, h.agree, h.grows, h.wellFormed, h.wellFormed', fun other hm ↦ ?_⟩
    rcases List.mem_append.1 hm with hm | hm
    · exact h.queue other hm
    · exact List.mem_singleton.1 hm ▸ hclear

variable {t : Toolchain} {content path : String}

theorem blind_forIn_say (events : List Log.Event) :
    Blind hidden d (forIn events PUnit.unit fun e _ ↦ do
      say e
      pure (ForInStep.yield PUnit.unit) : App PUnit) := by
  induction events with
  | nil => exact blind_pure _
  | cons event events ih =>
    rw [List.forIn_cons]
    intro w w' h
    exact ih _ _ (blind_say event w w' h).2

theorem blind_compile (ht : t.Overlooks hidden) (source : String) (form : Form) (path : String) :
    Blind hidden d (t.capabilities.compile source form path) := by
  apply (blind_note _).bind
  intro _ w w' h
  simp only [run_bind, run_get, ht.compile h.agree]
  exact ⟨rfl, (blind_forIn_say _ w w' h).2⟩

theorem blind_format (ht : t.Overlooks hidden) (text target : String) :
    Blind hidden d (t.capabilities.format text target) := by
  apply (blind_note _).bind
  intro _ w w' h
  simp only [run_bind, run_get, ht.format h.agree]
  exact ⟨rfl, h⟩

theorem blind_capability_submit {r : WriteRequest}
    (hclear : Disk.Clear hidden d (encode r.target)) :
    Blind hidden d (t.capabilities.submit r) := by
  apply (blind_note _).bind
  intro _
  cases t.sink with
  | writer => exact blind_submit hclear
  | output => exact blind_printRequest r
  | nowhere => exact blind_pure _

theorem blind_extract (ht : t.Overlooks hidden) (content path : String) :
    Blind hidden d (Generator.extract t.capabilities content path) := by
  unfold Generator.extract
  cases Dialect.ofPath? path with
  | none => exact blind_pure _
  | some dialect =>
    dsimp only
    cases dialect.form? with
    | none => exact blind_pure _
    | some form =>
      apply (blind_compile ht content form path).bind
      intro answer
      cases answer <;> exact blind_pure _

theorem blind_formatted (ht : t.Overlooks hidden) (text target : String) :
    Blind hidden d (Generator.formatted t.capabilities text target) := by
  apply (blind_format ht text target).bind
  intro answer
  cases answer with
  | ok formatted => exact blind_pure _
  | error fault => exact (blind_say _).bind fun _ ↦ blind_pure _

theorem blind_submitTypings (ht : t.Overlooks hidden) (names : List String)
    (hclear : Disk.Clear hidden d (encode (Module.typingsPath path))) :
    Blind hidden d (Generator.submitTypings t.capabilities names path) := by
  apply (blind_formatted ht _ _).bind
  intro contents
  apply (blind_say _).bind
  intro _
  apply Blind.bind
  · exact blind_capability_submit hclear
  · exact fun _ ↦ blind_pure _

theorem blind_generate (ht : t.Overlooks hidden)
    (hclear : Disk.Clear hidden d (encode (Module.typingsPath path))) :
    Blind hidden d (Generator.generate t.capabilities content path) := by
  unfold Generator.generate
  split
  · apply (blind_extract ht content path).bind
    intro answer
    cases answer with
    | error f => exact blind_pure _
    | ok names => exact (blind_submitTypings ht names hclear).bind fun _ ↦ blind_pure _
  · exact (blind_say _).bind fun _ ↦ blind_pure _

end Twin
end World
end StyleTypings
