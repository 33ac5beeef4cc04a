import StyleTypings.Proofs.Text.Encoding
import StyleTypings.Proofs.Tool.Exchange

namespace StyleTypings.Tool

open Function (update)
open Text (Bytes)

theorem settle_true (f : Shell.Finished) : settle true f = answer f := by
  simp [settle]

theorem of_settle_eq_ok {whole : Bool} {f : Shell.Finished} {text : String}
    (h : settle whole f = .ok text) :
    whole = true ∧ f.ending = .code 0 ∧ Text.decode? f.output = some text := by
  unfold settle at h
  split at h
  · cases h
  next hwhole =>
    unfold answer at h
    split at h
    · cases h
    next hcode =>
      refine ⟨by simpa [hcode] using hwhole, hcode, ?_⟩
      split at h
      next decoded hdecode => rw [hdecode, Except.ok.inj h]
      · cases h
    · cases h

/-- An output is collected as it was written, and the caller comes to its end only behind that. -/
structure Outlet.Sound (o : Outlet) : Prop where
  said_eq : o.collected ++ o.held = o.said
  of_drained : o.drained = true → o.held = [] ∧ o.writable = false

namespace Outlet

variable {o : Outlet}

theorem sound_start : Sound {} := ⟨rfl, by simp⟩

theorem Sound.write (h : o.Sound) (hwritable : o.writable = true) (bytes : Bytes) :
    (o.write bytes).Sound where
  said_eq := by
    rw [Outlet.write, ← List.append_assoc, h.said_eq]
  of_drained hdrained := by
    rw [(h.of_drained hdrained).2] at hwritable
    cases hwritable

theorem Sound.close (h : o.Sound) : o.close.Sound where
  said_eq := h.said_eq
  of_drained hdrained := ⟨(h.of_drained hdrained).1, rfl⟩

theorem Sound.collect (h : o.Sound) {bytes later : Bytes} (hheld : o.held = bytes ++ later)
    (hbytes : bytes ≠ []) : (o.collect bytes later).Sound where
  said_eq := by
    rw [Outlet.collect, List.append_assoc, ← hheld, h.said_eq]
  of_drained hdrained := by
    rw [(h.of_drained hdrained).1, eq_comm, List.append_eq_nil_iff] at hheld
    exact absurd hheld.1 hbytes

theorem Sound.drain (h : o.Sound) (hheld : o.held = []) (hwritable : o.writable = false) :
    o.drain.Sound where
  said_eq := h.said_eq
  of_drained _ := ⟨hheld, hwritable⟩

end Outlet

namespace Exchange

variable {c : Child} {capacity : Capacity} {source : Bytes} {x y : Exchange c}

/-- Where the bytes of the input are: the tool has read some, some are on their way, and the others
are left, or they were given up after the tool had closed its input. -/
def Fed (source : Bytes) (x : Exchange c) : Prop :=
  match x.feeder with
  | .feeding left => x.taken ++ x.input ++ left = source
  | .finished true => x.taken ++ x.input = source
  | .finished false => x.readable = false ∧ x.taken ++ x.input <+: source

/-- What holds throughout a call. -/
structure Sound (source : Bytes) (x : Exchange c) : Prop where
  fed : x.Fed source
  of_sawEnd : x.sawEnd = true → x.taken = source ∧ x.feeder = .finished true
  outlets (stream : Stream) : (x.outlets stream).Sound
  of_exited (ending : Shell.Ending) : x.child = .exited ending →
    x.readable = false ∧ ∀ stream, (x.outlets stream).writable = false
  of_joining (ending : Shell.Ending) : x.caller = .joining ending →
    x.child = .exited ending ∧ ∀ stream, (x.outlets stream).drained = true
  of_returned (answer : Except Fault String) : x.caller = .returned answer →
    ∃ ending whole, x.child = .exited ending ∧ x.feeder = .finished whole ∧
      (∀ stream, (x.outlets stream).drained = true) ∧ answer = settle whole (x.finished ending)

theorem Fed.prefix (h : x.Fed source) : x.taken ++ x.input <+: source := by
  unfold Fed at h
  split at h
  · exact ⟨_, h⟩
  · exact h ▸ List.prefix_rfl
  · exact h.2

theorem Fed.congr (h : x.Fed source) (hfeeder : y.feeder = x.feeder)
    (hreadable : x.readable = false → y.readable = false)
    (hbytes : y.taken ++ y.input = x.taken ++ x.input) : y.Fed source := by
  unfold Fed at h ⊢
  rw [hfeeder, hbytes]
  split at h
  · exact h
  · exact h
  · exact ⟨hreadable h.1, h.2⟩

theorem Fed.at_end (h : x.Fed source) {whole : Bool} (hfeeder : x.feeder = .finished whole)
    (hreadable : x.readable = true) (hinput : x.input = []) :
    x.taken = source ∧ x.feeder = .finished true := by
  cases whole with
  | true => exact ⟨by simpa [Fed, hfeeder, hinput] using h, hfeeder⟩
  | false => simp [Fed, hfeeder, hreadable] at h

theorem sound_start (c : Child) (source : Bytes) :
    Sound source ({ feeder := .feeding source } : Exchange c) where
  fed := rfl
  of_sawEnd := by simp
  outlets _ := Outlet.sound_start
  of_exited := by simp
  of_joining := by simp
  of_returned := by simp

theorem forall_outlets (p : Outlet → Prop) (h : ∀ stream, p (x.outlets stream)) {stream : Stream}
    {o : Outlet} (ho : p o) (other : Stream) : p (update x.outlets stream o other) :=
  (Function.forall_update_iff x.outlets fun _ ↦ p).2 ⟨ho, fun s _ ↦ h s⟩ other

theorem Sound.collecting (h : x.Sound source) {state : c.State}
    (hchild : x.child = .running state) : x.caller = .collecting := by
  cases hcaller : x.caller with
  | collecting => rfl
  | joining ending =>
    have hexited := (h.of_joining ending hcaller).1
    rw [hchild] at hexited
    cases hexited
  | returned answer =>
    obtain ⟨ending, whole, hexited, -⟩ := h.of_returned answer hcaller
    rw [hchild] at hexited
    cases hexited

theorem Sound.feeds (h : x.Sound source) {left : Bytes} (hfeeder : x.feeder = .feeding left)
    {feeder : Feeder} {input : Bytes} (hfed : Fed source { x with feeder, input }) :
    Sound source { x with feeder, input } where
  fed := hfed
  of_sawEnd hsawEnd := by
    have hfinished := (h.of_sawEnd hsawEnd).2
    rw [hfeeder] at hfinished
    cases hfinished
  outlets := h.outlets
  of_exited := h.of_exited
  of_joining := h.of_joining
  of_returned answer hcaller := by
    obtain ⟨ending, whole, -, hfinished, -⟩ := h.of_returned answer hcaller
    rw [hfeeder] at hfinished
    cases hfinished

theorem Sound.of_collecting (hcaller : y.caller = .collecting) (hfed : y.Fed source)
    (hsawEnd : y.sawEnd = true → y.taken = source ∧ y.feeder = .finished true)
    (houtlets : ∀ stream, (y.outlets stream).Sound)
    (hexited : ∀ ending, y.child = .exited ending →
      y.readable = false ∧ ∀ stream, (y.outlets stream).writable = false) : y.Sound source where
  fed := hfed
  of_sawEnd := hsawEnd
  outlets := houtlets
  of_exited := hexited
  of_joining ending hjoining := by
    rw [hcaller] at hjoining
    cases hjoining
  of_returned answer hreturned := by
    rw [hcaller] at hreturned
    cases hreturned

theorem Sound.step (h : x.Sound source) (hs : Step capacity x y) : y.Sound source := by
  have hfed := h.fed
  cases hs with
  | feed bytes hfeeder hbytes hreadable hroom =>
    refine h.feeds hfeeder ?_
    rw [Fed, hfeeder] at hfed
    simpa [Fed] using hfed
  | breakOff hfeeder hleft hreadable => exact h.feeds hfeeder ⟨hreadable, hfed.prefix⟩
  | fed hfeeder =>
    refine h.feeds hfeeder ?_
    rw [Fed, hfeeder] at hfed
    exact (List.append_nil _).symm.trans hfed
  | collect stream bytes hcaller hheld hbytes =>
    refine .of_collecting hcaller hfed h.of_sawEnd
      (forall_outlets _ h.outlets ((h.outlets _).collect hheld hbytes)) fun ending hexited ↦ ?_
    have hclosed := h.of_exited ending hexited
    exact ⟨hclosed.1, forall_outlets (·.writable = false) hclosed.2 (hclosed.2 _)⟩
  | drain stream hcaller hdrained hheld hwritable =>
    refine .of_collecting hcaller hfed h.of_sawEnd
      (forall_outlets _ h.outlets ((h.outlets _).drain hheld hwritable)) fun ending hexited ↦ ?_
    have hclosed := h.of_exited ending hexited
    exact ⟨hclosed.1, forall_outlets (·.writable = false) hclosed.2 (hclosed.2 _)⟩
  | @reap ending hcaller hdrained hchild =>
    refine ⟨hfed, h.of_sawEnd, h.outlets, h.of_exited, fun _ hjoining ↦ ?_, by simp⟩
    cases hjoining
    exact ⟨hchild, hdrained⟩
  | @join ending whole hcaller hfeeder =>
    refine ⟨hfed, h.of_sawEnd, h.outlets, h.of_exited, by simp, fun _ hreturned ↦ ?_⟩
    cases hreturned
    obtain ⟨hchild, hdrained⟩ := h.of_joining ending hcaller
    exact ⟨ending, whole, hchild, hfeeder, hdrained, rfl⟩
  | @read state most next bytes later hchild hact hreadable hinput hbytes hmost =>
    refine .of_collecting (h.collecting hchild) (hfed.congr rfl id ?_) (fun hsawEnd ↦ ?_) h.outlets
      (by simp)
    · rw [hinput]
      exact List.append_assoc ..
    · -- Behind the end of the input there is nothing to be read.
      have hlength := hfed.prefix.length_le
      rw [(h.of_sawEnd hsawEnd).1, hinput] at hlength
      simp only [List.length_append] at hlength
      exact absurd (List.length_eq_zero_iff.1 (by omega)) hbytes
  | readEnd hchild hact hreadable hinput hfeeder =>
    exact .of_collecting (h.collecting hchild) hfed
      (fun _ ↦ hfed.at_end hfeeder hreadable hinput) h.outlets (by simp)
  | write bytes hchild hact hbytes hwritable hroom =>
    exact .of_collecting (h.collecting hchild) hfed h.of_sawEnd
      (forall_outlets _ h.outlets ((h.outlets _).write hwritable _)) (by simp)
  | closeInput hchild hact =>
    exact .of_collecting (h.collecting hchild) (hfed.congr rfl (fun _ ↦ rfl) rfl) h.of_sawEnd
      h.outlets (by simp)
  | close hchild hact =>
    exact .of_collecting (h.collecting hchild) hfed h.of_sawEnd
      (forall_outlets _ h.outlets (h.outlets _).close) (by simp)
  | work hchild hact =>
    exact .of_collecting (h.collecting hchild) hfed h.of_sawEnd h.outlets (by simp)
  | exit hchild hact =>
    exact .of_collecting (h.collecting hchild) (hfed.congr rfl (fun _ ↦ rfl) rfl) h.of_sawEnd
      (fun stream ↦ (h.outlets stream).close) fun _ _ ↦ ⟨rfl, fun _ ↦ rfl⟩

theorem Reachable.sound (h : Reachable capacity source x) : x.Sound source := by
  induction h with
  | start => exact sound_start c source
  | next _ step ih => exact ih.step step

variable (capacity)

theorem exists_step_of_feeding {left : Bytes} (hfeeder : x.feeder = .feeding left)
    (h : x.readable = false ∨ x.input = []) : ∃ y, Step capacity x y := by
  cases left with
  | nil => exact ⟨_, .fed hfeeder⟩
  | cons b left =>
    cases hreadable : x.readable with
    | false => exact ⟨_, .breakOff hfeeder (by simp) hreadable⟩
    | true =>
      have hinput := h.resolve_left (by simp [hreadable])
      exact ⟨_, .feed [b] hfeeder (by simp) hreadable
        (by rw [hinput]; exact capacity.input_pos)⟩

theorem exists_step_of_held {stream : Stream} (hcaller : x.caller = .collecting)
    (h : (x.outlets stream).held ≠ []) : ∃ y, Step capacity x y :=
  ⟨_, .collect stream _ hcaller (List.append_nil _).symm h⟩

theorem Sound.exists_step_of_exited (h : x.Sound source) {ending : Shell.Ending}
    (hchild : x.child = .exited ending) (hreturned : ∀ answer, x.caller ≠ .returned answer) :
    ∃ y, Step capacity x y := by
  obtain ⟨hreadable, hwritable⟩ := h.of_exited ending hchild
  cases hfeeder : x.feeder with
  | feeding left => exact exists_step_of_feeding capacity hfeeder (.inl hreadable)
  | finished whole =>
    cases hcaller : x.caller with
    | collecting =>
      by_cases hdrained : ∀ stream, (x.outlets stream).drained = true
      · exact ⟨_, .reap hcaller hdrained hchild⟩
      · obtain ⟨stream, hdrained⟩ := not_forall.1 hdrained
        by_cases hheld : (x.outlets stream).held = []
        · exact ⟨_, .drain stream hcaller (Bool.eq_false_iff.2 hdrained) hheld (hwritable stream)⟩
        · exact exists_step_of_held capacity hcaller hheld
    | joining ending => exact ⟨_, .join hcaller hfeeder⟩
    | returned answer => exact absurd hcaller (hreturned answer)

/-- A tool that waits for input or for room waits for somebody who can go on. -/
theorem Sound.exists_step (h : x.Sound source) (hreturned : ∀ answer, x.caller ≠ .returned answer)
    (hwaits : x.Waits) : ∃ y, Step capacity x y := by
  cases hchild : x.child with
  | exited ending => exact h.exists_step_of_exited capacity hchild hreturned
  | running state =>
    simp only [Waits, hchild] at hwaits
    obtain ⟨⟨act, hact⟩, hall⟩ := hwaits
    have hone := hall act hact
    cases act with
    | read most next =>
      obtain ⟨hmost, hreadable⟩ := hone
      cases hinput : x.input with
      | cons b later =>
        exact ⟨_, .read [b] hchild hact hreadable hinput (by simp) hmost⟩
      | nil =>
        cases hfeeder : x.feeder with
        | feeding left => exact exists_step_of_feeding capacity hfeeder (.inr hinput)
        | finished whole => exact ⟨_, .readEnd hchild hact hreadable hinput hfeeder⟩
    | write stream bytes next =>
      obtain ⟨hbytes, hwritable⟩ := hone
      obtain ⟨b, left, rfl⟩ := List.exists_cons_of_ne_nil hbytes
      by_cases hheld : (x.outlets stream).held = []
      · exact ⟨_, .write [b] hchild hact (by simp) hwritable
          (by rw [hheld]; exact capacity.output_pos stream)⟩
      · exact exists_step_of_held capacity (h.collecting hchild) hheld
    | closeInput | close | work | exit => exact hone.elim

theorem Sound.finished_eq (h : x.Sound source)
    (hdrained : ∀ stream, (x.outlets stream).drained = true) (ending : Shell.Ending) :
    x.finished ending = ⟨ending, (x.outlets .output).said, (x.outlets .errors).said⟩ := by
  have hcollected : ∀ stream, (x.outlets stream).collected = (x.outlets stream).said := by
    intro stream
    rw [← (h.outlets stream).said_eq, ((h.outlets stream).of_drained (hdrained stream)).1,
      List.append_nil]
  rw [finished, hcollected, hcollected]

end Exchange

end StyleTypings.Tool
