import Mathlib
import StyleTypings.Proofs.Tool.Delivery

namespace StyleTypings.Tool

open Function (update)
open Text (Bytes)

/-- What a tool that reads its whole input first does: it reads, and then it has something left to
put out. -/
inductive Filtering where
  | reading (got : Bytes)
  | writing (left : Shell.Finished)

def chunk : Nat := 4096

def Filtering.act (f : Bytes → Shell.Finished) : Filtering → Act Filtering
  | .reading got => .read chunk fun bytes ↦
      if bytes = [] then .writing (f got) else .reading (got ++ bytes)
  | .writing left =>
    if left.output ≠ [] then
      .write .output left.output fun n ↦ .writing { left with output := left.output.drop n }
    else if left.errors ≠ [] then
      .write .errors left.errors fun n ↦ .writing { left with errors := left.errors.drop n }
    else .exit left.ending

def filter (f : Bytes → Shell.Finished) : Child where
  State := Filtering
  first := .reading []
  acts state act := act = state.act f

section Filtering

variable {f : Bytes → Shell.Finished} {state : Filtering}

theorem Filtering.of_read {most : Nat} {next : Bytes → Filtering}
    (h : .read most next = state.act f) : ∃ got, state = .reading got ∧
      next = fun bytes ↦ if bytes = [] then .writing (f got) else .reading (got ++ bytes) := by
  cases state with
  | reading got =>
    cases h
    exact ⟨got, rfl, rfl⟩
  | writing left =>
    simp only [act] at h
    split at h
    · cases h
    · split at h <;> cases h

theorem Filtering.of_write {stream : Stream} {bytes : Bytes} {next : Nat → Filtering}
    (h : Act.write stream bytes next = state.act f) : ∃ left, state = .writing left ∧
      (stream = .output ∧ bytes = left.output ∧
          (next = fun n ↦ .writing { left with output := left.output.drop n }) ∨
        stream = .errors ∧ bytes = left.errors ∧
          next = fun n ↦ .writing { left with errors := left.errors.drop n }) := by
  cases state with
  | reading got => cases h
  | writing left =>
    refine ⟨left, rfl, ?_⟩
    simp only [act] at h
    split at h
    · cases h
      exact .inl ⟨rfl, rfl, rfl⟩
    · split at h <;> cases h
      exact .inr ⟨rfl, rfl, rfl⟩

theorem Filtering.of_exit {ending : Shell.Ending} (h : .exit ending = state.act f) :
    state = .writing ⟨ending, [], []⟩ := by
  cases state with
  | reading got => cases h
  | writing left =>
    obtain ⟨_, output, errors⟩ := left
    simp only [act] at h
    split at h
    · cases h
    next houtput =>
      split at h
      · cases h
      next herrors =>
        cases h
        rw [not_ne_iff.1 houtput, not_ne_iff.1 herrors]

end Filtering

namespace Exchange

variable {capacity : Capacity} {source : Bytes} {f : Bytes → Shell.Finished}
  {x y : Exchange (filter f)}

def Filtered (source : Bytes) (x : Exchange (filter f)) : Prop :=
  match x.child with
  | .running (.reading got) => x.taken = got ∧ ∀ stream, (x.outlets stream).said = []
  | .running (.writing left) => x.sawEnd = true ∧ left.ending = (f source).ending ∧
      (x.outlets .output).said ++ left.output = (f source).output ∧
      (x.outlets .errors).said ++ left.errors = (f source).errors
  | .exited ending => x.sawEnd = true ∧
      f source = ⟨ending, (x.outlets .output).said, (x.outlets .errors).said⟩

theorem Filtered.congr (h : x.Filtered source) (hchild : y.child = x.child)
    (htaken : y.taken = x.taken) (hsawEnd : y.sawEnd = x.sawEnd)
    (hsaid : ∀ stream, (y.outlets stream).said = (x.outlets stream).said) : y.Filtered source := by
  unfold Filtered at h ⊢
  simpa only [hchild, htaken, hsawEnd, hsaid] using h

theorem said_update (x : Exchange c) {stream : Stream} {o : Outlet}
    (h : o.said = (x.outlets stream).said) (other : Stream) :
    (update x.outlets stream o other).said = (x.outlets other).said := by
  by_cases he : other = stream
  · rw [he, Function.update_self, h]
  · rw [Function.update_of_ne he]

theorem Filtered.step (h : x.Filtered source) (hs : Step capacity x y) (hsound : y.Sound source) :
    y.Filtered source := by
  cases hs with
  | feed | breakOff | fed | reap | join => exact h.congr rfl rfl rfl fun _ ↦ rfl
  | collect | drain => exact h.congr rfl rfl rfl (said_update x rfl)
  | @read state most next bytes later hchild hact hreadable hinput hbytes hmost =>
    obtain ⟨got, rfl, rfl⟩ := Filtering.of_read hact
    simp only [Filtered, hchild] at h
    simp only [Filtered, if_neg hbytes]
    exact ⟨by rw [h.1], h.2⟩
  | readEnd hchild hact hreadable hinput hfeeder =>
    obtain ⟨got, rfl, rfl⟩ := Filtering.of_read hact
    simp only [Filtered, hchild] at h
    obtain rfl : got = source := h.1.symm.trans (hsound.of_sawEnd rfl).1
    simp [Filtered, h.2]
  | @write state stream bytes more next hchild hact hbytes hwritable hroom =>
    obtain ⟨left, rfl, hout | herr⟩ := Filtering.of_write hact
    · obtain ⟨rfl, hleft, rfl⟩ := hout
      simp only [Filtered, hchild] at h
      simp only [Filtered, Function.update_self, Outlet.write, ← hleft, List.drop_left]
      refine ⟨h.1, h.2.1, ?_, ?_⟩
      · rw [List.append_assoc, hleft, h.2.2.1]
      · exact h.2.2.2
    · obtain ⟨rfl, hleft, rfl⟩ := herr
      simp only [Filtered, hchild] at h
      simp only [Filtered, Function.update_self, Outlet.write, ← hleft, List.drop_left]
      refine ⟨h.1, h.2.1, ?_, ?_⟩
      · exact h.2.2.1
      · rw [List.append_assoc, hleft, h.2.2.2]
  | @closeInput state _ hchild hact | @close state _ _ hchild hact | @work state _ hchild hact =>
    cases state with
    | reading got => cases hact
    | writing left =>
      simp only [filter, Filtering.act] at hact
      split at hact
      · cases hact
      · split at hact <;> cases hact
  | exit hchild hact =>
    cases Filtering.of_exit hact
    simp only [Filtered, hchild, List.append_nil] at h
    obtain ⟨hsawEnd, hending, houtput, herrors⟩ := h
    exact ⟨hsawEnd, by simp [Outlet.close, hending, houtput, herrors]⟩

theorem Reachable.filtered (h : Reachable capacity source x) : x.Filtered source := by
  induction h with
  | start => exact ⟨rfl, fun _ ↦ rfl⟩
  | next h step ih => exact ih.step step (h.next step).sound

/-- A tool that reads first is called as if it did all its work at once. -/
theorem Reachable.answer_eq (h : Reachable capacity source x) {given : Except Fault String}
    (hreturned : x.caller = .returned given) : given = answer (f source) := by
  obtain ⟨ending, whole, hchild, hfeeder, hdrained, rfl⟩ := h.sound.of_returned given hreturned
  have hfiltered := h.filtered
  simp only [Filtered, hchild] at hfiltered
  have hwhole := (h.sound.of_sawEnd hfiltered.1).2
  rw [hfeeder] at hwhole
  cases hwhole
  rw [settle_true, h.sound.finished_eq hdrained, hfiltered.2]

end Exchange

theorem Exchange.Reachable.eq_run {d : Disk} {searchPath : List Bytes} {name input script : String}
    {arguments : List String} {path content : Bytes} {capacity : Capacity}
    (hprogram : program d searchPath (Text.encode name) = .ok (path, content))
    (hscript : script? content = some script)
    {x : Exchange (filter fun bytes ↦
      Shell.run d path (arguments.map Text.encode) bytes 2 script)}
    (h : Reachable capacity (Text.encode input) x) {given : Except Fault String}
    (hreturned : x.caller = .returned given) :
    given = run d searchPath name arguments input := by
  rw [h.answer_eq hreturned, run, hprogram]
  simp only [hscript]

/-- A call of a tool never hangs by itself and loses nothing. As long as it has not returned, the
tool does not wait in vain for input, for the end of it or for room; what the tool has read is the
front of the source, and it sees the end only behind all of it; and a text is returned only if the
source was accepted as a whole, the tool has succeeded, and the text is all that it has put out. -/
theorem Exchange.Reachable.lossless {c : Child} {capacity : Capacity} {source : String}
    {x : Exchange c} (h : Reachable capacity (Text.encode source) x) :
    ¬((∀ given, x.caller ≠ .returned given) ∧ x.Waits ∧ ∀ y, ¬Step capacity x y) ∧
      x.taken <+: Text.encode source ∧
      (x.sawEnd = true → x.taken = Text.encode source) ∧
      ∀ text, x.caller = .returned (.ok text) →
        x.feeder = .finished true ∧ x.taken ++ x.input = Text.encode source ∧
          x.child = .exited (.code 0) ∧ Text.decode? (x.outlets .output).said = some text := by
  have hsound := h.sound
  refine ⟨?_, (List.prefix_append ..).trans hsound.fed.prefix, fun hsawEnd ↦
    (hsound.of_sawEnd hsawEnd).1, fun text hreturned ↦ ?_⟩
  · rintro ⟨hreturned, hwaits, hblocked⟩
    obtain ⟨y, hstep⟩ := hsound.exists_step capacity hreturned hwaits
    exact hblocked y hstep
  · obtain ⟨ending, whole, hchild, hfeeder, hdrained, hsettle⟩ := hsound.of_returned _ hreturned
    rw [hsound.finished_eq hdrained] at hsettle
    obtain ⟨rfl, rfl, hdecode⟩ := of_settle_eq_ok hsettle.symm
    refine ⟨hfeeder, ?_, hchild, hdecode⟩
    have hfed := hsound.fed
    rw [Fed, hfeeder] at hfed
    exact hfed

def narrow : Capacity := ⟨1, fun _ ↦ 1, Nat.one_pos, fun _ ↦ Nat.one_pos⟩

def copying : Child := filter fun bytes ↦ ⟨.code 0, bytes, []⟩

theorem exists_returned_copying : ∃ x : Exchange copying,
    x.Reachable narrow (Text.encode "ab") ∧ x.caller = .returned (.ok "ab") ∧ x.sawEnd = true := by
  have hsource : Text.encode "ab" = [97, 98] := by cbv
  rw [hsource]
  have hstart : Exchange.Reachable narrow [97, 98]
      ({ feeder := .feeding [97, 98] } : Exchange copying) := .start
  -- Each byte has to be read before there is room for the next one.
  have hfirst := (hstart.next (.feed [97] rfl (by simp) rfl (by decide))).next
    (.read [97] rfl rfl rfl rfl (by simp) (by decide))
  have hsecond := (hfirst.next (.feed [98] rfl (by simp) rfl (by decide))).next
    (.read [98] rfl rfl rfl rfl (by simp) (by decide))
  have hended := (hsecond.next (.fed rfl)).next (.readEnd rfl rfl rfl rfl rfl)
  -- And so on the way back.
  have hthird := (hended.next (.write [97] rfl rfl (by simp) rfl (by decide))).next
    (.collect .output [97] rfl rfl (by simp))
  have hfourth := (hthird.next (.write [98] rfl rfl (by simp) rfl (by decide))).next
    (.collect .output [98] rfl rfl (by simp))
  have hexited := hfourth.next (.exit rfl rfl)
  have hdrained := (hexited.next (.drain .output rfl rfl rfl rfl)).next
    (.drain .errors rfl rfl rfl rfl)
  have hreturned := (hdrained.next (.reap rfl (by rintro (_ | _) <;> rfl) rfl)).next (.join rfl rfl)
  exact ⟨_, hreturned, by cbv, rfl⟩

theorem Exchange.lossless_copying : ∃ x : Exchange copying,
    x.Reachable narrow (Text.encode "ab") ∧ x.caller = .returned (.ok "ab") ∧
      x.taken = Text.encode "ab" ∧ Text.decode? (x.outlets .output).said = some "ab" := by
  obtain ⟨x, h, hreturned, hsawEnd⟩ := exists_returned_copying
  obtain ⟨-, -, htaken, htext⟩ := Exchange.Reachable.lossless h
  exact ⟨x, h, hreturned, htaken hsawEnd, (htext "ab" hreturned).2.2.2⟩

end StyleTypings.Tool
