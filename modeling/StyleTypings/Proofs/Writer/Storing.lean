import StyleTypings.Proofs.Writer.Interleaving

namespace StyleTypings.Writer.Shared

open Disk (Location)
open Text (Bytes encode)

variable {d : Disk} {s s' : Shared}

def placeOf (disk : Disk) (sub : Submission) : Option Location :=
  disk.fileAt? (encode sub.request.target)

def opened (s : Shared) : List Attempt := s.attempts.filter (·.left?.isSome)

def lastFor (disk : Disk) (attempts : List Attempt) (sub : Submission) : Option Attempt :=
  (attempts.filter fun a ↦ placeOf disk a.submission == placeOf disk sub).getLast?

/-- The target of every attempt that opened a file leads to that file, and the file holds what the
last attempt that opened it left there, whichever target that one was for. -/
def Stored (s : Shared) : Prop :=
  ∀ a ∈ s.opened, (placeOf s.disk a.submission).isSome ∧
    ∃ last left, lastFor s.disk s.opened a.submission = some last ∧ last.left? = some left ∧
      s.disk.contents (encode a.submission.request.target) = .ok left

theorem lastFor_append_singleton (disk : Disk) (attempts : List Attempt) (new : Attempt)
    (sub : Submission) : lastFor disk (attempts ++ [new]) sub =
      if placeOf disk new.submission = placeOf disk sub then some new
      else lastFor disk attempts sub := by
  by_cases h : placeOf disk new.submission = placeOf disk sub <;> simp [lastFor, h]

theorem lastFor_congr {disk disk' : Disk} {attempts : List Attempt} {sub : Submission}
    (h : ∀ a ∈ attempts, placeOf disk' a.submission = placeOf disk a.submission)
    (hsub : placeOf disk' sub = placeOf disk sub) :
    lastFor disk' attempts sub = lastFor disk attempts sub := by
  unfold lastFor
  rw [List.filter_congr fun a ha ↦ ?_]
  rw [h a ha, hsub]

theorem opened_append_singleton (attempts : List Attempt) (a : Attempt) :
    (attempts ++ [a]).filter (·.left?.isSome) =
      attempts.filter (·.left?.isSome) ++ if a.left?.isSome then [a] else [] := by
  cases h : a.left?.isSome <;> simp [h]

/-- One more attempt that opens its file keeps what the files of the earlier ones hold, but for its
own file. -/
theorem Stored.write (hs : Stored s) (new : Attempt) {left : Bytes} {disk : Disk}
    (hleft : new.left? = some left)
    (h : s.disk.write (encode new.submission.request.target) left = .ok disk)
    (hopened : s'.opened = s.opened ++ [new]) (hd : s'.disk = disk) : Stored s' := by
  subst hd
  obtain ⟨spot, executable, w⟩ := Disk.exists_wrote h
  have hself : placeOf s'.disk new.submission = some spot := w.fileAt?_self
  have hsame : ∀ a ∈ s.opened, placeOf s'.disk a.submission = placeOf s.disk a.submission := by
    intro a ha
    obtain ⟨location, hl⟩ := Option.isSome_iff_exists.1 (hs a ha).1
    exact (w.fileAt?_other hl).trans hl.symm
  intro a ha
  rw [hopened] at ha ⊢
  rw [lastFor_append_singleton]
  by_cases hplace : placeOf s'.disk new.submission = placeOf s'.disk a.submission
  · rw [if_pos hplace]
    rw [hself] at hplace
    exact ⟨hplace ▸ rfl, new, left, rfl, hleft, w.contents_same hplace.symm⟩
  · rw [if_neg hplace]
    rcases List.mem_append.1 ha with ha | ha
    · obtain ⟨hsome, last, bytes, hlast, hbytes, hcontents⟩ := hs a ha
      obtain ⟨location, hl⟩ := Option.isSome_iff_exists.1 hsome
      rw [hself, hsame a ha, hl] at hplace
      rw [lastFor_congr hsame (hsame a ha), hsame a ha]
      exact ⟨hsome, last, bytes, hlast, hbytes,
        w.contents_other hl (fun he ↦ hplace (he ▸ rfl)) hcontents⟩
    · obtain rfl := List.mem_singleton.1 ha
      exact absurd rfl hplace

theorem Stored.step (hs : Stored s) (h : Step s s') : Stored s' := by
  cases h with
  | submits h => cases h <;> exact hs
  | finishes h => cases h <;> exact hs
  | works h =>
    cases h with
    | @write sub disk _ h =>
      exact hs.write ⟨sub, .written⟩ rfl h (opened_append_singleton ..) rfl
    | @fail sub disk _ fault left? h =>
      cases left? with
      | none =>
        cases h
        have hopened := opened_append_singleton s.attempts ⟨sub, .failed fault none⟩
        rw [if_neg (by simp [Attempt.left?, Disk.Outcome.left?]), List.append_nil] at hopened
        rw [Stored, opened, ← hopened] at hs
        exact hs
      | some left =>
        exact hs.write ⟨sub, .failed fault (some left)⟩ rfl h
          (opened_append_singleton ..) rfl
    | take | report | panic | die | leave => exact hs

theorem Reachable.stored (h : Reachable d s) : Stored s := by
  induction h with
  | start => simp [Stored, opened]
  | next _ step ih => exact ih.step step

theorem filter_opened_eq {sub : Submission}
    (hown : ∀ a ∈ s.opened, placeOf s.disk a.submission = placeOf s.disk sub →
      a.outcome = .written ∧ a.submission.request.target = sub.request.target) :
    s.opened.filter (fun a ↦ placeOf s.disk a.submission == placeOf s.disk sub) =
      (s.attempts.filter (·.fault?.isNone)).filter
        (·.submission.request.target == sub.request.target) := by
  rw [opened, List.filter_filter, List.filter_filter]
  refine List.filter_congr fun a ha ↦ ?_
  rw [Bool.eq_iff_iff, Bool.and_eq_true_iff, Bool.and_eq_true_iff, beq_iff_eq, beq_iff_eq]
  constructor
  · rintro ⟨hplace, hleft⟩
    obtain ⟨houtcome, htarget⟩ := hown a (List.mem_filter.2 ⟨ha, hleft⟩) hplace
    exact ⟨htarget, by rw [Attempt.fault?, houtcome]; rfl⟩
  · obtain ⟨_, _ | _⟩ := a
    · exact fun ⟨htarget, _⟩ ↦ ⟨by rw [placeOf, placeOf, htarget], rfl⟩
    · exact fun ⟨_, hnone⟩ ↦ absurd hnone (by simp [Attempt.fault?, Disk.Outcome.fault?])

theorem Stored.contents_eq (hs : Stored s) {sub : Submission}
    (hlast : (s.written.filter (·.request.target == sub.request.target)).getLast? = some sub)
    (hown : ∀ a ∈ s.opened, placeOf s.disk a.submission = placeOf s.disk sub →
      a.outcome = .written ∧ a.submission.request.target = sub.request.target) :
    s.disk.contents (encode sub.request.target) = .ok (encode sub.request.contents) := by
  rw [written, List.filter_map, List.getLast?_map, Option.map_eq_some_iff] at hlast
  obtain ⟨a, ha, rfl⟩ := hlast
  have hfor : lastFor s.disk s.opened a.submission = some a :=
    (congrArg List.getLast? (filter_opened_eq hown)).trans ha
  have hopened : a ∈ s.opened := (List.mem_filter.1 (List.mem_of_getLast? hfor)).1
  obtain ⟨-, last, left, hlast, hleft, hcontents⟩ := hs a hopened
  obtain rfl := Option.some.inj (hfor.symm.trans hlast)
  rw [Attempt.left?, (hown a hopened rfl).1] at hleft
  rw [hcontents, ← Option.some.inj hleft]

end StyleTypings.Writer.Shared
