import StyleTypings.Proofs.Watch.Account
import StyleTypings.Proofs.Watch.Edits

namespace StyleTypings.Watch

open Disk (Node)
open Relation (ReflTransGen)
open Text (Bytes encode)
open World (Holds promised requests)

variable {t : Toolchain} {e : Exclusion} {root text : String} {w : World}

namespace Loop

variable {s s' : Loop} {turn : Turn}

def Due (s : Loop) (text : String) : Prop :=
  s.awaited text ∨ (∃ event ∈ s.inbox, event.counts = true ∧ encode text ∈ event.paths) ∨
    text ∈ s.todo

def Fresh (s : Loop) (turn : Turn) : Prop :=
  ∀ content, s.world.disk.seen? (encode turn.path) = some content → turn.found = .ok content

structure Follows (t : Toolchain) (text : String) (s : Loop) : Prop where
  held {turn : Turn} : s.held = some turn → turn.path = text → s.Fresh turn ∨ s.Due text
  kept : s.edited text →
    s.Due text ∨ s.held.map (·.path) = some text ∨ Current t text s.world ∨ s.spoiled text

theorem follows_begin (t : Toolchain) (text : String) (w : World) : Follows t text (.begin w) where
  held := by simp [begin]
  kept h := h.elim

section Separate

variable (hf : Functional t) (hsink : t.sink = .writer) (hroot : Path.Resolved root)
  (hsep : Separate e (encode root) w text) (hsheet : Sheet e (encode root) text)
  (hsound : Sound t e root w s)
include hf hsink hroot hsep hsound

theorem current_of_fresh (hheld : s.held = some turn) (hpath : turn.path = text)
    (hfresh : s.Fresh turn) {schedule : List Nat}
    (ha : ((turn.act t).run { s.world with schedule }).2.writer.alive = true) :
    Current t text ((turn.act t).run { s.world with schedule }).2 := by
  subst hpath
  obtain ⟨htext, hpromised⟩ := Turn.act_upkeep hsink (hsound.scheduled schedule).1
    (hsound.scheduled schedule).2 (hsound.sheet_of_held hroot hheld).isModule
    (fun r ↦ hsound.asked hroot hheld) hsep.spares ha
  intro content names hcontent hnames
  rw [htext] at hcontent
  generalize ((turn.act t).run { s.world with schedule }).2 = w' at hpromised hnames ⊢
  have hr : turn.request? t s.world.disk = some (t.requestFor w'.disk names turn.path) := by
    rw [hf.request?_eq s.world.disk w'.disk]
    simp [Turn.request?, hfresh content hcontent, hnames, Except.toOption]
  rw [hpromised, if_pos rfl, hr]
  rfl

theorem current_of_other (hheld : s.held = some turn) (hpath : turn.path ≠ text)
    (hcurrent : Current t text s.world) {schedule : List Nat}
    (ha : ((turn.act t).run { s.world with schedule }).2.writer.alive = true) :
    Current t text ((turn.act t).run { s.world with schedule }).2 := by
  obtain ⟨htext, hpromised⟩ := Turn.act_upkeep hsink (hsound.scheduled schedule).1
    (hsound.scheduled schedule).2 (hsound.sheet_of_held hroot hheld).isModule
    (fun r ↦ hsound.asked hroot hheld) hsep.spares ha
  rw [if_neg fun h ↦ hpath (typingsPath_injective h)] at hpromised
  exact hcurrent.of_holds hf ⟨htext, hpromised⟩

include hsheet

theorem Follows.works (h : Follows t text s) (hs : Works t e root s s')
    (ha : s'.world.writer.alive = true) : Follows t text s' := by
  cases hs with
  | @take event later hlive hinbox htodo hheld =>
    have hdue : s.Due text → Due { s with
        inbox := later
        todo := event.stylesheets root e
        taken := s.taken ++ [event] } text := by
      rintro (ha | ⟨other, ho, hnames⟩ | hm)
      · exact .inl ha
      · have htold := hsound.told other (List.mem_append_right _ ho)
        rw [hinbox] at ho
        rcases List.mem_cons.1 ho with rfl | ho
        · exact .inr (.inr
            ((mem_stylesheets_iff hroot htold).2 ⟨hnames.1, hsheet, hnames.2⟩))
        · exact .inr (.inl ⟨other, ho, hnames⟩)
      · rw [htodo] at hm
        cases hm
    exact ⟨fun hh ↦ by simp [hheld] at hh, fun he ↦ (h.kept he).imp_left hdue⟩
  | @read path later w' schedule hlive htodo hheld hpause =>
    have hholds := (hsound.scheduled schedule).1.holds_pause hsep.spares (hpause ▸ ha)
    rw [hpause] at hholds
    have hsame : Holds text (Module.typingsPath text) s.world { s.world with schedule } :=
      .of_eq rfl rfl
    refine ⟨?_, fun he ↦ ?_⟩
    · rintro _ ⟨⟩ -
      exact .inl fun content hcontent ↦ Disk.seen?_eq_some_iff.1 hcontent
    · rcases h.kept he with (ha | hnamed | hm) | hh | hcurrent | hspoiled
      · exact .inl (.inl ha)
      · exact .inl (.inr (.inl hnamed))
      · rw [htodo] at hm
        rcases List.mem_cons.1 hm with rfl | hm
        · exact .inr (.inl rfl)
        · exact .inl (.inr (.inr hm))
      · simp [hheld] at hh
      · exact .inr (.inr (.inl (hcurrent.of_holds hf (hsame.trans hholds))))
      · exact .inr (.inr (.inr hspoiled))
  | @act turn outcome _ schedule hlive hheld hact =>
    obtain rfl := congrArg Prod.snd hact
    refine ⟨by simp, fun he ↦ ?_⟩
    by_cases hpath : turn.path = text
    · rcases h.held hheld hpath with hfresh | hdue
      · exact .inr (.inr (.inl
          (current_of_fresh hf hsink hroot hsep hsound hheld hpath hfresh ha)))
      · exact .inl hdue
    · rcases h.kept he with hdue | hh | hcurrent | hspoiled
      · exact .inl hdue
      · simp [hheld, hpath] at hh
      · exact .inr (.inr (.inl
          (current_of_other hf hsink hroot hsep hsound hheld hpath hcurrent ha)))
      · exact .inr (.inr (.inr ⟨hspoiled, Ne.symm hpath⟩))
  | work =>
    have hholds := hsound.tame.holds_work hsep.spares ha
    refine ⟨fun {turn} hh hpath ↦ (h.held hh hpath).imp_left fun hfresh content hcontent ↦ ?_,
      fun he ↦ (h.kept he).imp_right (.imp_right (.imp_left (·.of_holds hf hholds)))⟩
    subst hpath
    rw [hholds.seen?_eq] at hcontent
    exact hfresh content hcontent

theorem Follows.step (h : Follows t text s) (hs : Step t e root s s')
    (ha : s'.world.writer.alive = true) : Follows t text s' := by
  cases hs with
  | works hs => exact h.works hf hsink hroot hsep hsheet hsound hs ha
  | raise event htold =>
    have hdue : s.Due text → Due { s with
        inbox := s.inbox ++ [event]
        awaited := fun text ↦
          s.awaited text ∧ ¬(event.counts = true ∧ encode text ∈ event.paths) } text := by
      rintro (ha | ⟨other, ho, hnames⟩ | hm)
      · by_cases hnames : event.counts = true ∧ encode text ∈ event.paths
        · exact .inr (.inl ⟨event, by simp, hnames⟩)
        · exact .inl ⟨ha, hnames⟩
      · exact .inr (.inl ⟨other, List.mem_append_left _ ho, hnames⟩)
      · exact .inr (.inr hm)
    exact ⟨fun hh hpath ↦ (h.held hh hpath).imp_right hdue, fun he ↦ (h.kept he).imp_left hdue⟩
  | @edit path edit disk hedit =>
    obtain ⟨spot, hspot, hdisturbs⟩ := Edit.exists_disturbs hedit
    by_cases hhere : s.world.disk.spot? (encode text) = s.world.disk.spot? path
    · exact ⟨fun _ _ ↦ .inr (.inl (.inr hhere)), fun _ ↦ .inl (.inl (.inr hhere))⟩
    · have htext : disk.seen? (encode text) = s.world.disk.seen? (encode text) :=
        hdisturbs.seen?_other fun hs ↦ hhere (hs.trans hspot.symm)
      refine ⟨fun {turn} hh hpath ↦ (h.held hh hpath).imp (fun hfresh content hcontent ↦ ?_)
        (.imp_left .inl), fun he ↦ ?_⟩
      · subst hpath
        exact hfresh content (htext ▸ hcontent)
      · by_cases hspoils : s.world.disk.spot? (encode (Module.typingsPath text)) =
            s.world.disk.spot? path ∧
              ∀ r ∈ s.world.writer.queue, r.target ≠ Module.typingsPath text
        · exact .inr (.inr (.inr (.inr hspoils)))
        · have hholds : Holds text (Module.typingsPath text) s.world { s.world with disk } :=
            ⟨htext, World.promised_of_disturbs hspot hdisturbs hspoils⟩
          exact (h.kept (he.resolve_right hhere)).imp (.imp_left .inl)
            (.imp_right (.imp (·.of_holds hf hholds) .inl))

omit hsound in
theorem Follows.run (hw : World.Serving w) (hs : ReflTransGen (Step t e root) (.begin w) s)
    (ha : s.world.writer.alive = true) : Follows t text s := by
  induction hs with
  | refl => exact follows_begin t text w
  | tail hrun hs ih =>
    have hsound := (sound_begin hw).run hf hsink hroot hrun
    exact (ih (hsound.alive_of_step hsink hroot hs ha)).step hf hsink hroot hsep hsheet hsound
      hs ha

end Separate

section Emptied

variable (t e root)

end Emptied

end Loop

end StyleTypings.Watch
