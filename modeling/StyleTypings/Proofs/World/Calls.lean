import StyleTypings.Proofs.World.Generation

namespace StyleTypings

open World (run_bind run_note)

namespace Toolchain

def compileCalls (content path : String) : List Call :=
  match (Dialect.ofPath? path).bind Dialect.form? with
  | some form => [.compile content form path]
  | none => []

variable (t : Toolchain)

def callsFor (d : Disk) (content path : String) : List Call :=
  compileCalls content path ++
    match t.namesOf d content path with
    | .error _ => []
    | .ok names => [.format (Typings.render names) (Module.typingsPath path),
        .submit (t.requestFor d names path)]

end Toolchain

namespace World

variable {t : Toolchain} {w : World}

theorem calls_say (w : World) (e : Log.Event) : ((say e).run w).2.calls = w.calls := rfl

theorem calls_forIn_say (w : World) (events : List Log.Event) :
    ((forIn events PUnit.unit fun e _ ↦ do
      say e
      pure (ForInStep.yield PUnit.unit) : App PUnit).run w).2.calls = w.calls := by
  induction events generalizing w with
  | nil => rfl
  | cons e events ih =>
    rw [List.forIn_cons]
    exact ih ((say e).run w).2

theorem calls_compile (source : String) (form : Form) (path : String) :
    ((t.capabilities.compile source form path).run w).2.calls =
      w.calls ++ [.compile source form path] :=
  calls_forIn_say { w with calls := w.calls ++ [.compile source form path] } _

theorem calls_extract (content path : String) :
    ((Generator.extract t.capabilities content path).run w).2.calls =
      w.calls ++ Toolchain.compileCalls content path := by
  unfold Generator.extract Toolchain.compileCalls
  cases Dialect.ofPath? path with
  | none => exact (List.append_nil _).symm
  | some dialect =>
    rw [Option.bind_some]
    dsimp only
    cases dialect.form? with
    | none => exact (List.append_nil _).symm
    | some form =>
      dsimp only
      rw [run_bind, ← calls_compile (t := t)]
      cases ((t.capabilities.compile content form path).run w).1 <;> rfl

theorem calls_formatted (text target : String) :
    ((Generator.formatted t.capabilities text target).run w).2.calls =
      w.calls ++ [.format text target] := by
  obtain ⟨w', hrun, -⟩ := run_format t w text target
  have hcalls : w'.calls = w.calls ++ [.format text target] :=
    congrArg (·.2.calls) hrun.symm
  unfold Generator.formatted
  rw [run_bind, hrun, ← hcalls]
  cases t.formatter.format w.disk text target <;> rfl

theorem calls_submitTypings (names : List String) (path : String) :
    ((Generator.submitTypings t.capabilities names path).run w).2.calls =
      w.calls ++ [.format (Typings.render names) (Module.typingsPath path),
        .submit (t.requestFor w.disk names path)] := by
  obtain ⟨w', hrun, -⟩ := run_formatted t w (Typings.render names) (Module.typingsPath path)
  have hcalls : w'.calls =
      w.calls ++ [.format (Typings.render names) (Module.typingsPath path)] := by
    rw [← calls_formatted (t := t), hrun]
  have hsubmit := calls_capability_submit (t := t)
    ((say (.generated (Module.typingsPath path) names.length)).run w').2
    (t.requestFor w.disk names path)
  rw [calls_say, hcalls, List.append_assoc] at hsubmit
  unfold Generator.submitTypings
  rw [run_bind, hrun]
  exact hsubmit

theorem calls_generate (content : String) {path : String} (hpath : Module.isModule path = true) :
    ((Generator.generate t.capabilities content path).run w).2.calls =
      w.calls ++ t.callsFor w.disk content path := by
  obtain ⟨w₁, hextract, hnoted⟩ := run_extract t w content path
  have hcalls : w₁.calls = w.calls ++ Toolchain.compileCalls content path := by
    rw [← calls_extract (t := t), hextract]
  unfold Generator.generate Toolchain.callsFor
  rw [if_pos hpath, run_bind, hextract, ← List.append_assoc, ← hcalls]
  cases t.namesOf w.disk content path with
  | error failure => exact (List.append_nil _).symm
  | ok names =>
    dsimp only
    rw [run_bind, ← hnoted.disk_eq, ← calls_submitTypings]
    rfl

theorem requests_callsFor (d : Disk) (content path : String) :
    requests (t.callsFor d content path) =
      match t.namesOf d content path with
      | .error _ => []
      | .ok names => [t.requestFor d names path] := by
  have hcompile : requests (Toolchain.compileCalls content path) = [] := by
    unfold Toolchain.compileCalls
    split <;> rfl
  rw [Toolchain.callsFor, requests_append, hcompile, List.nil_append]
  cases t.namesOf d content path <;> rfl

end World
end StyleTypings
