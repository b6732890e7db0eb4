import BrowserPilot.Proofs.Operation.Path
import BrowserPilot.Tool.Run

namespace BrowserPilot

/-!
# What tasks do and how they fail

A task keeps within bounds if it applies primitives of one kind only, and fails only as its
surroundings do or in a way of its own. Nothing of its own is ever the arguments' fault.
-/

/-- A result, if it is a failure, is one of `F`. -/
def FailsOnly {α : Type} (F : Failure → Prop) (r : Result α) : Prop := ∀ e, r = .error e → F e

/-- An answer, if it is a failure, is one of `F`. -/
def Request.Fair {π : Type} (F : Failure → Prop) : (r : Request π) → r.Answer → Prop
  | .lock _, r => FailsOnly (α := Unit) F r
  | .primitive p _, r => FailsOnly (α := p.Reply) F r
  | .pause .., r => FailsOnly (α := Unit) F r
  | .sample .., r => FailsOnly (α := String) F r
  | _, _ => True

theorem Request.fair_true {π : Type} {r : Request π} (a : r.Answer) :
    r.Fair (fun _ ↦ True) a := by
  cases r <;> first | trivial | exact fun _ _ ↦ trivial

/-- Every failure is one of `F` that is not the arguments' fault. -/
def Tolerant (F : Failure → Prop) : Prop := ∀ e, e.isInvalidArgument = false → F e

section

variable {α β : Type} {F : Failure → Prop}

theorem failsOnly_ok (a : α) : FailsOnly F (.ok a) := nofun

theorem failsOnly_error {e : Failure} (h : F e) : FailsOnly F (.error e : Result α) := by
  rintro _ ⟨⟩
  exact h

theorem FailsOnly.error {e : Failure} (h : FailsOnly F (.error e : Result α)) :
    FailsOnly F (.error e : Result β) :=
  failsOnly_error (h e rfl)

end

/-- A task applies only primitives of which `U` holds, and fails as `F` says where its surroundings
do so. It may crash if `X` holds. -/
def Task.Within {π α : Type} (X : Prop) (F : Failure → Prop) (U : Primitive → Prop)
    (t : Task π α) : Prop :=
  ∀ J : List Called → Prop, (∀ k p reply, U p → J k → J (k ++ [⟨p, reply⟩])) → ∀ k, J k →
    Operation.Always X (Request.Fair F) J (fun _ r ↦ FailsOnly F r) k t.run

namespace Task.Within

variable {π α β : Type} {X : Prop} {F : Failure → Prop} {U : Primitive → Prop} {t : Task π α}

theorem settled {r : Result α} (h : FailsOnly F r) :
    Within X F U (Task.attempt (.done r) : Task π α) :=
  fun _ _ _ hk ↦ .done hk h

theorem pure (a : α) : Within X F U (Pure.pure a : Task π α) := settled (failsOnly_ok a)

theorem throw {e : Failure} (h : F e) : Within X F U (MonadExcept.throw e : Task π α) :=
  settled (failsOnly_error h)

theorem bind {f : α → Task π β} (ht : Within X F U t) (hf : ∀ a, Within X F U (f a)) :
    Within X F U (t >>= f) := fun J hJ k hk ↦
  Task.always_bind (ht J hJ k hk) (fun k a hk _ ↦ hf a J hJ k hk) fun _ _ h ↦ h.error

theorem result_bind {g : Result α → Task π β} (ht : Within X F U t)
    (hg : ∀ r, FailsOnly F r → Within X F U (g r)) : Within X F U (Task.result t >>= g) :=
  fun J hJ k hk ↦ Task.always_result_bind (ht J hJ k hk) fun k r hk hr ↦ hg r hr J hJ k hk

theorem log (level : LogLevel) (message : String) (fields : LogFields) :
    Within X F U (Task.log level message fields : Task π Unit) :=
  fun _ _ _ hk ↦ .ask hk fun _ _ ↦ .done hk (failsOnly_ok ())

theorem now : Within X F U (Task.now : Task π Instant) :=
  fun _ _ _ hk ↦ .ask hk fun a _ ↦ .done hk (failsOnly_ok a)

theorem wallClock (zone : Zone) : Within X F U (Task.wallClock zone : Task π CivilTime) :=
  fun _ _ _ hk ↦ .ask hk fun a _ ↦ .done hk (failsOnly_ok a)

theorem primitive {p : Primitive} (hp : U p) (d : Option Deadline) :
    Within X F U (Task.primitive p d : Task π p.Reply) :=
  fun _ hJ k hk ↦ .ask hk fun reply hr ↦ .done (hJ k p reply hp hk) hr

theorem pause (millis : Nat) (cancel : Cancellation) (d : Option Deadline) :
    Within X F U (Task.pause millis cancel d : Task π Unit) :=
  fun _ _ _ hk ↦ .ask hk fun _ hr ↦ .done hk hr

theorem sample (request : SamplingRequest) (cancel : Cancellation) :
    Within X F U (Task.sample request cancel : Task π String) :=
  fun _ _ _ hk ↦ .ask hk fun _ hr ↦ .done hk hr

theorem inSpan {span : Span} (ht : Within X F U t) : Within X F U (Task.inSpan span t) :=
  fun J hJ k hk ↦ Task.always_inSpan (ht J hJ k hk)

theorem withPage (hF : Tolerant F) {d : Option Deadline} (ht : Within X F U t) :
    Within X F U (Task.withPage d t) := fun J hJ k hk ↦
  Task.always_withPage (ht J hJ k hk) (fun _ he ↦ FailsOnly.error he) (failsOnly_error (hF _ rfl))

end Task.Within

open BrowserPilot.Task (Within)

variable {π : Type} {X : Prop} {F : Failure → Prop} {U : Primitive → Prop}

/-! ## The session -/

namespace Session

theorem within_navigate (hF : Tolerant F) {url : String} (hU : U (.goto url)) :
    Within X F U (navigate url : Task π Unit) :=
  (Within.primitive hU _).withPage hF

theorem within_observe (hU : U (.screenshot false)) (d : Option Deadline) :
    Within X F U (observe d : Task π Observation) :=
  (Within.primitive hU _).bind fun _ ↦ (Within.log _ _ _).bind fun _ ↦ .pure _

theorem within_capture (hF : Tolerant F) (hU : U (.screenshot false)) :
    Within X F U (capture : Task π Observation) :=
  (within_observe hU none).withPage hF

end Session

/-! ## Dispatches -/

/-- What a dispatch of an action may do to the page. -/
def Action.Touches (a : Action) (p : Primitive) : Prop :=
  p ∈ a.plan ∨ p = .releaseAll ∨ p = .screenshot false

namespace Dispatch

theorem within_applyAll (d : Deadline) {ps : List Primitive} (hU : ∀ p ∈ ps, U p) :
    Within X F U (applyAll d ps : Task π Unit) := by
  induction ps with
  | nil => exact .pure ()
  | cons p ps ih =>
      exact (Within.primitive (hU p List.mem_cons_self) _).bind fun _ ↦
        ih fun q hq ↦ hU q (List.mem_cons_of_mem p hq)

variable {a : Action}

theorem within_perform (c : Config) (cancel : Cancellation) (d : Deadline)
    (hU : ∀ p, a.Touches p → U p) : Within X F U (perform c a cancel d : Task π Unit) := by
  refine (within_applyAll d fun p hp ↦ hU p (.inl hp)).bind fun _ ↦ ?_
  cases a with
  | wait requested => exact .pause _ _ _
  | _ => exact .pure ()

theorem within_release (hU : U .releaseAll) : Within X F U (release : Task π Unit) := by
  refine (Within.primitive hU _).result_bind fun r _ ↦ ?_
  cases r with
  | ok _ => exact .pure ()
  | error e => exact .log _ _ _

theorem within_performAndObserve (c : Config) (cancel : Cancellation) (d : Deadline)
    (hU : ∀ p, a.Touches p → U p) :
    Within X F U (performAndObserve c a cancel d : Task π Observation) := by
  refine (within_perform c cancel d hU).result_bind fun r hr ↦ ?_
  cases r with
  | ok _ => exact Session.within_observe (hU _ (.inr (.inr rfl))) _
  | error e => exact (within_release (hU _ (.inr (.inl rfl)))).bind fun _ ↦ .settled hr.error

end Dispatch

/-- The one thing that can crash is a dispatch. -/
theorem within_dispatch (hX : X) (hF : Tolerant F) (c : Config) {a : Action}
    (cancel : Cancellation) (hU : ∀ p, a.Touches p → U p) :
    Within X F U (dispatch c a cancel : Task π Observation) := by
  have hrun : Within X F U (Dispatch.run c a cancel : Task π Observation) := by
    refine Within.now.bind fun now ↦ ?_
    split
    · exact fun _ _ _ hk ↦ .crash hX hk
    · exact (Dispatch.within_performAndObserve c cancel _ hU).withPage hF
  refine hrun.inSpan.result_bind fun r hr ↦ ?_
  cases r with
  | ok o => exact (Within.log _ _ _).bind fun _ ↦ .pure o
  | error e => exact (Within.log _ _ _).bind fun _ ↦ .settled hr.error

/-! ## Research -/

namespace Research

theorem within_askFor {σ α : Type} (hF : Tolerant F) (s : Settings) (cancel : Cancellation)
    (role : Role) (prompt : String) (r : Json.RecordReader σ α) :
    Within X F U (askFor s cancel role prompt r : Task π α) := by
  refine (Within.sample _ _).bind fun text ↦ ?_
  split
  · exact .pure _
  · exact .throw (hF _ rfl)

theorem within_search (hF : Tolerant F) (s : Settings) (cancel : Cancellation)
    (question reason : String) (rounds round : Nat) (query : String) (results : List String) :
    Within X F U (search s cancel question reason rounds round query results : Task π _) := by
  induction rounds generalizing round query results with
  | zero => exact .pure results
  | succ rounds ih =>
      refine (Within.sample _ _).bind fun found ↦ ?_
      refine (within_askFor hF s cancel .reflector _ Reflection.reader).bind fun r ↦ ?_
      split
      · exact (Within.log _ _ _).bind fun _ ↦ .pure _
      · exact (Within.log _ _ _).bind fun _ ↦ ih _ _ _

theorem within_searchAll (hF : Tolerant F) (s : Settings) (cancel : Cancellation)
    (question : String) (ps : List PlannedSearch) :
    Within X F U (searchAll s cancel question ps : Task π (List String)) := by
  induction ps with
  | nil => exact .pure []
  | cons p ps ih =>
      exact (within_search hF s cancel question p.reason _ 0 p.query []).bind fun _ ↦
        ih.bind fun _ ↦ .pure _

/-- Research does nothing to the page. -/
theorem within_run (hF : Tolerant F) (s : Settings) (cancel : Cancellation) (question : String) :
    Within X F U (run s cancel question : Task π String) :=
  (within_askFor hF s cancel .planner _ Plan.reader).bind fun plan ↦
    (Within.log _ _ _).bind fun _ ↦
      (within_searchAll hF s cancel question plan.searches).bind fun _ ↦
        (Within.wallClock .utc).bind fun _ ↦ .sample _ _

end Research

end BrowserPilot
