import BrowserPilot.Proofs.Dispatch.Phases
import BrowserPilot.Proofs.Operation.Visit
import BrowserPilot.Tool.Run

namespace BrowserPilot

/-!
# Errands

Everything that can be wanted from a session that has been started is a visit: it asks
for the lock at most once, works with it, and gives it up.
-/

variable {π : Type} {u : Instant}

/-! ## Work -/

namespace Task

theorem work_primitive (p : Primitive) (d : Option Deadline) :
    (primitive p d : Task π p.Reply).run.Only Request.isWork :=
  .ask rfl fun _ ↦ .done _

theorem work_log (level : LogLevel) (message : String) (fields : LogFields) :
    (log level message fields : Task π Unit).run.Only Request.isWork :=
  only_lift rfl

theorem note_log (level : LogLevel) (message : String) (fields : LogFields) :
    (log level message fields : Task π Unit).run.Only Request.isNote :=
  only_lift rfl

theorem only_result_bind {α β : Type} {kind : Request π → Bool} {t : Task π α}
    {g : Result α → Task π β} (ht : t.run.Only kind) (hg : ∀ r, (g r).run.Only kind) :
    (result t >>= g).run.Only kind :=
  only_bind (only_result ht) hg

theorem visits_result_bind {α β : Type} {t : Task π α} {g : Result α → Task π β}
    (ht : t.run.Visits u) (hg : ∀ r, (g r).run.Only Request.isNote) :
    (result t >>= g).run.Visits u :=
  visits_bind (visits_result ht) hg

theorem visits_withPage {α : Type} {t : Task π α} {d : Option Deadline}
    (hd : ∀ d' ∈ d, u ≤ d'.instant) (ht : t.run.Only Request.isWork) :
    (withPage d t).run.Visits u := by
  refine visits_locked hd (only_bind (only_lift rfl) fun page ↦ ?_)
  cases page with
  | true => exact ht
  | false => exact .done _

theorem visits_settled {α β : Type} (r : Result α) {f : α → Task π β}
    (hf : ∀ a v, (f a).run.Visits v) : (Tool.settled r >>= f).run.Visits u :=
  visits_of_idle (.done r) fun a v _ ↦ hf a v

theorem visits_inSpan {α : Type} {t : Task π α} (span : Span) (ht : ∀ v, t.run.Visits v) :
    (inSpan span t).run.Visits u :=
  visits_of_idle (only_lift rfl) fun _ v _ ↦ visits_result_bind (ht v) fun r ↦
    only_bind (only_lift rfl) fun _ ↦ by cases r <;> exact .done _

end Task

namespace Session

theorem work_observe (d : Option Deadline) :
    (observe d : Task π Observation).run.Only Request.isWork :=
  Task.only_bind (Task.work_primitive _ d) fun _ ↦
    Task.only_bind (Task.work_log _ _ _) fun _ ↦ .done _

theorem work_vacate : (vacate : Task π Unit).run.Only Request.isWork := by
  refine Task.only_bind (Task.only_lift rfl) fun page ↦ ?_
  cases page with
  | false => exact .done _
  | true =>
      refine Task.only_result_bind (Task.work_primitive _ _) fun r ↦ ?_
      cases r with
      | ok _ => exact Task.only_bind (Task.work_log _ _ _) fun _ ↦ Task.only_lift rfl
      | error e => exact Task.only_bind (Task.only_lift rfl) fun _ ↦ .done _

theorem visits_capture : (capture : Task π Observation).run.Visits u :=
  Task.visits_withPage nofun (work_observe none)

end Session

namespace Dispatch

theorem work_applyAll (d : Deadline) (ps : List Primitive) :
    (applyAll d ps : Task π Unit).run.Only Request.isWork := by
  induction ps with
  | nil => exact .done _
  | cons p ps ih => exact Task.only_bind (Task.work_primitive p _) fun _ ↦ ih

theorem work_perform (c : Config) (a : Action) (cancel : Cancellation) (d : Deadline) :
    (perform c a cancel d : Task π Unit).run.Only Request.isWork := by
  refine Task.only_bind (work_applyAll d a.plan) fun _ ↦ ?_
  cases a with
  | wait requested => exact .ask rfl fun _ ↦ .done _
  | _ => exact .done _

theorem work_release : (release : Task π Unit).run.Only Request.isWork := by
  refine Task.only_result_bind (Task.work_primitive _ _) fun r ↦ ?_
  cases r with
  | ok _ => exact .done _
  | error e => exact Task.work_log _ _ _

theorem work_performAndObserve (c : Config) (a : Action) (cancel : Cancellation) (d : Deadline) :
    (performAndObserve c a cancel d : Task π Observation).run.Only Request.isWork := by
  refine Task.only_result_bind (work_perform c a cancel d) fun r ↦ ?_
  cases r with
  | ok _ => exact Session.work_observe _
  | error e => exact Task.only_bind work_release fun _ ↦ .done _

theorem visits_run (c : Config) (a : Action) (cancel : Cancellation) :
    (run c a cancel : Task π Observation).run.Visits u := by
  refine Task.visits_now_bind ?_
  split
  · exact .crash _
  · rename_i d hd
    refine Task.visits_withPage (fun d' hd' ↦ ?_) (work_performAndObserve c a cancel d)
    obtain rfl : d = d' := by simpa using hd'
    rw [← (after?_eq_some.1 hd).2]
    exact le_deadline c u

end Dispatch

theorem visits_dispatch (c : Config) (a : Action) (cancel : Cancellation) :
    (dispatch c a cancel : Task π Observation).run.Visits u := by
  refine Task.visits_result_bind
    (Task.visits_inSpan _ fun _ ↦ Dispatch.visits_run c a cancel) fun r ↦ ?_
  cases r with
  | ok o => exact Task.only_bind (Task.note_log _ _ _) fun _ ↦ .done _
  | error e => exact Task.only_bind (Task.note_log _ _ _) fun _ ↦ .done _

/-! ## Errands -/

/-- What a caller can want from the session. -/
inductive Errand
  | dispatch (config : Config) (action : Action) (cancel : Cancellation)
  | browser (config : Config) (ctx : CallContext) (args : Json)
  | navigate (url : String)
  | openUrl (args : Json)
  | capture
  | screenshot
  | browserAgent (ctx : CallContext) (args : Json)
  | currentUrl
  | primitives (ps : List Primitive)
  | stop

namespace Errand

/-- What a caller gets. -/
inductive Reply
  | nothing
  | observation (o : Observation)
  | parts (ps : List Part)
  | address (url : Option String)
  | replies (rs : List ((p : Primitive) × Result p.Reply))

/-- Applies primitives in order, whatever becomes of each. -/
def applyEach : List Primitive → Task π (List ((p : Primitive) × Result p.Reply))
  | [] => pure []
  | p :: ps => do
    let r ← Task.result (Task.primitive p none)
    return ⟨p, r⟩ :: (← applyEach ps)

/-- Runs an errand. -/
def task : Errand → Task π Reply
  | dispatch c a cancel => do return .observation (← BrowserPilot.dispatch c a cancel)
  | browser c ctx args => do return .parts (← Tool.runBrowser c ctx args)
  | navigate url => do
    Session.navigate url
    return .nothing
  | openUrl args => do return .parts (← Tool.runOpenUrl Url.parse args)
  | capture => do return .observation (← Session.capture)
  | screenshot => do return .parts (← Tool.runScreenshot)
  | browserAgent ctx args => do return .parts (← Tool.runBrowserAgent ctx args)
  | currentUrl => do return .address (← Session.currentUrl)
  | primitives ps => do return .replies (← Task.withPage none (applyEach ps))
  | stop => do
    Session.stop
    return .nothing

theorem work_applyEach (ps : List Primitive) :
    (applyEach ps : Task π (List ((p : Primitive) × Result p.Reply))).run.Only Request.isWork := by
  induction ps with
  | nil => exact .done _
  | cons p ps ih =>
      exact Task.only_result_bind (Task.work_primitive p none) fun _ ↦
        Task.only_bind ih fun _ ↦ .done _

/-- Whatever a caller wants, it visits. -/
theorem visits_task (e : Errand) : (e.task : Task π Reply).run.Visits u := by
  have hpage {α : Type} {t : Task π α} (ht : t.run.Only Request.isWork) :
      (Task.withPage none t).run.Visits u := Task.visits_withPage nofun ht
  cases e with
  | dispatch c a cancel => exact Task.visits_bind (visits_dispatch c a cancel) fun _ ↦ .done _
  | browser c ctx args =>
      refine Task.visits_bind (Task.visits_settled _ fun a v ↦ ?_) fun _ ↦ .done _
      exact Task.visits_bind (visits_dispatch c a ctx.cancel) fun _ ↦ .done _
  | navigate url => exact Task.visits_bind (hpage (Task.work_primitive _ _)) fun _ ↦ .done _
  | openUrl args =>
      refine Task.visits_bind (Task.visits_settled _ fun url v ↦ ?_) fun _ ↦ .done _
      refine Task.visits_bind (Task.visits_withPage nofun (Task.work_primitive _ _)) fun _ ↦ ?_
      exact Task.only_bind (Task.note_log _ _ _) fun _ ↦ .done _
  | capture => exact Task.visits_bind Session.visits_capture fun _ ↦ .done _
  | screenshot =>
      exact Task.visits_bind (Task.visits_bind Session.visits_capture fun _ ↦ .done _)
        fun _ ↦ .done _
  | browserAgent ctx args =>
      refine Task.visits_bind (Task.visits_settled _ fun prompt v ↦ ?_) fun _ ↦ .done _
      refine Task.visits_of_idle ?_ fun _ v _ ↦ ?_
      · unfold Tool.needSampling
        split <;> exact .done _
      · refine Task.visits_of_idle (.ask rfl fun _ ↦ .done _) fun answer v _ ↦ ?_
        exact Task.visits_bind Session.visits_capture fun _ ↦ .done _
  | currentUrl => exact Task.visits_bind (hpage (Task.work_primitive _ _)) fun _ ↦ .done _
  | primitives ps => exact Task.visits_bind (hpage (work_applyEach ps)) fun _ ↦ .done _
  | stop =>
      exact Task.visits_bind (Task.visits_locked nofun Session.work_vacate) fun _ ↦ .done _

/-- The dispatch that an errand is, if it is one. -/
def dispatched? : Errand → Option (Config × Action × Cancellation)
  | dispatch c a cancel => some (c, a, cancel)
  | browser c ctx args => (Action.ofDescriptor args).toOption.map fun a ↦ (c, a, ctx.cancel)
  | _ => none

end Errand

end BrowserPilot
