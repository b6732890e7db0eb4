import BrowserPilot.Proofs.Operation.Pool
import BrowserPilot.Proofs.Session.Errand

namespace BrowserPilot

/-!
# Visitors of the session

Callers take turns at the page, whatever they want and whenever they come. A dispatch
whose turn does not come in time is told so right then, and nobody else notices.
-/

variable {B : Backend} {w : World B} {c : Caller}

theorem asked?_dispatch (cfg : Config) (a : Action) (cancel : Cancellation) :
    (dispatch cfg a cancel : Task B.Page Observation).run.asked? w c =
      (Deadline.after? w.clock cfg.actionTimeoutSeconds.toNat).map fun d ↦ (w.clock, some d) := by
  have hrun : ∀ c', (Dispatch.run cfg a cancel : Task B.Page Observation).run.asked? w c' =
      (Deadline.after? w.clock cfg.actionTimeoutSeconds.toNat).map fun d ↦ (w.clock, some d) := by
    intro c'
    rw [Dispatch.run, Task.asked?_now_bind]
    split
    · rename_i hd
      rw [hd]
      rfl
    · rename_i d hd
      rw [hd]
      rfl
  unfold dispatch
  rw [Task.asked?_result_bind]
  · have hspan : (Task.inSpan (Span.dispatch a.kind) (Dispatch.run cfg a cancel) :
        Task B.Page Observation).run.asked? w c =
        (Task.result (Dispatch.run cfg a cancel) >>= fun r ↦
          Task.lift (Operation.request .leave) >>= fun _ ↦ Task.attempt (.done r) :
          Task B.Page Observation).run.asked? w
            { c with spans := c.spans ++ [Span.dispatch a.kind] } :=
      rfl
    rw [hspan, Task.asked?_result_bind, hrun]
    exact fun r ↦ Task.only_bind (Task.only_lift rfl) fun _ ↦ by cases r <;> exact .done _
  · intro r
    cases r with
    | ok o => exact Task.only_bind (Task.note_log _ _ _) fun _ ↦ .done _
    | error e => exact Task.only_bind (Task.note_log _ _ _) fun _ ↦ .done _

theorem asked?_dispatch_eq_some {cfg : Config} {a : Action} {cancel : Cancellation}
    {asked : Instant} {d : Option Deadline}
    (h : (dispatch cfg a cancel : Task B.Page Observation).run.asked? w c = some (asked, d)) :
    asked = w.clock ∧ d = Deadline.after? w.clock cfg.actionTimeoutSeconds.toNat := by
  rw [asked?_dispatch] at h
  obtain ⟨d', hd', heq⟩ := Option.map_eq_some_iff.1 h
  obtain ⟨rfl, rfl⟩ := Prod.mk.inj heq
  exact ⟨rfl, hd'.symm⟩

/-- Only a dispatch has a deadline for the lock, and its time runs from when it asks. -/
theorem Errand.asked?_task {e : Errand} {asked : Instant} {d : Deadline}
    (h : (e.task : Task B.Page Reply).run.asked? w c = some (asked, some d)) :
    ∃ cfg a cancel, e.dispatched? = some (cfg, a, cancel) ∧ asked = w.clock ∧
      Deadline.after? w.clock cfg.actionTimeoutSeconds.toNat = some d := by
  have hnever : ∀ {t : Instant}, some (t, none) ≠ some (asked, some d) := by simp
  cases e with
  | dispatch cfg a cancel =>
      rw [task, Task.asked?_bind_pure] at h
      obtain ⟨hasked, hd⟩ := asked?_dispatch_eq_some h
      exact ⟨cfg, a, cancel, rfl, hasked, hd.symm⟩
  | browser cfg ctx args =>
      rw [task, Task.asked?_bind_pure, Tool.runBrowser] at h
      cases haction : Action.ofDescriptor args with
      | error e =>
          rw [haction] at h
          cases h
      | ok a =>
          rw [haction] at h
          have hdispatch :=
            (Task.asked?_bind_pure (f := fun o : Observation ↦ [o.part])).symm.trans h
          obtain ⟨hasked, hd⟩ := asked?_dispatch_eq_some hdispatch
          exact ⟨cfg, a, ctx.cancel, by simp [dispatched?, haction, Except.toOption], hasked,
            hd.symm⟩
  | openUrl args =>
      rw [task, Task.asked?_bind_pure, Tool.runOpenUrl] at h
      cases hurl : Tool.urlArgument Url.parse args with
      | error e =>
          rw [hurl] at h
          cases h
      | ok url =>
          rw [hurl] at h
          exact absurd h hnever
  | browserAgent ctx args =>
      rw [task, Task.asked?_bind_pure, Tool.runBrowserAgent] at h
      cases hprompt : Tool.textArgument "prompt" args with
      | error e =>
          rw [hprompt] at h
          cases h
      | ok prompt =>
          rw [hprompt] at h
          cases hsample : ctx.canSample with
          | false =>
              simp only [Tool.needSampling, hsample] at h
              cases h
          | true =>
              simp only [Tool.needSampling, hsample, if_true] at h
              obtain ⟨answer, w', c', hcapture⟩ := Task.asked?_sample_bind h
              exact absurd hcapture hnever
  | _ => exact absurd h hnever

/-- A dispatch that does not get the lock by its deadline is over then, whoever asked for it. -/
theorem Errand.task_late {e : Errand} {cfg : Config} {a : Action} {cancel : Cancellation}
    {s : Scene B} {queued : Nat} (he : e.dispatched? = some (cfg, a, cancel))
    (hfit : (Dispatch.deadline cfg s.clock).instant < horizon)
    (hlate : (Dispatch.deadline cfg s.clock).instant < s.clock + queued) :
    Task.Meets queued (· = s) (e.task : Task B.Page Reply) fun r _ ↦
      r = .error (.timeout cfg.actionTimeout) := by
  have hdispatch : Task.Meets queued (· = s) (BrowserPilot.dispatch cfg a cancel) fun r _ ↦
      r = .error (.timeout cfg.actionTimeout) :=
    (dispatch_late hfit hlate).mono (fun _ h ↦ h) fun _ _ h ↦ h.1
  cases e with
  | dispatch cfg' a' cancel' =>
      obtain ⟨rfl, rfl, rfl⟩ : cfg' = cfg ∧ a' = a ∧ cancel' = cancel := by
        simpa [dispatched?] using he
      exact hdispatch.error_bind
  | browser cfg' ctx args =>
      cases haction : Action.ofDescriptor args with
      | error e => simp [dispatched?, haction, Except.toOption] at he
      | ok a' =>
          obtain ⟨rfl, rfl, rfl⟩ : cfg' = cfg ∧ a' = a ∧ ctx.cancel = cancel := by
            simpa [dispatched?, haction, Except.toOption] using he
          have hsettled : Task.Meets queued (· = s)
              (Tool.settled (.ok a') : Task B.Page Action) fun r s' ↦ r = .ok a' ∧ s' = s :=
            .settled _ fun _ h ↦ ⟨rfl, h⟩
          have hbrowser : Task.Meets queued (· = s)
              (Tool.runBrowser cfg' ctx args : Task B.Page (List Part)) fun r _ ↦
                r = .error (.timeout cfg'.actionTimeout) := by
            rw [Tool.runBrowser, haction]
            refine hsettled.bind (fun b ↦ .of_forall fun s' h ↦ ?_) fun e s' h ↦ by simp at h
            obtain ⟨hb, rfl⟩ := h
            obtain rfl : b = a' := by simpa using hb
            exact hdispatch.error_bind
          exact hbrowser.error_bind
  | _ => simp [dispatched?] at he

/-! ## Visitors -/

/-- Somebody who comes with an errand some milliseconds after the beginning. -/
structure Visitor where
  caller : Caller
  after : Nat
  errand : Errand

namespace Visitor

def operation {π : Type} (v : Visitor) : Operation π (Result Errand.Reply) :=
  (Task.pause v.after .never none >>= fun _ ↦ v.errand.task).run

def entry {π : Type} (v : Visitor) : Caller × Operation π (Result Errand.Reply) :=
  (v.caller, v.operation)

theorem visits (v : Visitor) (t : Instant) : (v.operation : Operation B.Page _).Visits t :=
  Task.visits_of_idle (.ask rfl fun _ ↦ .done _) fun _ _ _ ↦ v.errand.visits_task

theorem conclude_arrival (now : Instant) (v : Visitor) :
    (Wait.mk (some (now + v.after)) .never none).conclude now (now + v.after) =
      (.completed, now + v.after) :=
  Wait.conclude_of_completed (Nat.le_add_right _ _) rfl nofun

theorem asked?_operation (v : Visitor) (w : World B) :
    v.operation.asked? w v.caller =
      (v.errand.task : Task B.Page Errand.Reply).run.asked?
        { w with clock := w.clock + v.after } v.caller := by
  have hserve := World.serve_pause w v.caller v.after .never none (conclude_arrival w.clock v)
  calc v.operation.asked? w v.caller
      = (ExceptT.bindCont (fun _ ↦ v.errand.task)
          (w.serve v.caller (.pause v.after .never none)).1 :
            Operation B.Page (Result Errand.Reply)).asked?
          (w.serve v.caller (.pause v.after .never none)).2.1
          (w.serve v.caller (.pause v.after .never none)).2.2 := rfl
    _ = _ := by
      rw [hserve]
      rfl

theorem operation_late (v : Visitor) {cfg : Config} {a : Action} {cancel : Cancellation}
    {s : Scene B} {queued : Nat} (he : v.errand.dispatched? = some (cfg, a, cancel))
    (hfit : (Dispatch.deadline cfg (s.clock + v.after)).instant < horizon)
    (hlate : (Dispatch.deadline cfg (s.clock + v.after)).instant < s.clock + v.after + queued) :
    Task.Meets queued (· = s)
      (Task.pause v.after .never none >>= fun _ ↦ (v.errand.task : Task B.Page Errand.Reply))
      fun r _ ↦ r = .error (.timeout cfg.actionTimeout) := by
  have hpause : Task.Meets queued (· = s) (Task.pause v.after .never none) fun r s' ↦
      r = .ok () ∧ s' = { s with clock := s.clock + v.after } :=
    .pause (conclude_arrival s.clock v) ⟨rfl, rfl⟩
  refine hpause.bind (fun _ ↦ .of_forall fun s' h ↦ ?_) fun e s' h ↦ by simp at h
  obtain ⟨-, rfl⟩ := h
  exact Errand.task_late he hfit hlate

/-- How a visitor fares: it ends without having asked for the lock, as it would alone; it has its
turn; or it came for a dispatch and is refused at its deadline, at which one that asked before it
had the lock. -/
inductive Fares (w : World B) (turns : List (Turn B (Result Errand.Reply))) (i : Nat)
    (v : Visitor) : Outcome (Result Errand.Reply) → Instant → Prop
  | passed {o : Outcome (Result Errand.Reply)} {a : World B} {c : Caller} :
      v.operation.asked? w v.caller = none → v.operation.alone w v.caller = (o, a, c) →
        a.events = w.events → Fares w turns i v o a.clock
  | served {t : Turn B (Result Errand.Reply)} :
      t ∈ turns → t.place = i → Fares w turns i v t.outcome t.ended
  | refused {cfg : Config} {a : Action} {cancel : Cancellation} {u : Instant} :
      v.errand.dispatched? = some (cfg, a, cancel) →
        u = (Dispatch.deadline cfg (w.clock + v.after)).instant → (∀ t ∈ turns, t.place ≠ i) →
        (∃ t ∈ turns, Precedes t.key (w.clock + v.after, i) ∧ t.granted ≤ u ∧ u ≤ t.ended) →
        Fares w turns i v (.returned (.error (.timeout cfg.actionTimeout))) u

theorem fares {turns : List (Turn B (Result Errand.Reply))} {i : Nat} {v : Visitor}
    {o : Outcome (Result Errand.Reply)} {u : Instant}
    (hfate : Fate w turns i v.caller v.operation o u) : v.Fares w turns i o u := by
  cases hfate with
  | passed hasked halone hevents => exact .passed hasked halone hevents
  | served ht hi => exact .served ht hi
  | @refused _ asked d hasked hrefuses hne hblocked =>
      rw [v.asked?_operation] at hasked
      obtain ⟨cfg, a, cancel, he, rfl, hd⟩ := Errand.asked?_task hasked
      change Deadline.after? (w.clock + v.after) _ = some d at hd
      obtain ⟨hfit, rfl⟩ := Dispatch.after?_eq_some.1 hd
      -- It comes to the same whenever the lock would have come, so long as that is too late.
      have hqueued : (Dispatch.deadline cfg (w.clock + v.after)).instant <
          w.clock + v.after + ((Dispatch.deadline cfg (w.clock + v.after)).instant + 1) := by
        lia
      obtain ⟨a', c', hrun, -⟩ := hrefuses _ hqueued
      obtain ⟨r, a'', c'', hrun', rfl⟩ := v.operation_late he hfit hqueued w v.caller rfl
      obtain ⟨rfl, -⟩ := Prod.mk.inj (hrun.symm.trans hrun')
      exact .refused he rfl hne hblocked

/-- Visitors of one session side by side. -/
def pool (w : World B) (visitors : List Visitor) : Pool B (Result Errand.Reply) :=
  Operation.together w (visitors.map entry)

end Visitor

/-- Visitors that come to the session at whatever time with whatever errands take turns. What the
page reports are their blocks one after the other, in the order in which they ask for the lock. -/
theorem visitors_take_turns (w : World B) (visitors : List Visitor) :
    ∃ turns h, Served w (visitors.map Visitor.entry) turns h ∧
      (turns.map Turn.key).Pairwise Precedes ∧ (turns.map Turn.place).Nodup ∧
      (Visitor.pool w visitors).shared.world.events = w.events ++ turns.flatMap Turn.block ∧
      (Visitor.pool w visitors).shared.world.env = h.env ∧
      (Visitor.pool w visitors).shared.world.slot = h.slot ∧
      (Visitor.pool w visitors).shared.holder = none ∧
      (Visitor.pool w visitors).shared.queue = [] ∧
      ∀ (i : Nat) (v : Visitor), visitors[i]? = some v → ∃ c o u,
        (Visitor.pool w visitors).threads[i]? = some ⟨c, .ended o u⟩ ∧ v.Fares w turns i o u := by
  have hops : ∀ op ∈ visitors.map (Visitor.entry (π := B.Page)), op.2.Visits w.clock := by
    intro op hop
    obtain ⟨v, -, rfl⟩ := List.mem_map.1 hop
    exact v.visits _
  obtain ⟨turns, h, hs⟩ := Operation.together_settled hops
  refine ⟨turns, h, hs.served, hs.inOrder, hs.nodup, congrArg Scene.events hs.scene,
    congrArg Scene.env hs.scene, congrArg Scene.slot hs.scene, hs.holder, hs.queue,
    fun i v hv ↦ ?_⟩
  have hop : (visitors.map (Visitor.entry (π := B.Page)))[i]? = some (v.caller, v.operation) := by
    simp [hv, Visitor.entry]
  obtain ⟨c, o, u, ht, hfate⟩ := hs.fates i _ _ hop
  exact ⟨c, o, u, ht, Visitor.fares hfate⟩

end BrowserPilot
