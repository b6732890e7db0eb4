import BrowserPilot.Proofs.Operation.Queued

namespace BrowserPilot

/-!
# What a task asks its caller's model

A task that only asks the model, looks at the clock on the wall and writes to the log is
known by its exchanges: the requests that it makes and the replies that it gets. A
reply may depend on every request made before it.
-/

/-- A request and the model's reply. -/
structure Exchange where
  request : SamplingRequest
  reply : Result String

/-- Every reply is the one that the model gives to all requests made by then. -/
def Answered (sampler : Sampler) : List SamplingRequest → List Exchange → Prop
  | _, [] => True
  | asked, x :: xs =>
    x.reply = (sampler (asked ++ [x.request])).2 ∧ Answered sampler (asked ++ [x.request]) xs

theorem answered_append {sampler : Sampler} {asked : List SamplingRequest} {xs ys : List Exchange} :
    Answered sampler asked (xs ++ ys) ↔
      Answered sampler asked xs ∧ Answered sampler (asked ++ xs.map Exchange.request) ys := by
  induction xs generalizing asked with
  | nil => simp [Answered]
  | cons x xs ih => simp [Answered, ih, and_assoc]

/-- From `c` to `c'` these are the exchanges with the caller's model. -/
def Caller.Exchanged (c : Caller) (xs : List Exchange) (c' : Caller) : Prop :=
  c'.asked = c.asked ++ xs.map Exchange.request ∧ Answered c.sampler c.asked xs

namespace Caller.Exchanged

variable {c₁ c₂ c₃ : Caller} {xs ys : List Exchange}

theorem nil (c : Caller) : c.Exchanged [] c :=
  ⟨(List.append_nil _).symm, trivial⟩

theorem append (h₁ : c₁.Exchanged xs c₂) (hsampler : c₂.sampler = c₁.sampler)
    (h₂ : c₂.Exchanged ys c₃) : c₁.Exchanged (xs ++ ys) c₃ := by
  obtain ⟨hasked₁, hanswered₁⟩ := h₁
  obtain ⟨hasked₂, hanswered₂⟩ := h₂
  constructor
  · rw [hasked₂, hasked₁, List.map_append, List.append_assoc]
  · rw [hsampler, hasked₁] at hanswered₂
    exact answered_append.2 ⟨hanswered₁, hanswered₂⟩

end Caller.Exchanged

variable {B : Backend} {α β : Type} {wall : Zone → CivilTime}

/-- Wherever the clock on the wall shows `wall`, the task returns, and its exchanges with the
model and its result satisfy `P`. -/
def Task.Converses (wall : Zone → CivilTime) (t : Task B.Page α)
    (P : List Exchange → Result α → Prop) : Prop :=
  ∀ (w : World B) (c : Caller), w.wallClock = wall → ∃ r w' c' xs,
    t.run.alone w c = (.returned r, w', c') ∧ w'.wallClock = wall ∧ c'.sampler = c.sampler ∧
      c.Exchanged xs c' ∧ P xs r

namespace Task.Converses

variable {t : Task B.Page α} {f : α → Task B.Page β} {M M' : List Exchange → Result α → Prop}

theorem mono (h : Converses wall t M) (himp : ∀ xs r, M xs r → M' xs r) : Converses wall t M' := by
  intro w c hwall
  obtain ⟨r, w', c', xs, hrun, hwall', hsampler, hxs, hr⟩ := h w c hwall
  exact ⟨r, w', c', xs, hrun, hwall', hsampler, hxs, himp xs r hr⟩

theorem settled (r : Result α) (h : M [] r) :
    Converses wall (Task.attempt (.done r) : Task B.Page α) M :=
  fun w c hwall ↦ ⟨r, w, c, [], rfl, hwall, rfl, .nil c, h⟩

theorem pure (a : α) (h : M [] (.ok a)) : Converses wall (Pure.pure a : Task B.Page α) M :=
  settled (.ok a) h

theorem throw (e : Failure) (h : M [] (.error e)) :
    Converses wall (MonadExcept.throw e : Task B.Page α) M :=
  settled (.error e) h

/-- The exchanges of the first task come before those of the second. -/
theorem bind {N : List Exchange → Result β → Prop} (ht : Converses wall t M)
    (hok : ∀ a xs, M xs (.ok a) → Converses wall (f a) fun ys r ↦ N (xs ++ ys) r)
    (herror : ∀ e xs, M xs (.error e) → N xs (.error e)) : Converses wall (t >>= f) N := by
  intro w c hwall
  obtain ⟨r, w₁, c₁, xs, hrun, hwall₁, hsampler₁, hxs, hr⟩ := ht w c hwall
  have hbind : (t >>= f).run.alone w c =
      (ExceptT.bindCont f r : Operation B.Page (Result β)).alone w₁ c₁ :=
    Operation.alone_bind hrun _
  cases r with
  | error e => exact ⟨.error e, w₁, c₁, xs, hbind, hwall₁, hsampler₁, hxs, herror e xs hr⟩
  | ok a =>
      obtain ⟨r', w', c', ys, hrun', hwall', hsampler, hys, hr'⟩ := hok a xs hr w₁ c₁ hwall₁
      exact ⟨r', w', c', xs ++ ys, hbind.trans hrun', hwall', hsampler.trans hsampler₁,
        hxs.append hsampler₁ hys, hr'⟩

/-- A model that is asked by a caller who never gives up replies in any case. -/
theorem sample (request : SamplingRequest) :
    Converses wall (Task.sample request .never : Task B.Page String) fun xs r ↦
      xs = [⟨request, r⟩] := by
  intro w c hwall
  have hrun := Task.sample_alone request (w := w) (c := c) rfl
    (Wait.conclude_of_completed (w := ⟨_, .never, none⟩) (Nat.le_add_right _ _) rfl nofun)
  exact ⟨_, _, _, [⟨request, _⟩], hrun, hwall, rfl, ⟨rfl, rfl, trivial⟩, rfl⟩

theorem log_bind {level : LogLevel} {message : String} {fields : LogFields} {t : Task B.Page α}
    (h : Converses wall t M) : Converses wall (Task.log level message fields >>= fun _ ↦ t) M := by
  have hlog : Converses wall (Task.log level message fields : Task B.Page Unit)
      fun xs r ↦ xs = [] ∧ r = .ok () :=
    fun w c hwall ↦ ⟨.ok (), _, _, [], rfl, hwall, rfl, .nil c, rfl, rfl⟩
  refine hlog.bind ?_ ?_
  · rintro a xs ⟨rfl, -⟩
    exact h
  · rintro e xs ⟨-, h⟩
    cases h

theorem wallClock_bind {zone : Zone} {g : CivilTime → Task B.Page α}
    (h : Converses wall (g (wall zone)) M) : Converses wall (Task.wallClock zone >>= g) M := by
  have hclock : Converses wall (Task.wallClock zone : Task B.Page CivilTime)
      fun xs r ↦ xs = [] ∧ r = .ok (wall zone) :=
    fun w c hwall ↦ ⟨.ok (w.wallClock zone), w, c, [], rfl, hwall, rfl, .nil c, rfl, by rw [hwall]⟩
  refine hclock.bind ?_ ?_
  · rintro now xs ⟨rfl, hnow⟩
    obtain rfl := Except.ok.inj hnow
    exact h
  · rintro e xs ⟨-, h⟩
    cases h

end Task.Converses

end BrowserPilot
