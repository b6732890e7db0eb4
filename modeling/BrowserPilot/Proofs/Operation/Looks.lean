import BrowserPilot.Observation
import BrowserPilot.Proofs.Operation.Path

namespace BrowserPilot

/-!
# Looking at the page

Most operations take the page as it is: they give the session no other page and the page
no other size. What they show of it is what the latest call on the page has shown.
-/

variable {π α β : Type} {last : Option (List UInt8)}

/-- The picture that a call has shown. -/
def Primitive.shown? : (p : Primitive) → Result p.Reply → Option (List UInt8)
  | .screenshot _, .ok bytes => some bytes
  | _, _ => none

namespace Request

/-- Whether a request neither gives the session a page nor the page a size. -/
def keepsFrame : Request π → Bool
  | primitive (.setViewport ..) _ | launch _ | mount _ => false
  | _ => true

/-- What the latest call on the page has shown after a request, which is answered so. -/
def shown (last : Option (List UInt8)) : (r : Request π) → r.Answer → Option (List UInt8)
  | primitive p _, reply => p.shown? reply
  | _, _ => last

theorem keepsFrame_primitive {p : Primitive} (hp : ∀ width height, p ≠ .setViewport width height)
    (d : Option Deadline) : (primitive p d : Request π).keepsFrame = true := by
  cases p with
  | setViewport width height => exact absurd rfl (hp width height)
  | _ => rfl

end Request

/-- Whatever it is answered, an operation takes the page as it is. The latest call on the page
before it has shown `last`, and `Q` holds of what the latest call has shown at its end. -/
inductive Operation.Looks (Q : Option (List UInt8) → α → Prop) :
    Option (List UInt8) → Operation π α → Prop
  | done {last : Option (List UInt8)} {a : α} : Q last a → Looks Q last (.done a)
  | crash {last : Option (List UInt8)} (reason : String) : Looks Q last (.crash reason)
  | ask {last : Option (List UInt8)} {r : Request π} {next : r.Answer → Operation π α} :
      r.keepsFrame = true → (∀ a, Looks Q (r.shown last a) (next a)) → Looks Q last (.ask r next)

theorem Operation.Looks.bind {M : Option (List UInt8) → α → Prop}
    {R : Option (List UInt8) → β → Prop} {p : Operation π α} {f : α → Operation π β}
    (hp : Looks M last p) (hf : ∀ last a, M last a → Looks R last (f a)) :
    Looks R last (p.bind f) := by
  induction hp with
  | done h => exact hf _ _ h
  | crash reason => exact .crash reason
  | ask hr _ ih => exact .ask hr ih

/-- Whatever observation a result shows, the latest call on the page has shown it. -/
def Shows (shows : α → Observation → Prop) (last : Option (List UInt8)) (r : Result α) : Prop :=
  ∀ a o, r = .ok a → shows a o → last = some o.bytes

/-- A task takes the page as it is, and shows nothing but what the latest call has shown. -/
def Task.Looks (shows : α → Observation → Prop) (last : Option (List UInt8)) (t : Task π α) :
    Prop :=
  t.run.Looks (Shows shows) last

/-- A task takes the page as it is and shows nothing of it. -/
def Task.Blind (t : Task π α) : Prop := ∀ last, t.Looks (fun _ _ ↦ False) last

theorem shows_error {shows : α → Observation → Prop} (e : Failure) :
    Shows shows last (.error e) := by
  rintro a o ⟨⟩

theorem shows_ok {shows : α → Observation → Prop} {a : α}
    (h : ∀ o, shows a o → last = some o.bytes) : Shows shows last (.ok a) := by
  rintro _ o ⟨⟩ ho
  exact h o ho

namespace Task

variable {t : Task π α} {f : α → Task π β} {shows : α → Observation → Prop}
  {shows' : β → Observation → Prop}

theorem looks_pure (a : α) (h : ∀ o, shows a o → last = some o.bytes) :
    Looks shows last (pure a : Task π α) :=
  .done (shows_ok h)

theorem looks_throw (e : Failure) : Looks shows last (throw e : Task π α) :=
  .done (shows_error e)

theorem looks_settled {r : Result α} (h : Shows shows last r) :
    Looks shows last (attempt (.done r) : Task π α) :=
  .done h

theorem looks_bind (ht : t.Looks shows last)
    (hf : ∀ last a, (∀ o, shows a o → last = some o.bytes) → (f a).Looks shows' last) :
    (t >>= f).Looks shows' last := by
  refine Operation.Looks.bind ht fun last r hr ↦ ?_
  cases r with
  | ok a => exact hf last a fun o ho ↦ hr a o rfl ho
  | error e => exact .done (shows_error e)

theorem looks_result_bind {g : Result α → Task π β} (ht : t.Looks shows last)
    (hg : ∀ last r, Shows shows last r → (g r).Looks shows' last) :
    (result t >>= g).Looks shows' last := by
  unfold Looks
  rw [run_result_bind]
  exact Operation.Looks.bind ht hg

/-- A request that is no call on the page. -/
theorem looks_lift_bind {r : Request π} {g : r.Answer → Task π β} (hr : r.keepsFrame = true)
    (hshown : ∀ a, r.shown last a = last) (hg : ∀ a, (g a).Looks shows' last) :
    (lift (Operation.request r) >>= g).Looks shows' last :=
  .ask hr fun a ↦ (hshown a).symm ▸ hg a

theorem looks_inSpan {span : Span} (ht : t.Looks shows last) :
    (inSpan span t).Looks shows last := by
  refine looks_lift_bind rfl (fun _ ↦ rfl) fun _ ↦ looks_result_bind ht fun last r hr ↦ ?_
  exact looks_lift_bind rfl (fun _ ↦ rfl) fun _ ↦ looks_settled hr

theorem looks_locked {d : Option Deadline} (ht : t.Looks shows last) :
    (locked d t).Looks shows last := by
  refine .ask rfl fun r ↦ ?_
  cases r with
  | error e => exact .done (shows_error e)
  | ok _ =>
      have hbody : (result t >>= fun r ↦ unlock >>= fun _ ↦ attempt (.done r)).Looks shows last :=
        looks_result_bind ht fun last r hr ↦
          looks_lift_bind rfl (fun _ ↦ rfl) fun _ ↦ looks_settled hr
      exact hbody

theorem looks_withPage {d : Option Deadline} (ht : t.Looks shows last) :
    (withPage d t).Looks shows last := by
  refine looks_locked (looks_lift_bind rfl (fun _ ↦ rfl) fun page ↦ ?_)
  cases page with
  | true => exact ht
  | false => exact looks_throw .notStarted

theorem looks_screenshot (full : Bool) (d : Option Deadline) :
    (primitive (.screenshot full) d : Task π (List UInt8)).Looks (fun bytes o ↦ o.bytes = bytes)
      last := by
  refine .ask rfl fun reply ↦ .done ?_
  rintro bytes o rfl rfl
  rfl

namespace Blind

theorem pure (a : α) : Blind (Pure.pure a : Task π α) :=
  fun _ ↦ looks_pure a fun _ ↦ False.elim

theorem throw (e : Failure) : Blind (MonadExcept.throw e : Task π α) :=
  fun _ ↦ looks_throw e

theorem settled (r : Result α) : Blind (attempt (.done r) : Task π α) :=
  fun _ ↦ looks_settled fun _ _ _ ↦ False.elim

/-- After a task that shows nothing, the next may show anything. -/
theorem looks_bind (ht : t.Blind) (hf : ∀ last a, (f a).Looks shows' last) :
    (t >>= f).Looks shows' last :=
  Task.looks_bind (ht last) fun last a _ ↦ hf last a

theorem bind (ht : t.Blind) (hf : ∀ a, (f a).Blind) : (t >>= f).Blind :=
  fun _ ↦ ht.looks_bind fun last a ↦ hf a last

theorem result_bind {g : Result α → Task π β} (ht : t.Blind) (hg : ∀ r, (g r).Blind) :
    (result t >>= g).Blind :=
  fun last ↦ looks_result_bind (ht last) fun last r _ ↦ hg r last

theorem primitive {p : Primitive} (hp : ∀ width height, p ≠ .setViewport width height)
    (d : Option Deadline) : Blind (primitive p d : Task π p.Reply) :=
  fun _ ↦ .ask (Request.keepsFrame_primitive hp d) fun _ ↦ .done fun _ _ _ ↦ False.elim

theorem pause (millis : Nat) (cancel : Cancellation) (d : Option Deadline) :
    Blind (pause millis cancel d : Task π Unit) :=
  fun _ ↦ .ask rfl fun _ ↦ .done fun _ _ _ ↦ False.elim

theorem sample (request : SamplingRequest) (cancel : Cancellation) :
    Blind (sample request cancel : Task π String) :=
  fun _ ↦ .ask rfl fun _ ↦ .done fun _ _ _ ↦ False.elim

theorem lift {r : Request π} (hr : r.keepsFrame = true) : Blind (lift (Operation.request r)) :=
  fun _ ↦ .ask hr fun _ ↦ .done fun _ _ _ ↦ False.elim

theorem log (level : LogLevel) (message : String) (fields : LogFields) :
    Blind (log level message fields : Task π Unit) :=
  lift rfl

theorem locked (ht : t.Blind) (d : Option Deadline) : (locked d t).Blind :=
  fun last ↦ looks_locked (ht last)

theorem withPage (ht : t.Blind) (d : Option Deadline) : (withPage d t).Blind :=
  fun last ↦ looks_withPage (ht last)

end Blind

end Task

end BrowserPilot
