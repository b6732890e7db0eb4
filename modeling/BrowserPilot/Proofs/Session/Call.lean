import BrowserPilot.Dispatch
import BrowserPilot.Proofs.Operation.Tenure
import BrowserPilot.Proofs.Session.Errand

namespace BrowserPilot

/-!
# Calls on a session

What each call on a session returns is told by what it found when it had the lock, what
it called of the page, and what it left.
-/

namespace Session

variable {π : Type}

/-- What a call returns when it succeeds. -/
inductive Reply
  | nothing
  | active (b : Bool)
  | picture (o : Observation)
  | address (url : Option String)

/-- A call on a session. Who has the lock may use the page for whatever it likes. -/
inductive Call (π : Type)
  | attach (page : π)
  | start
  | stop
  | isActive
  | lock (body : Task π Unit) (use : body.run.Only Request.isUse)
  | navigate (url : String)
  | capture
  | currentUrl
  | dispatch (action : Action) (cancel : Cancellation)

namespace Call

/-- What a call does on a session with these settings. -/
def task (c : Config) : Call π → Task π Reply
  | attach page => do
    Session.attach c page
    return .nothing
  | start => do
    Session.start c
    return .nothing
  | stop => do
    Session.stop
    return .nothing
  | isActive => return .active (← Session.isActive)
  | lock body _ => do
    Task.withPage none body
    return .nothing
  | navigate url => do
    Session.navigate url
    return .nothing
  | capture => return .picture (← Session.capture)
  | currentUrl => return .address (← Session.currentUrl)
  | dispatch a cancel => return .picture (← BrowserPilot.dispatch c a cancel)

/-- Whether a call is one that gives the session a page. -/
def isOpening : Call π → Bool
  | attach _ | start => true
  | _ => false

def isStop : Call π → Bool
  | stop => true
  | _ => false

def isDispatch : Call π → Bool
  | dispatch .. => true
  | _ => false

/-- Whether a call is an operation on the page. -/
def isUse : Call π → Bool
  | lock .. | navigate _ | capture | currentUrl | dispatch .. => true
  | _ => false

theorem isStop_of_isUse {call : Call π} (h : call.isUse = true) : call.isStop = false := by
  cases call <;> first | rfl | simp [isUse] at h

theorem isOpening_of_isUse {call : Call π} (h : call.isUse = true) : call.isOpening = false := by
  cases call <;> first | rfl | simp [isUse] at h

theorem isStop_of_isOpening {call : Call π} (h : call.isOpening = true) : call.isStop = false := by
  cases call <;> first | rfl | simp [isOpening] at h

end Call

/-- The tenure of who attaches a page, and how it comes out. -/
inductive Attaches (c : Config) : Tenure → Result Unit → Prop
  | refused : Attaches c ⟨true, [], true⟩ (.error alreadyStarted)
  | unsized {e : Failure} : Attaches c
      ⟨false, [⟨.setViewport c.viewportWidth c.viewportHeight, .error e⟩], false⟩ (.error e)
  | unopened {e : Failure} : Attaches c
      ⟨false, [⟨.setViewport c.viewportWidth c.viewportHeight, .ok ()⟩,
        ⟨.goto c.startUrl, .error e⟩], false⟩ (.error e)
  | attached : Attaches c
      ⟨false, [⟨.setViewport c.viewportWidth c.viewportHeight, .ok ()⟩,
        ⟨.goto c.startUrl, .ok ()⟩], true⟩ (.ok ())

/-- The tenure of who stops a session, and how it comes out. -/
inductive Stops : Tenure → Result Unit → Prop
  | idle : Stops ⟨false, [], false⟩ (.ok ())
  | closed {r : Result Unit} : Stops ⟨true, [⟨.close, r⟩], false⟩ r

/-- What a call has returned after its tenures. -/
inductive Returned (c : Config) : Call π → List Tenure → Result Reply → Prop
  | attachInvalid {page : π} {text : String} : c.validate = .error (.configuration text) →
      Returned c (.attach page) [] (.error (.configuration text))
  | attach {page : π} {t : Tenure} {r : Result Unit} : c.validate = .ok () → Attaches c t r →
      Returned c (.attach page) [t] (r.map fun _ ↦ .nothing)
  | startInvalid {text : String} : c.validate = .error (.configuration text) →
      Returned c .start [] (.error (.configuration text))
  | startRefused : c.validate = .ok () →
      Returned c .start [⟨true, [], true⟩] (.error alreadyStarted)
  | unlaunched {e : Failure} : c.validate = .ok () →
      Returned c .start [⟨false, [], false⟩] (.error e)
  | start {t : Tenure} {r : Result Unit} : c.validate = .ok () → Attaches c t r →
      Returned c .start [⟨false, [], false⟩, t] (r.map fun _ ↦ .nothing)
  | stop {t : Tenure} {r : Result Unit} : Stops t r →
      Returned c .stop [t] (r.map fun _ ↦ .nothing)
  | isActive {b : Bool} : Returned c .isActive [⟨b, [], b⟩] (.ok (.active b))
  | late {a : Action} {cancel : Cancellation} {d : Duration} :
      Returned c (.dispatch a cancel) [] (.error (.timeout d))
  | noPage {call : Call π} : call.isUse = true →
      Returned c call [⟨false, [], false⟩] (.error .notStarted)
  | used {call : Call π} {t : Tenure} {r : Result Reply} : call.isUse = true → t.found = true →
      t.left = true → Returned c call [t] r

/-- When a tenure ends, a call has returned, or it leaves the session as it found it and called
nothing unless there was a page. -/
def Ended (call : Call π) (t : Tenure) (q : Operation π (Result Reply)) : Prop :=
  (∃ r, q = .done r) ∨ call.isStop = false ∧ t.left = t.found ∧ (t.found = false → t.calls = [])

/-- From the record `k` on, a call keeps to the rules of the lock, whatever it is answered, and in
the end it has returned what its tenures tell. Only a dispatch may crash. -/
def Call.Follows (c : Config) (call : Call π) (k : Record) (q : Operation π (Result Reply)) :
    Prop :=
  Operation.Leads (call.isDispatch = true) (Ended call)
    (fun k r ↦ k.present = none ∧ Returned c call k.past r) k q

theorem Call.Follows.returned {c : Config} {call : Call π} {k : Record} {r : Result Reply}
    (h : call.Follows c k (.done r)) : k.present = none ∧ Returned c call k.past r := by
  cases h with
  | done h => exact h

theorem Call.Follows.crashed {c : Config} {call : Call π} {k : Record} {reason : String}
    (h : call.Follows c k (.crash reason)) : k.present = none ∧ call.isDispatch = true := by
  cases h with
  | crash h => exact ⟨rfl, h⟩

theorem Call.Follows.of_lock {c : Config} {call : Call π} {k : Record} {d : Option Deadline}
    {next : Result Unit → Operation π (Result Reply)}
    (h : call.Follows c k (.ask (.lock d) next)) : k.present = none := by
  cases h with
  | lock _ _ => rfl
  | aside hr _ => simp [Request.isAside] at hr

theorem Call.Follows.of_unlock {c : Config} {call : Call π} {k : Record}
    {next : Unit → Operation π (Result Reply)} (h : call.Follows c k (.ask .unlock next)) :
    ∃ t, k.present = some t := by
  cases h with
  | unlock _ _ => exact ⟨_, rfl⟩
  | aside hr _ => simp [Request.isAside] at hr

theorem Call.Follows.of_primitive {c : Config} {call : Call π} {k : Record} {p : Primitive}
    {d : Option Deadline} {next : Result p.Reply → Operation π (Result Reply)}
    (h : call.Follows c k (.ask (.primitive p d) next)) :
    ∃ t, k.present = some t ∧ t.left = true := by
  cases h with
  | primitive hleft _ => exact ⟨_, rfl, hleft⟩
  | aside hr _ => simp [Request.isAside] at hr

theorem Call.Follows.of_mount {c : Config} {call : Call π} {k : Record} {page : π}
    {next : Unit → Operation π (Result Reply)} (h : call.Follows c k (.ask (.mount page) next)) :
    ∃ t, k.present = some t ∧ t.left = false := by
  cases h with
  | mount hleft _ => exact ⟨_, rfl, hleft⟩
  | aside hr _ => simp [Request.isAside] at hr

open Operation (Leads)
open BrowserPilot.Task (Stay leads_bind leads_result_bind leads_aside_bind leads_locked
  leads_withPage)

variable {X : Prop}

/-! ## Attaching -/

theorem validate_error {c : Config} {e : Failure} (h : c.validate = .error e) :
    ∃ text, e = .configuration text := by
  unfold Config.validate at h
  split at h
  · exact ⟨_, (Except.error.inj h).symm⟩
  · split at h
    · exact ⟨_, (Except.error.inj h).symm⟩
    · split at h
      · exact ⟨_, (Except.error.inj h).symm⟩
      · simp at h

theorem leads_prepare (c : Config) (past : List Tenure) :
    Leads X Stay (fun k r ↦ ∃ calls, k = ⟨past, some ⟨false, calls, true⟩⟩ ∧
        ((∀ e, r = .error e → Attaches c ⟨false, calls, false⟩ (.error e)) ∧
          (r = .ok () → Attaches c ⟨false, calls, true⟩ (.ok ()))))
      ⟨past, some ⟨false, [], true⟩⟩ (prepare c : Task π Unit).run := by
  refine .primitive rfl fun sized ↦ ?_
  cases sized with
  | error e => exact .done ⟨_, rfl, fun _ h ↦ Except.error.inj h ▸ .unsized, nofun⟩
  | ok _ =>
      refine .primitive rfl fun opened ↦ ?_
      cases opened with
      | error e => exact .done ⟨_, rfl, fun _ h ↦ Except.error.inj h ▸ .unopened, nofun⟩
      | ok _ => exact .aside rfl fun _ ↦ .done ⟨_, rfl, nofun, fun _ ↦ .attached⟩

theorem leads_occupy (c : Config) (page : π) (past : List Tenure) (found : Bool) :
    Leads X Stay (fun k r ↦ ∃ s, k = ⟨past, some s⟩ ∧ Attaches c s r)
      ⟨past, some ⟨found, [], found⟩⟩ (occupy c page).run := by
  refine .hasPage ?_
  cases found with
  | true => exact .aside rfl fun _ ↦ .done ⟨_, rfl, .refused⟩
  | false =>
      -- the page is there while it is prepared, and taken away again if that fails
      refine .mount rfl ?_
      refine leads_result_bind ((leads_prepare c past).mono (fun _ _ ↦ False.elim) fun _ _ h ↦ h) ?_
      rintro k r ⟨calls, rfl, herror, hok⟩
      cases r with
      | ok _ => exact .done ⟨_, rfl, hok rfl⟩
      | error e => exact .unmount (.done ⟨_, rfl, herror e rfl⟩)

theorem leads_attach {E : Tenure → Operation π (Result Unit) → Prop} {c : Config}
    (hvalid : c.validate = .ok ()) (page : π) (past : List Tenure)
    (hE : ∀ s r, E s (.done r)) :
    Leads X E (fun k r ↦ ∃ s, k = ⟨past ++ [s], none⟩ ∧ Attaches c s r) ⟨past, none⟩
      (Session.attach c page).run := by
  have hattach : (Session.attach c page).run = (Task.locked none (occupy c page)).run := by
    simp only [Session.attach, hvalid]
  rw [hattach]
  refine (leads_locked (leads_occupy c page past) fun s r _ ↦ hE s r).mono (fun _ _ h ↦ h) ?_
  rintro k r (⟨d, hd, -⟩ | h)
  · simp at hd
  · exact h

theorem leads_isActive {E : Tenure → Operation π (Result Bool) → Prop}
    (hE : ∀ b q, E ⟨b, [], b⟩ q) :
    Leads X E (fun k r ↦ ∃ b, k = ⟨[⟨b, [], b⟩], none⟩ ∧ r = .ok b) {}
      (Session.isActive : Task π Bool).run := by
  have hbody (found : Bool) : Leads X Stay (fun k r ↦ ∃ s, k = ⟨[], some s⟩ ∧
      ∃ b, s = ⟨b, [], b⟩ ∧ r = .ok b) ⟨[], some ⟨found, [], found⟩⟩
      (Task.hasPage : Task π Bool).run :=
    .hasPage (.done ⟨_, rfl, found, rfl, rfl⟩)
  refine (leads_locked hbody ?_).mono (fun _ _ h ↦ h) ?_
  · rintro s r ⟨b, rfl, -⟩
    exact hE b _
  · rintro k r (⟨d, hd, -⟩ | ⟨s, rfl, b, rfl, rfl⟩)
    · simp at hd
    · exact ⟨b, rfl, rfl⟩

/-! ## Using the page -/

theorem use_log (level : LogLevel) (message : String) (fields : LogFields) :
    (Task.log level message fields : Task π Unit).run.Only Request.isUse :=
  Task.only_lift rfl

theorem use_primitive (p : Primitive) (d : Option Deadline) :
    (Task.primitive p d : Task π p.Reply).run.Only Request.isUse :=
  .ask rfl fun _ ↦ .done _

theorem use_observe (d : Option Deadline) :
    (observe d : Task π Observation).run.Only Request.isUse :=
  Task.only_bind (use_primitive _ d) fun _ ↦ Task.only_bind (use_log _ _ _) fun _ ↦ .done _

theorem use_applyAll (d : Deadline) (ps : List Primitive) :
    (Dispatch.applyAll d ps : Task π Unit).run.Only Request.isUse := by
  induction ps with
  | nil => exact .done _
  | cons p ps ih => exact Task.only_bind (use_primitive p _) fun _ ↦ ih

theorem use_performAndObserve (c : Config) (a : Action) (cancel : Cancellation) (d : Deadline) :
    (Dispatch.performAndObserve c a cancel d : Task π Observation).run.Only Request.isUse := by
  have hperform : (Dispatch.perform c a cancel d : Task π Unit).run.Only Request.isUse := by
    refine Task.only_bind (use_applyAll d a.plan) fun _ ↦ ?_
    cases a with
    | wait requested => exact .ask rfl fun _ ↦ .done _
    | _ => exact .done _
  have hrelease : (Dispatch.release : Task π Unit).run.Only Request.isUse := by
    refine Task.only_result_bind (use_primitive _ _) fun r ↦ ?_
    cases r with
    | ok _ => exact .done _
    | error e => exact use_log _ _ _
  refine Task.only_result_bind hperform fun r ↦ ?_
  cases r with
  | ok _ => exact use_observe _
  | error e => exact Task.only_bind hrelease fun _ ↦ .done _

/-- How a task on the page comes out: its deadline was over before it had the lock, it found no
page, or it used the page and left it. -/
def Uses {α : Type} (d : Option Deadline) (k : Record) (r : Result α) : Prop :=
  (∃ d', d = some d' ∧ k = {} ∧ r = .error (.timeout d'.limit)) ∨
    ∃ s, k = ⟨[s], none⟩ ∧
      (s = ⟨false, [], false⟩ ∧ r = .error .notStarted ∨ s.found = true ∧ s.left = true)

theorem leads_use {α : Type} {call : Call π} (hcall : call.isStop = false) {d : Option Deadline}
    {t : Task π α} (ht : t.run.Only Request.isUse) (f : Operation π (Result α) →
      Operation π (Result Reply)) :
    Leads X (fun s q ↦ Ended call s (f q)) (Uses d) {} (Task.withPage d t).run :=
  leads_withPage ht (fun _ ↦ .inr ⟨hcall, rfl, fun _ ↦ rfl⟩) fun s q hfound hleft ↦
    .inr ⟨hcall, hleft.trans hfound.symm, fun h ↦ by simp [hfound] at h⟩

/-- A task on the page without a deadline, whose result is given a form. -/
theorem follows_use {α : Type} {c : Config} {call : Call π} (hcall : call.isUse = true)
    (hstop : call.isStop = false) {t : Task π α} (ht : t.run.Only Request.isUse) (f : α → Reply) :
    call.Follows c {} (Task.withPage none t >>= fun a ↦ pure (f a)).run := by
  refine leads_bind (leads_use hstop ht _) (fun k a h ↦ .done ?_) fun k e h ↦ ?_
  · obtain ⟨d, hd, -⟩ | ⟨s, rfl, ⟨-, hr⟩ | ⟨hfound, hleft⟩⟩ := h
    · simp at hd
    · simp at hr
    · exact ⟨rfl, .used hcall hfound hleft⟩
  · obtain ⟨d, hd, -⟩ | ⟨s, rfl, ⟨rfl, hr⟩ | ⟨hfound, hleft⟩⟩ := h
    · simp at hd
    · obtain rfl := Except.error.inj hr
      exact ⟨rfl, .noPage hcall⟩
    · exact ⟨rfl, .used hcall hfound hleft⟩

theorem follows_dispatch (c : Config) (a : Action) (cancel : Cancellation) :
    (Call.dispatch a cancel : Call π).Follows c {} (Call.task c (.dispatch a cancel)).run := by
  have hused {k : Record} {r : Result Observation} (h : ∃ d, Uses d k r) : k.present = none ∧
      Returned c (.dispatch a cancel : Call π) k.past (r.map fun o ↦ .picture o) := by
    obtain ⟨d, ⟨d', -, rfl, rfl⟩ | ⟨s, rfl, ⟨rfl, rfl⟩ | ⟨hfound, hleft⟩⟩⟩ := h
    · exact ⟨rfl, .late⟩
    · exact ⟨rfl, .noPage rfl⟩
    · exact ⟨rfl, .used rfl hfound hleft⟩
  have hrun {X : Prop} (hX : X)
      (f : Operation π (Result Observation) → Operation π (Result Reply)) :
      Leads X (fun s q ↦ Ended (.dispatch a cancel) s (f q)) (fun k r ↦ ∃ d, Uses d k r) {}
        (Dispatch.run c a cancel : Task π Observation).run := by
    refine leads_aside_bind rfl fun now ↦ ?_
    split
    · -- the clock cannot hold the deadline, and the lock has not been asked for
      exact .crash hX
    · rename_i d _
      exact (leads_use rfl (use_performAndObserve c a cancel d) f).mono (fun _ _ h ↦ h)
        fun _ _ h ↦ ⟨_, h⟩
  have hspan {X : Prop} (hX : X)
      (f : Operation π (Result Observation) → Operation π (Result Reply)) :
      Leads X (fun s q ↦ Ended (.dispatch a cancel) s (f q)) (fun k r ↦ ∃ d, Uses d k r) {}
        (Task.inSpan (Span.dispatch a.kind)
          (Dispatch.run c a cancel : Task π Observation)).run := by
    refine leads_aside_bind rfl fun _ ↦ leads_result_bind (hrun hX _) fun k r hr ↦ ?_
    exact leads_aside_bind rfl fun _ ↦ .done hr
  refine leads_bind (M := fun k r ↦ ∃ d, Uses d k r) ?_ (fun k o h ↦ .done (hused h)) fun k e h ↦
    hused h
  refine leads_result_bind (hspan rfl _) fun k r hr ↦ ?_
  cases r with
  | ok o => exact leads_aside_bind rfl fun _ ↦ .done hr
  | error e => exact leads_aside_bind rfl fun _ ↦ .done hr

/-! ## All calls -/

theorem follows_stop (c : Config) : (Call.stop : Call π).Follows c {} (Call.task c .stop).run := by
  have hvacate {X : Prop} (found : Bool) : Leads X Stay
      (fun k r ↦ ∃ s, k = ⟨[], some s⟩ ∧ Stops s r)
      ⟨[], some ⟨found, [], found⟩⟩ (vacate : Task π Unit).run := by
    refine .hasPage ?_
    cases found with
    | false => exact .done ⟨_, rfl, .idle⟩
    | true =>
        refine .primitive rfl fun closed ↦ ?_
        cases closed with
        | ok _ => exact .aside rfl fun _ ↦ .unmount (.done ⟨_, rfl, .closed⟩)
        | error e => exact .unmount (.done ⟨_, rfl, .closed⟩)
  refine leads_bind (leads_locked hvacate fun s r _ ↦ ?_) (fun k a h ↦ .done ?_) fun k e h ↦ ?_
  · cases r <;> exact .inl ⟨_, rfl⟩
  · obtain ⟨d, hd, -⟩ | ⟨s, rfl, hs⟩ := h
    · simp at hd
    · exact ⟨rfl, .stop hs⟩
  · obtain ⟨d, hd, -⟩ | ⟨s, rfl, hs⟩ := h
    · simp at hd
    · exact ⟨rfl, .stop hs⟩

theorem follows_attach (c : Config) (page : π) :
    (Call.attach page).Follows c {} (Call.task c (.attach page)).run := by
  cases hvalid : c.validate with
  | error e =>
      obtain ⟨text, rfl⟩ := validate_error hvalid
      simp only [Call.task, Session.attach, hvalid]
      exact .aside rfl fun _ ↦ .done ⟨rfl, .attachInvalid hvalid⟩
  | ok _ =>
      have hended (s : Tenure) (r : Result Unit) : Ended (.attach page) s
          ((Operation.done r).bind (ExceptT.bindCont fun _ ↦ pure Reply.nothing)) := by
        cases r <;> exact .inl ⟨_, rfl⟩
      refine leads_bind (leads_attach hvalid page [] hended) (fun k a h ↦ .done ?_) fun k e h ↦ ?_
      · obtain ⟨s, rfl, hs⟩ := h
        exact ⟨rfl, .attach hvalid hs⟩
      · obtain ⟨s, rfl, hs⟩ := h
        exact ⟨rfl, .attach hvalid hs⟩

theorem follows_start (c : Config) :
    (Call.start : Call π).Follows c {} (Call.task c .start).run := by
  cases hvalid : c.validate with
  | error e =>
      obtain ⟨text, rfl⟩ := validate_error hvalid
      simp only [Call.task, Session.start, hvalid]
      exact .done ⟨rfl, .startInvalid hvalid⟩
  | ok _ =>
      simp only [Call.task, Session.start, hvalid]
      refine leads_bind (M := fun k r ↦ k.present = none ∧
        Returned c (.start : Call π) k.past (r.map fun _ ↦ .nothing)) ?_ (fun k a h ↦ .done h)
        fun k e h ↦ h
      refine leads_bind (leads_isActive fun b q ↦ .inr ⟨rfl, rfl, fun _ ↦ rfl⟩) ?_ ?_
      · rintro k b ⟨b', rfl, hb⟩
        obtain rfl := Except.ok.inj hb
        cases b with
        | true => exact .done ⟨rfl, .startRefused hvalid⟩
        | false =>
            refine .aside rfl fun launched ↦ ?_
            cases launched with
            | error e => exact .done ⟨rfl, .unlaunched hvalid⟩
            | ok page =>
                refine (leads_attach hvalid page _ fun s r ↦ ?_).mono (fun _ _ h ↦ h) ?_
                · cases r <;> exact .inl ⟨_, rfl⟩
                · rintro k r ⟨s, rfl, hs⟩
                  exact ⟨rfl, .start hvalid hs⟩
      · rintro k e ⟨b, -, hb⟩
        simp at hb

theorem follows_isActive (c : Config) :
    (Call.isActive : Call π).Follows c {} (Call.task c .isActive).run := by
  refine leads_bind (leads_isActive fun b q ↦ .inr ⟨rfl, rfl, fun _ ↦ rfl⟩) (fun k a h ↦ .done ?_)
    fun k e h ↦ ?_
  · obtain ⟨b, rfl, hb⟩ := h
    obtain rfl := Except.ok.inj hb
    exact ⟨rfl, .isActive⟩
  · obtain ⟨b, rfl, hb⟩ := h
    simp at hb

theorem Call.follows (c : Config) (call : Call π) : call.Follows c {} (call.task c).run := by
  cases call with
  | attach page => exact follows_attach c page
  | start => exact follows_start c
  | stop => exact follows_stop c
  | isActive => exact follows_isActive c
  | lock body use => exact follows_use rfl rfl use _
  | navigate url => exact follows_use rfl rfl (use_primitive _ _) _
  | capture => exact follows_use rfl rfl (use_observe _) _
  | currentUrl => exact follows_use rfl rfl (use_primitive _ _) _
  | dispatch a cancel => exact follows_dispatch c a cancel

end Session

end BrowserPilot
