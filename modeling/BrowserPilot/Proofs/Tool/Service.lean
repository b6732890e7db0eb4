import BrowserPilot.Operation.Together
import BrowserPilot.Proofs.Operation.Path
import BrowserPilot.Tool.Call

namespace BrowserPilot

/-!
# Tools at work

Calls of tools come one after another or side by side, and at any time any of them may go
on, whatever its request comes to. This leaves out who has the lock, so all that can happen
with the lock is among it: what a pool of such calls comes to is one of the runs.
-/

/-- A call of a tool by its name. -/
structure ToolCall where
  name : String
  ctx : CallContext
  args : Json

/-- A call that has come, and what is left to do for it. -/
structure Job (B : Backend) where
  call : ToolCall
  rest : Operation B.Page CallOutcome

/-- The calls that have come, and the primitives that the page was called for, each with the place
of the job that did it. -/
structure Service (B : Backend) where
  world : World B
  jobs : List (Job B) := []
  calls : List (Nat × Called) := []

/-- What is done for a call. -/
def ToolCall.run {π : Type} (registered : List Tool) (s : ToolSettings) (c : ToolCall) :
    Operation π CallOutcome :=
  BrowserPilot.call registered s c.name c.ctx c.args

/-- What is done for a call from some milliseconds after it has come. -/
def ToolCall.operation {π : Type} (registered : List Tool) (s : ToolSettings) (millis : Nat)
    (c : ToolCall) : Operation π CallOutcome :=
  .ask (.pause millis .never none) fun _ ↦ c.run registered s

namespace Service

variable {B : Backend} {registered : List Tool} {s : ToolSettings} {P : Sampler → Prop}
  {w : World B} {S S' : Service B} {i : Nat} {c : ToolCall}

/-- The calls on the page for the job at place `i`. -/
def callsOf (S : Service B) (i : Nat) : List Called :=
  (S.calls.filter (·.1 == i)).map Prod.snd

/-- The service after a request of the job at place `i` has ended. -/
def go (S : Service B) (i : Nat) (c : ToolCall) (k : Caller) (ending : Ending)
    (r : Request B.Page) (next : r.Answer → Operation B.Page CallOutcome) : Service B :=
  let (a, world, _) := S.world.answer k ending r
  { world := world
    jobs := S.jobs.set i ⟨c, next a⟩
    calls := S.calls ++ (r.noted [] a).map (i, ·) }

/-- One step: a call comes, time passes, or a request of a job ends, with the model of any caller
that satisfies `P`. -/
inductive Step (registered : List Tool) (s : ToolSettings) (P : Sampler → Prop) (S : Service B) :
    Service B → Prop
  | comes (millis : Nat) (c : ToolCall) :
      Step registered s P S { S with jobs := S.jobs ++ [⟨c, c.operation registered s millis⟩] }
  | later {t : Instant} : S.world.clock ≤ t →
      Step registered s P S { S with world := { S.world with clock := t } }
  | goes {i : Nat} {c : ToolCall} {r : Request B.Page}
      {next : r.Answer → Operation B.Page CallOutcome} (k : Caller) (ending : Ending) :
      P k.sampler → S.jobs[i]? = some ⟨c, .ask r next⟩ →
        Step registered s P S (S.go i c k ending r next)

/-- What can come of a world when tools are called. -/
inductive Reachable (registered : List Tool) (s : ToolSettings) (P : Sampler → Prop)
    (w : World B) : Service B → Prop
  | start : Reachable registered s P w { world := w }
  | step {S S' : Service B} : Reachable registered s P w S → Step registered s P S S' →
      Reachable registered s P w S'

/-! ## Each job is on a path of its own -/

theorem callsOf_append (S : Service B) (world : World B) (jobs : List (Job B)) (i j : Nat)
    (new : List Called) :
    callsOf ⟨world, jobs, S.calls ++ new.map (i, ·)⟩ j =
      S.callsOf j ++ if i = j then new else [] := by
  have hnew : (new.map (i, ·)).filter (·.1 == j) = if i = j then new.map (i, ·) else [] := by
    by_cases hij : i = j <;> simp [hij]
  simp only [callsOf, List.filter_append, List.map_append, hnew]
  split <;> simp [Function.comp_def]

theorem noted_eq_append {π : Type} (k : List Called) (r : Request π) (a : r.Answer) :
    r.noted k a = k ++ r.noted [] a := by
  cases r <;> simp [Request.noted]

theorem callsOf_go_self {k : Caller} {ending : Ending} {r : Request B.Page}
    {next : r.Answer → Operation B.Page CallOutcome} :
    (S.go i c k ending r next).callsOf i =
      r.noted (S.callsOf i) (S.world.answer k ending r).1 := by
  have happend := callsOf_append S (S.go i c k ending r next).world
    (S.go i c k ending r next).jobs i i (r.noted [] (S.world.answer k ending r).1)
  rw [if_pos rfl, ← noted_eq_append] at happend
  exact happend

theorem callsOf_go_ne {k : Caller} {ending : Ending} {r : Request B.Page}
    {next : r.Answer → Operation B.Page CallOutcome} {j : Nat} (hij : i ≠ j) :
    (S.go i c k ending r next).callsOf j = S.callsOf j := by
  refine (callsOf_append S _ _ i j _).trans ?_
  rw [if_neg hij, List.append_nil]

theorem mem_calls_iff {called : Called} : (i, called) ∈ S.calls ↔ called ∈ S.callsOf i := by
  simp [callsOf]

/-- Every job has come so far on a path, all of whose answers are such as the world gives. -/
structure Follows (registered : List Tool) (s : ToolSettings)
    (A : (r : Request B.Page) → r.Answer → Prop) (S : Service B) : Prop where
  path : ∀ i c q, S.jobs[i]? = some ⟨c, q⟩ →
    ∃ millis, Operation.Path A [] (c.operation registered s millis) (S.callsOf i) q
  idle : ∀ i, S.jobs.length ≤ i → S.callsOf i = []

variable {A : (r : Request B.Page) → r.Answer → Prop}

theorem Follows.step (hS : Follows registered s A S)
    (hA : ∀ (w : World B) (k : Caller) (ending : Ending) (r : Request B.Page),
      P k.sampler → A r (w.answer k ending r).1)
    (h : Step registered s P S S') : Follows registered s A S' := by
  cases h with
  | comes millis c =>
      refine ⟨fun i c' q hi ↦ ?_, fun i hi ↦ hS.idle i ?_⟩
      · change (S.jobs ++ [⟨c, c.operation registered s millis⟩])[i]? = some ⟨c', q⟩ at hi
        rcases Nat.lt_or_ge i S.jobs.length with hlt | hge
        · rw [List.getElem?_append_left hlt] at hi
          exact hS.path i c' q hi
        · -- the new job is where no calls have been made
          rw [List.getElem?_append_right hge] at hi
          obtain ⟨_, hjob⟩ := List.getElem?_eq_some_iff.1 hi
          rw [List.getElem_singleton] at hjob
          obtain ⟨rfl, rfl⟩ := Job.mk.inj hjob
          have hnone : S.callsOf i = [] := hS.idle i hge
          refine ⟨millis, ?_⟩
          change Operation.Path A [] _ (S.callsOf i) _
          rw [hnone]
          exact .here _ _
      · simp only [List.length_append] at hi
        omega
  | later _ => exact ⟨hS.path, hS.idle⟩
  | @goes i c r next k ending hk hi =>
      -- only the job at place `i` moves, and only its calls become more
      have hlt := (List.getElem?_eq_some_iff.1 hi).1
      refine ⟨fun j c' q hj ↦ ?_, fun j hj ↦ ?_⟩
      · change (S.jobs.set i ⟨c, next (S.world.answer k ending r).1⟩)[j]? = some ⟨c', q⟩ at hj
        by_cases hij : i = j
        · subst hij
          rw [List.getElem?_set_self hlt] at hj
          obtain ⟨rfl, rfl⟩ := Job.mk.inj (Option.some.inj hj)
          obtain ⟨millis, hpath⟩ := hS.path i c _ hi
          rw [callsOf_go_self]
          exact ⟨millis, hpath.snoc (hA S.world k ending r hk)⟩
        · rw [List.getElem?_set_ne hij] at hj
          rw [callsOf_go_ne hij]
          exact hS.path j c' q hj
      · replace hj : S.jobs.length ≤ j := by simpa [go] using hj
        rw [callsOf_go_ne (Nat.ne_of_lt (Nat.lt_of_lt_of_le hlt hj))]
        exact hS.idle j hj

theorem Reachable.follows (hS : Reachable registered s P w S)
    (hA : ∀ (w : World B) (k : Caller) (ending : Ending) (r : Request B.Page),
      P k.sampler → A r (w.answer k ending r).1) : Follows registered s A S := by
  induction hS with
  | start => exact ⟨fun _ _ _ hi ↦ by simp at hi, fun _ _ ↦ rfl⟩
  | step _ hstep ih => exact ih.step hA hstep

/-- Whoever the page was called for has come. -/
theorem Follows.exists_job (hS : Follows registered s A S) {called : Called}
    (h : (i, called) ∈ S.calls) : ∃ c q, S.jobs[i]? = some ⟨c, q⟩ := by
  have hmem : called ∈ S.callsOf i := mem_calls_iff.1 h
  rcases Nat.lt_or_ge i S.jobs.length with hlt | hge
  · exact ⟨S.jobs[i].call, S.jobs[i].rest, List.getElem?_eq_getElem hlt⟩
  · rw [hS.idle i hge] at hmem
    cases hmem

/-- What holds along all paths of a call, holds of how far it has come. -/
theorem Follows.always {X : Prop} {J : List Called → Prop} {Q : List Called → CallOutcome → Prop}
    {q : Operation B.Page CallOutcome} (hS : Follows registered s A S)
    (h : Operation.Always X A J Q [] (c.run registered s))
    (hi : S.jobs[i]? = some ⟨c, q⟩) : Operation.Always X A J Q (S.callsOf i) q := by
  obtain ⟨millis, hpath⟩ := hS.path i c q hi
  have hoperation : Operation.Always X A J Q [] (c.operation registered s millis) :=
    .ask h.holds fun _ _ ↦ h
  exact hoperation.path hpath

/-! ## Calls side by side -/

theorem answer_fst (s : Shared B) (i : Nat) (k : Caller) (ending : Ending) (r : Request B.Page) :
    (s.answer i k ending r).1 = (s.world.answer k ending r).1 := by
  cases r with
  | lock _ => cases ending <;> rfl
  | _ => rfl

theorem answer_world (s : Shared B) (i : Nat) (k : Caller) (ending : Ending) (r : Request B.Page) :
    (s.answer i k ending r).2.1.world = (s.world.answer k ending r).2.1 := by
  cases r with
  | lock _ => cases ending <;> rfl
  | unlock =>
      obtain ⟨world, holder, queue⟩ := s
      cases queue <;> rfl
  | _ => rfl

theorem answer_caller (s : Shared B) (i : Nat) (k : Caller) (ending : Ending) (r : Request B.Page) :
    (s.answer i k ending r).2.2 = (s.world.answer k ending r).2.2 := by
  cases r with
  | lock _ => cases ending <;> rfl
  | _ => rfl

theorem set_job {job : Job B} (hi : S.jobs[i]? = some job) : S.jobs.set i job = S.jobs := by
  obtain ⟨_, rfl⟩ := List.getElem?_eq_some_iff.1 hi
  exact List.set_getElem_self _

/-- In the world of a pool, a job goes on as the operation of the pool does. -/
theorem go_answer (m : Shared B) (hm : S.world = m.world) {r : Request B.Page}
    {next : r.Answer → Operation B.Page CallOutcome} (hi : S.jobs[i]? = some ⟨c, .ask r next⟩)
    (k : Caller) (ending : Ending) :
    (S.go i c k ending r next).jobs[i]? = some ⟨c, next (m.answer i k ending r).1⟩ ∧
      (S.go i c k ending r next).world = (m.answer i k ending r).2.1.world ∧
        (m.answer i k ending r).2.2.sampler = k.sampler := by
  have hlt := (List.getElem?_eq_some_iff.1 hi).1
  refine ⟨?_, ?_, ?_⟩
  · rw [answer_fst, ← hm]
    exact List.getElem?_set_self hlt
  · rw [answer_world, ← hm]
    rfl
  · rw [answer_caller, World.answer_sampler]

/-- A job runs as the operation of a pool does, until it has to wait. -/
theorem reachable_run (p : Operation B.Page CallOutcome) {S : Service B}
    (hS : Reachable registered s P w S) (hi : S.jobs[i]? = some ⟨c, p⟩) (m : Shared B)
    (hm : S.world = m.world) (k : Caller) (hk : P k.sampler) :
    ∃ S', Reachable registered s P w S' ∧ S'.world = (Shared.run i p m k).2.1.world ∧
      S'.jobs = S.jobs.set i ⟨c, (Shared.run i p m k).1.rest⟩ ∧
      P (Shared.run i p m k).2.2.sampler := by
  induction p generalizing S m k with
  | done a => exact ⟨S, hS, hm, (set_job hi).symm, hk⟩
  | crash reason => exact ⟨S, hS, hm, (set_job hi).symm, hk⟩
  | ask r next ih =>
      have hnote : P (k.note r).sampler := by rwa [k.note_sampler r]
      cases hbegin : m.begin (k.note r) r with
      | inr wait =>
          rw [Shared.run_of_inr hbegin]
          have hworld : (m.enqueue i r).world = m.world := by cases r <;> rfl
          exact ⟨S, hS, hm.trans hworld.symm, (set_job hi).symm, hnote⟩
      | inl ending =>
          rw [Shared.run_of_inl hbegin]
          obtain ⟨hnext, hworld, hsampler⟩ := go_answer m hm hi (k.note r) ending
          obtain ⟨S', hS', hworld', hjobs, hk'⟩ :=
            ih _ (hS.step (.goes _ ending hnote hi)) hnext _ hworld _ (hsampler ▸ hnote)
          exact ⟨S', hS', hworld', hjobs.trans (List.set_set _), hk'⟩

end Service

/-- A call that comes some milliseconds after the beginning, and its caller. -/
structure Booking where
  caller : Caller
  after : Nat
  call : ToolCall

/-- What is run for it. -/
def Booking.entry {π : Type} (registered : List Tool) (s : ToolSettings) (b : Booking) :
    Caller × Operation π CallOutcome :=
  (b.caller, b.call.operation registered s b.after)

/-- Calls of tools side by side. -/
def Booking.pool {B : Backend} (registered : List Tool) (s : ToolSettings) (w : World B)
    (bookings : List Booking) : Pool B CallOutcome :=
  Operation.together w (bookings.map (entry registered s))

namespace Service

variable {B : Backend} {registered : List Tool} {s : ToolSettings} {P : Sampler → Prop}
  {w : World B} {S : Service B}

/-- The service has come to where the pool is. -/
structure Mirrors (S : Service B) (p : Pool B CallOutcome) : Prop where
  world : S.world = p.shared.world
  rests : S.jobs.map Job.rest = p.threads.map fun t ↦ t.stage.rest

/-- Some service of these calls has come to where the pool is, and each caller there has a model
that satisfies `P`. -/
structure Hosts (registered : List Tool) (s : ToolSettings) (P : Sampler → Prop) (w : World B)
    (calls : List ToolCall) (p : Pool B CallOutcome) : Prop where
  callers : ∀ t ∈ p.threads, P t.caller.sampler
  mirrored : ∃ S, Reachable registered s P w S ∧ S.jobs.map Job.call = calls ∧ S.Mirrors p

variable {calls : List ToolCall} {p q : Pool B CallOutcome}

theorem Mirrors.job (hm : S.Mirrors p) {i : Nat} {t : Thread B CallOutcome}
    (ht : p.threads[i]? = some t) : ∃ c, S.jobs[i]? = some ⟨c, t.stage.rest⟩ := by
  have hrest : (S.jobs.map Job.rest)[i]? = some t.stage.rest := by simp [hm.rests, ht]
  rw [List.getElem?_map] at hrest
  obtain ⟨⟨c, q⟩, hget, rfl⟩ := Option.map_eq_some_iff.1 hrest
  exact ⟨c, hget⟩

theorem map_call_set {i : Nat} {c : ToolCall} {q q' : Operation B.Page CallOutcome}
    (hi : S.jobs[i]? = some ⟨c, q⟩) :
    (S.jobs.set i ⟨c, q'⟩).map Job.call = S.jobs.map Job.call := by
  have hmap : (S.jobs.map Job.call)[i]? = some c := by simp [hi]
  obtain ⟨_, hget⟩ := List.getElem?_eq_some_iff.1 hmap
  rw [List.map_set]
  change (S.jobs.map Job.call).set i c = S.jobs.map Job.call
  rw [← hget, List.set_getElem_self]

theorem Hosts.resume (hp : Hosts registered s P w calls p) {i : Nat} {ending : Ending}
    (hq : p.resume i ending = some q) : Hosts registered s P w calls q := by
  obtain ⟨S, hS, hcalls, hm⟩ := hp.mirrored
  unfold Pool.resume at hq
  split at hq
  · rename_i k r wait next ht
    obtain ⟨c, hi⟩ := hm.job ht
    have hk : P k.sampler := hp.callers _ (List.mem_of_getElem? ht)
    obtain ⟨hnext, hworld, hsampler⟩ := go_answer p.shared hm.world hi k ending
    obtain ⟨S', hS', hworld', hjobs, hk'⟩ :=
      reachable_run _ (hS.step (.goes k ending hk hi)) hnext _ hworld _ (hsampler ▸ hk)
    have hjobs' := hjobs.trans (List.set_set _)
    simp only [Option.some.injEq] at hq
    subst hq
    refine ⟨fun t ht ↦ ?_, S', hS', ?_, hworld', ?_⟩
    · rcases List.mem_or_eq_of_mem_set ht with ht | rfl
      · exact hp.callers t ht
      · exact hk'
    · rw [hjobs', map_call_set hi, hcalls]
    · rw [hjobs', List.map_set, List.map_set, hm.rests]
  · cases hq

theorem Hosts.tick (hp : Hosts registered s P w calls p) : Hosts registered s P w calls p.tick := by
  obtain ⟨S, hS, hcalls, hm⟩ := hp.mirrored
  unfold Pool.tick
  split
  · exact hp
  · rename_i t _
    have hlater : S.world.clock ≤ max p.shared.world.clock t := by
      rw [hm.world]
      exact Nat.le_max_left _ _
    exact ⟨hp.callers, _, hS.step (.later hlater), hcalls, by rw [← hm.world], hm.rests⟩

theorem Hosts.finish (hp : Hosts registered s P w calls p) :
    Hosts registered s P w calls p.finish := by
  induction p using Pool.finish.induct with
  | case1 p hstep =>
      rw [Pool.finish, hstep]
      exact hp
  | case2 p q hstep ih =>
      rw [Pool.finish, hstep]
      refine ih ?_
      simp only [Pool.step] at hstep
      split at hstep
      · exact hp.resume hstep
      · split at hstep
        · exact hp.tick.resume hstep
        · cases hstep

theorem Hosts.comes {m : Shared B} {done : List (Thread B CallOutcome)} {cursor : Nat}
    (hp : Hosts registered s P w calls ⟨m, done, cursor⟩) (b : Booking) (hb : P b.caller.sampler)
    {x : Stage B CallOutcome × Shared B × Caller}
    (hx : x = Shared.run done.length (b.call.operation registered s b.after) m b.caller) :
    Hosts registered s P w (calls ++ [b.call]) ⟨x.2.1, done ++ [⟨x.2.2, x.1⟩], cursor⟩ := by
  obtain ⟨S, hS, hcalls, hm⟩ := hp.mirrored
  have hlength : S.jobs.length = done.length := by simpa using congrArg List.length hm.rests
  have hget (job : Job B) : (S.jobs ++ [job])[done.length]? = some job := by simp [← hlength]
  obtain ⟨S', hS', hworld, hjobs, hk⟩ :=
    reachable_run _ (hS.step (.comes b.after b.call)) (hget _) m hm.world b.caller hb
  rw [← hx] at hworld hjobs hk
  have hjobs' : S'.jobs = S.jobs ++ [⟨b.call, x.1.rest⟩] := by
    refine hjobs.trans ?_
    rw [List.set_append_right _ _ (Nat.le_of_eq hlength), hlength, Nat.sub_self]
    rfl
  refine ⟨fun t ht ↦ ?_, S', hS', ?_, hworld, ?_⟩
  · rcases List.mem_append.1 ht with ht | ht
    · exact hp.callers t ht
    · obtain rfl := List.mem_singleton.1 ht
      exact hk
  · rw [hjobs', List.map_append, hcalls]
    rfl
  · rw [hjobs', List.map_append, List.map_append, hm.rests]
    rfl

theorem Hosts.startFrom {m : Shared B} {done : List (Thread B CallOutcome)} {cursor : Nat}
    (hp : Hosts registered s P w calls ⟨m, done, cursor⟩) (rest : List Booking)
    (hrest : ∀ b ∈ rest, P b.caller.sampler) :
    Hosts registered s P w (calls ++ rest.map Booking.call)
      ⟨(Pool.startFrom m done.length (rest.map (Booking.entry registered s))).1,
        done ++ (Pool.startFrom m done.length (rest.map (Booking.entry registered s))).2,
        cursor⟩ := by
  induction rest generalizing m done calls with
  | nil => simpa [Pool.startFrom] using hp
  | cons b rest ih =>
      have hcomes := hp.comes b (hrest b List.mem_cons_self) rfl
      have hnew := ih hcomes fun b hb ↦ hrest b (List.mem_cons_of_mem _ hb)
      simpa [Pool.startFrom, Booking.entry] using hnew

end Service

/-- What calls of tools side by side come to is what some service comes to. -/
theorem Booking.pool_mirrored {B : Backend} {registered : List Tool} {s : ToolSettings}
    {P : Sampler → Prop} {w : World B} (bookings : List Booking)
    (h : ∀ b ∈ bookings, P b.caller.sampler) :
    ∃ S, Service.Reachable registered s P w S ∧
      S.jobs.map Job.call = bookings.map Booking.call ∧
        S.Mirrors (pool registered s w bookings) := by
  have hempty : Service.Hosts registered s P w []
      ⟨{ world := w }, [], (bookings.map (entry (π := B.Page) registered s)).length⟩ :=
    ⟨fun _ ht ↦ absurd ht List.not_mem_nil, _, .start, rfl, rfl, rfl⟩
  have hstart := hempty.startFrom bookings h
  simp only [List.nil_append, List.length_nil] at hstart
  exact hstart.finish.mirrored

end BrowserPilot
