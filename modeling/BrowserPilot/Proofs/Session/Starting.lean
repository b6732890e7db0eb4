import BrowserPilot.Proofs.Session.Ledger
import BrowserPilot.Proofs.Session.Undisturbed

namespace BrowserPilot

/-!
# Starts and launches

A start looks whether the session has a page, launches a browser if there is none, and attaches
its page. It has the lock while it looks and while it attaches, but not in between.
-/

open Operation (Leads)

namespace Operation

variable {π α : Type}

theorem not_tail_self (p : Operation π α) : ¬ p.Tail p := by
  induction p.acc_tail with
  | intro p _ ih => exact fun h ↦ ih p h h

theorem ne_ask {r : Request π} (next : r.Answer → Operation π α) (a : r.Answer) :
    next a ≠ .ask r next :=
  fun h ↦ not_tail_self (.ask r next) (by
    have htail : (next a).Tail (.ask r next) := .here r next a
    rwa [h] at htail)

end Operation

/-- Whether a request is anything but the launch of a browser. -/
def Request.isQuiet {π : Type} : Request π → Bool
  | launch _ => false
  | _ => true

namespace Session

variable {π : Type} {c : Config}

/-- What a start does when it has looked. -/
def proceed (c : Config) : Result Bool → Operation π (Result Reply)
  | .ok true => .done (.error alreadyStarted)
  | .ok false => .ask (.launch c) fun
    | .ok page => ((Call.attach page).task c).run
    | .error e => .done (.error e)
  | .error e => .done (.error e)

/-- Where a start stands, by its record, what came of its launches, and what it has yet to do. -/
inductive Starts (c : Config) : Record → List (Result π) → Operation π (Result Reply) → Prop
  | looks {k : Record} {p : Operation π (Result Bool)} :
      Leads False (fun _ _ ↦ True) (fun k r ↦ ∃ b, k = ⟨[⟨b, [], b⟩], none⟩ ∧ r = .ok b) k p →
        p.Only Request.isQuiet → Starts c k [] (p.bind (proceed c))
  | fails {e : Failure} : Starts c ⟨[⟨false, [], false⟩], none⟩ [.error e] (.done (.error e))
  | joins {k : Record} {q : Operation π (Result Reply)} {page : π} :
      Leads False (fun _ _ ↦ True) (fun k r ↦ ∃ t joined, k = ⟨[⟨false, [], false⟩, t], none⟩ ∧
        Attaches c t joined ∧ r = joined.map fun _ ↦ .nothing) k q →
        q.Only Request.isQuiet → Starts c k [.ok page] q

theorem task_start (hvalid : c.validate = .ok ()) :
    ((Call.start : Call π).task c).run = (isActive : Task π Bool).run.bind (proceed c) := by
  simp only [Call.task, start, hvalid]
  refine (Operation.bind_assoc _ _ _).trans (congrArg _ (funext fun r ↦ ?_))
  cases r with
  | error e => rfl
  | ok active =>
      cases active with
      | true => rfl
      | false =>
          refine congrArg (Operation.ask (.launch c)) (funext fun launched ↦ ?_)
          cases launched <;> rfl

/-! ## What launches nothing -/

theorem quiet_locked {α : Type} {d : Option Deadline} {t : Task π α}
    (ht : t.run.Only Request.isQuiet) : (Task.locked d t).run.Only Request.isQuiet :=
  Task.only_bind (.ask rfl fun _ ↦ .done _) fun _ ↦ Task.only_result_bind ht fun r ↦
    Task.only_bind (Task.only_lift rfl) fun _ ↦ .done r

theorem quiet_prepare (c : Config) : (prepare c : Task π Unit).run.Only Request.isQuiet :=
  Task.only_bind (.ask rfl fun _ ↦ .done _) fun _ ↦
    Task.only_bind (.ask rfl fun _ ↦ .done _) fun _ ↦ Task.only_lift rfl

theorem quiet_occupy (c : Config) (page : π) : (occupy c page).run.Only Request.isQuiet := by
  refine Task.only_bind (Task.only_lift rfl) fun found ↦ ?_
  cases found with
  | true => exact Task.only_bind (Task.only_lift rfl) fun _ ↦ .done _
  | false =>
      refine Task.only_bind (Task.only_lift rfl) fun _ ↦
        Task.only_result_bind (quiet_prepare c) fun r ↦ ?_
      cases r with
      | ok _ => exact .done _
      | error e => exact Task.only_bind (Task.only_lift rfl) fun _ ↦ .done _

theorem quiet_isActive : (isActive : Task π Bool).run.Only Request.isQuiet :=
  quiet_locked (Task.only_lift rfl)

theorem quiet_attach (hvalid : c.validate = .ok ()) (page : π) :
    ((Call.attach page).task c).run.Only Request.isQuiet := by
  have hattach : (attach c page).run.Only Request.isQuiet := by
    simp only [attach, hvalid]
    exact quiet_locked (quiet_occupy c page)
  exact Task.only_bind hattach fun _ ↦ .done _

/-! ## From the beginning to the launch, and on from there -/

theorem starts_newcomer {B : Backend} (hvalid : c.validate = .ok ()) (millis : Nat) :
    Starts c {} [] (Traffic.newcomer (B := B) c millis .start).rest := by
  let look : Operation B.Page (Result Bool) :=
    .ask (.pause millis .never none) fun
      | .ok _ => (isActive : Task B.Page Bool).run
      | .error e => .done (.error e)
  have hrest : (Traffic.newcomer (B := B) c millis .start).rest = look.bind (proceed c) := by
    refine congrArg (Operation.ask (.pause millis .never none)) (funext fun paused ↦ ?_)
    cases paused with
    | ok _ => exact task_start hvalid
    | error e => rfl
  rw [hrest]
  refine .looks (.pause fun ending hfits ↦ ?_) (.ask rfl fun paused ↦ ?_)
  · cases ending with
    | completed => exact leads_isActive fun _ _ ↦ trivial
    | expired d => simp [Ending.Fits, Request.deadline?] at hfits
    | cancelled => simp [Ending.Fits, Request.cancellation] at hfits
  · cases paused with
    | ok _ => exact quiet_isActive
    | error e => exact .done _

theorem starts_launched (hvalid : c.validate = .ok ()) (page : π) :
    Starts c ⟨[⟨false, [], false⟩], none⟩ [.ok page] ((Call.attach page).task c).run := by
  refine .joins ?_ (quiet_attach hvalid page)
  refine Task.leads_bind (leads_attach hvalid page _ fun _ _ ↦ trivial) (fun k a h ↦ .done ?_)
    fun k e h ↦ ?_
  · obtain ⟨t, rfl, ht⟩ := h
    exact ⟨t, _, rfl, ht, rfl⟩
  · obtain ⟨t, rfl, ht⟩ := h
    exact ⟨t, _, rfl, ht, rfl⟩

theorem Starts.length_le {k : Record} {launched : List (Result π)}
    {q : Operation π (Result Reply)} (h : Starts c k launched q) : launched.length ≤ 1 := by
  cases h <;> simp

/-- What a start returns, by its tenures and what came of its launches. -/
inductive Told (c : Config) : List Tenure → List (Result π) → Result Reply → Prop
  | refused : Told c [⟨true, [], true⟩] [] (.error alreadyStarted)
  | failed {e : Failure} : Told c [⟨false, [], false⟩] [.error e] (.error e)
  | joined {page : π} {t : Tenure} {r : Result Unit} : Attaches c t r →
      Told c [⟨false, [], false⟩, t] [.ok page] (r.map fun _ ↦ .nothing)

theorem Starts.told {k : Record} {launched : List (Result π)} {r : Result Reply}
    (h : Starts c k launched (.done r)) : Told c k.past launched r := by
  generalize hq : (.done r : Operation π (Result Reply)) = q at h
  cases h with
  | @looks _ p hlook _ =>
      cases hlook with
      | done hlooked =>
          obtain ⟨b, rfl, rfl⟩ := hlooked
          cases b with
          | true =>
              obtain rfl := Operation.done.inj hq
              exact .refused
          | false => cases hq
      | crash h => exact h.elim
      | _ => cases hq
  | fails =>
      obtain rfl := Operation.done.inj hq
      exact .failed
  | joins hjoin _ =>
      subst hq
      cases hjoin with
      | done hjoined =>
          obtain ⟨t, joined, rfl, ht, rfl⟩ := hjoined
          exact .joined ht

end Session

/-! ## Starts among others -/

namespace Traffic

open Session (Starts proceed)

variable {B : Backend} {c : Config} {w : World B} {T T' : Traffic B} {i : Nat}
  {call : Session.Call B.Page} {k : Caller} {ending : Ending} {launched : List (Result B.Page)}

theorem Sound.starts_go (hs : Sound c T) {r : Request B.Page} (hr : r.isQuiet = true)
    {next : r.Answer → Operation B.Page (Result Session.Reply)} (hmay : T.MayEnd i ending r)
    (h : Starts c (T.record i) launched (.ask r next)) :
    Starts c ((T.go i call k ending r next).record i) launched
      (next (T.shared.world.answer k ending r).1) := by
  generalize hrecord : T.record i = before at h
  generalize hq : (.ask r next : Operation B.Page (Result Session.Reply)) = q at h
  cases h with
  | @looks _ p hlook hquiet =>
      cases p with
      | done looked =>
          -- what follows the look is a launch or nothing
          obtain _ | (_ | _) := looked <;> cases hq
          simp [Request.isQuiet] at hr
      | crash reason => cases hq
      | ask r' part =>
          cases hq
          cases hquiet with
          | ask _ hrest => exact .looks (hs.leads_go hmay (hrecord ▸ hlook) _) (hrest _)
  | fails => cases hq
  | joins hjoin hquiet =>
      subst hq
      cases hquiet with
      | ask _ hrest => exact .joins (hs.leads_go hmay (hrecord ▸ hjoin) _) (hrest _)

theorem Sound.starts_launch (hs : Sound c T) (hvalid : c.validate = .ok ()) {config : Config}
    {next : Result B.Page → Operation B.Page (Result Session.Reply)}
    (h : Starts c (T.record i) launched (.ask (.launch config) next)) :
    launched = [] ∧ Starts c ((T.go i call k ending (.launch config) next).record i)
      [(B.launch config T.shared.world.env).result]
      (next (B.launch config T.shared.world.env).result) := by
  have hsame : (T.go i call k ending (.launch config) next).record i = T.record i :=
    hs.record_go_still nofun nofun nofun rfl
  rw [hsame]
  generalize hrecord : T.record i = before at h
  generalize hq : (.ask (.launch config) next : Operation B.Page (Result Session.Reply)) = q at h
  cases h with
  | @looks _ p hlook hquiet =>
      cases p with
      | done looked =>
          cases hlook with
          | done hlooked =>
              obtain ⟨b, rfl, rfl⟩ := hlooked
              cases b <;> cases hq
              refine ⟨rfl, ?_⟩
              cases (B.launch c T.shared.world.env).result with
              | ok page => exact Session.starts_launched hvalid page
              | error e => exact .fails
      | crash reason => cases hq
      | ask r part =>
          cases hq
          cases hquiet with
          | ask hr _ => simp [Request.isQuiet] at hr
  | fails => cases hq
  | joins hjoin hquiet =>
      subst hq
      cases hquiet with
      | ask hr _ => simp [Request.isQuiet] at hr

/-! ## Launches -/

/-- The client at place `i` launches a browser, and `r` comes of it. -/
def Launches (T : Traffic B) (i : Nat) (r : Result B.Page) (T' : Traffic B) : Prop :=
  ∃ call config next k ending, T.clients[i]? = some ⟨call, .ask (.launch config) next⟩ ∧
    T' = T.go i call k ending (.launch config) next ∧
      r = (B.launch config T.shared.world.env).result

/-- What a world without clients comes to, and the launches on the way: who launched, and what
came of it. -/
inductive History (c : Config) (w : World B) : Traffic B → List (Nat × Result B.Page) → Prop
  | begin : History c w { shared := { world := w } } []
  | quiet {T T' : Traffic B} {ls : List (Nat × Result B.Page)} : History c w T ls →
      Step c T T' → (∀ i r, ¬ T.Launches i r T') → History c w T' ls
  | launch {T T' : Traffic B} {ls : List (Nat × Result B.Page)} {i : Nat} {r : Result B.Page} :
      History c w T ls → Step c T T' → T.Launches i r T' → History c w T' (ls ++ [(i, r)])

variable {ls : List (Nat × Result B.Page)}

/-- Whoever makes another request launches nothing by that, and neither does anybody else. -/
theorem not_launches_of_quiet {r : Request B.Page} (hr : r.isQuiet = true)
    {next : r.Answer → Operation B.Page (Result Session.Reply)}
    (hi : T.clients[i]? = some ⟨call, .ask r next⟩) (j : Nat) (launched : Result B.Page) :
    ¬ T.Launches j launched (T.go i call k ending r next) := by
  rintro ⟨call', config, next', k', ending', hj, hgo, -⟩
  have hclients := congrArg Traffic.clients hgo
  rw [go_clients, go_clients] at hclients
  by_cases hij : i = j
  · subst hij
    cases hi.symm.trans hj
    simp [Request.isQuiet] at hr
  · -- who has launched is not where it was
    have hlt := (List.getElem?_eq_some_iff.1 hj).1
    have hsame := congrArg (·[j]?) hclients
    simp only [List.getElem?_set_ne hij, List.getElem?_set_self hlt, hj, Option.some.injEq,
      Client.mk.injEq, true_and] at hsame
    exact Operation.ne_ask _ _ hsame.symm

/-- The launches after a request of the client at place `i`. -/
def launchesAfter (T : Traffic B) (i : Nat) (r : Request B.Page)
    (ls : List (Nat × Result B.Page)) : List (Nat × Result B.Page) :=
  match r with
  | .launch c => ls ++ [(i, (B.launch c T.shared.world.env).result)]
  | _ => ls

theorem History.goes (hT : History c w T ls) {r : Request B.Page}
    {next : r.Answer → Operation B.Page (Result Session.Reply)} (k : Caller)
    (hi : T.clients[i]? = some ⟨call, .ask r next⟩) (hmay : T.MayEnd i ending r) :
    History c w (T.go i call k ending r next) (T.launchesAfter i r ls) := by
  by_cases hr : r.isQuiet = true
  · have hsame : T.launchesAfter i r ls = ls := by
      cases r with
      | launch config => simp [Request.isQuiet] at hr
      | _ => rfl
    rw [hsame]
    exact hT.quiet (.goes k ending hi hmay) (not_launches_of_quiet hr hi)
  · cases r with
    | launch config => exact hT.launch (.goes k ending hi hmay) ⟨_, _, _, _, _, hi, rfl, rfl⟩
    | _ => exact absurd rfl hr

theorem History.comes (hT : History c w T ls) (millis : Nat) (call : Session.Call B.Page) :
    History c w { T with clients := T.clients ++ [newcomer c millis call] } ls := by
  refine hT.quiet (.comes millis call) ?_
  rintro i r ⟨_, _, next, k, ending, -, hgo, -⟩
  -- a launch brings nobody
  have hlength := congrArg (·.clients.length) hgo
  simp [go_clients] at hlength

theorem History.reachable (h : History c w T ls) : Reachable c w T := by
  induction h with
  | begin => exact .refl
  | quiet _ hstep _ ih | launch _ hstep _ ih => exact ih.step hstep

theorem Reachable.exists_history (h : Reachable c w T) : ∃ ls, History c w T ls := by
  induction h with
  | refl => exact ⟨[], .begin⟩
  | @step T T' _ hstep ih =>
      obtain ⟨ls, hls⟩ := ih
      by_cases hlaunch : ∃ i r, T.Launches i r T'
      · obtain ⟨i, r, hlaunch⟩ := hlaunch
        exact ⟨_, hls.launch hstep hlaunch⟩
      · exact ⟨ls, hls.quiet hstep fun i r h ↦ hlaunch ⟨i, r, h⟩⟩

/-- What came of the launches of the client at place `i`. -/
def launchesOf (i : Nat) (ls : List (Nat × Result B.Page)) : List (Result B.Page) :=
  (ls.filter (·.1 == i)).map Prod.snd

theorem launchesOf_concat_self (i : Nat) (ls : List (Nat × Result B.Page)) (r : Result B.Page) :
    launchesOf i (ls ++ [(i, r)]) = launchesOf i ls ++ [r] := by
  simp [launchesOf]

theorem launchesOf_concat_of_ne {j : Nat} (hj : j ≠ i) (ls : List (Nat × Result B.Page))
    (r : Result B.Page) : launchesOf j (ls ++ [(i, r)]) = launchesOf j ls := by
  simp [launchesOf, Ne.symm hj]

/-- Every start stands where its record and its launches say, and who has launched has come. -/
structure Traced (c : Config) (T : Traffic B) (ls : List (Nat × Result B.Page)) : Prop where
  starts : ∀ i q, T.clients[i]? = some ⟨.start, q⟩ → Starts c (T.record i) (launchesOf i ls) q
  places : ∀ l ∈ ls, l.1 < T.clients.length

theorem Traced.launchesOf_of_le (h : Traced c T ls) (hi : T.clients.length ≤ i) :
    launchesOf i ls = [] := by
  refine List.map_eq_nil_iff.2 (List.filter_eq_nil_iff.2 fun l hl ↦ ?_)
  have hlt := h.places l hl
  simp only [beq_iff_eq]
  lia

theorem Traced.comes (h : Traced c T ls) (hs : Sound c T) (hvalid : c.validate = .ok ())
    (millis : Nat) (call : Session.Call B.Page) :
    Traced c { T with clients := T.clients ++ [newcomer c millis call] } ls where
  starts := by
    intro i q hget
    rcases Nat.lt_or_ge i T.clients.length with hi | hi
    · exact h.starts i q ((List.getElem?_append_left hi).symm.trans hget)
    · rw [List.getElem?_append_right hi] at hget
      have hzero : i - T.clients.length = 0 := by
        have hlt := (List.getElem?_eq_some_iff.1 hget).1
        simpa using hlt
      obtain ⟨rfl, rfl⟩ : call = .start ∧ (newcomer c millis call).rest = q := by
        simpa [hzero, newcomer] using hget
      change Starts c (T.record i) _ _
      rw [record_of_place_ge hs hi, h.launchesOf_of_le hi]
      exact Session.starts_newcomer hvalid millis
  places := fun l hl ↦ by
    have hlt := h.places l hl
    simp only [List.length_append, List.length_singleton]
    lia

/-- The client at place `i` goes on. -/
theorem Traced.move (h : Traced c T ls) {ls' : List (Nat × Result B.Page)}
    {p q : Operation B.Page (Result Session.Reply)} (hi : T.clients[i]? = some ⟨call, p⟩)
    (hclients : T'.clients = T.clients.set i ⟨call, q⟩)
    (hothers : ∀ j ≠ i, T'.record j = T.record j ∧ launchesOf j ls' = launchesOf j ls)
    (hself : call = .start → Starts c (T'.record i) (launchesOf i ls') q)
    (hplaces : ∀ l ∈ ls', l ∈ ls ∨ l.1 = i) : Traced c T' ls' where
  starts := by
    intro j q' hget
    rw [hclients] at hget
    by_cases hj : j = i
    · subst hj
      have hlt := (List.getElem?_eq_some_iff.1 hi).1
      obtain ⟨rfl, rfl⟩ : call = .start ∧ q = q' := by
        simpa [List.getElem?_set, hlt] using hget
      exact hself rfl
    · rw [List.getElem?_set_ne (Ne.symm hj)] at hget
      obtain ⟨hrecord, hlaunches⟩ := hothers j hj
      rw [hrecord, hlaunches]
      exact h.starts j q' hget
  places := fun l hl ↦ by
    rw [hclients, List.length_set]
    rcases hplaces l hl with hl | hl
    · exact h.places l hl
    · exact hl ▸ (List.getElem?_eq_some_iff.1 hi).1

theorem History.traced (h : History c w T ls) (hvalid : c.validate = .ok ())
    (hslot : w.slot = none) : Traced c T ls := by
  induction h with
  | begin => exact ⟨by simp, by simp⟩
  | @quiet T T' ls hT hstep hquiet ih =>
      have hs := hT.reachable.sound hslot
      cases hstep with
      | comes millis call => exact ih.comes hs hvalid millis call
      | later _ => exact ⟨ih.starts, ih.places⟩
      | asks _ _ _ _ => exact ⟨ih.starts, ih.places⟩
      | @goes i call r next k ending hi hmay =>
          have hr : r.isQuiet = true := by
            cases r with
            | launch config => exact absurd ⟨_, _, _, _, _, hi, rfl, rfl⟩ (hquiet i _)
            | _ => rfl
          refine ih.move hi (go_clients r next) (fun j hj ↦ ?_) ?_ fun l hl ↦ .inl hl
          · exact ⟨hs.record_go_of_ne hi hmay hj, rfl⟩
          · rintro rfl
            exact hs.starts_go hr hmay (ih.starts i _ hi)
  | @launch T T' ls i r hT _ hlaunch ih =>
      have hs := hT.reachable.sound hslot
      obtain ⟨call, config, next, k, ending, hi, rfl, rfl⟩ := hlaunch
      refine ih.move hi (go_clients _ next) (fun j hj ↦ ?_) ?_ fun l hl ↦ ?_
      · exact ⟨record_go_work_of_ne nofun nofun hj, launchesOf_concat_of_ne hj ls _⟩
      · rintro rfl
        obtain ⟨hnone, hstarts⟩ := hs.starts_launch hvalid (ih.starts i _ hi)
        rw [launchesOf_concat_self, hnone]
        exact hstarts
      · rcases List.mem_append.1 hl with hl | hl
        · exact .inl hl
        · exact .inr (congrArg Prod.fst (List.mem_singleton.1 hl))

end Traffic

end BrowserPilot
