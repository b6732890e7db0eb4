import BrowserPilot.Proofs.Research.Exchange
import BrowserPilot.Research.Run

namespace BrowserPilot.Research

/-!
# The course of a research

A round of a search is two exchanges, and a search is a row of rounds. A research is a plan,
the searches that it names and a report, and it ends early at the first exchange that fails.
-/

variable {B : Backend} {wall : Zone → CivilTime} {σ α : Type}

/-- What comes of asking the model in a role for what `r` reads. -/
inductive Heard (s : Settings) (role : Role) (prompt : String) (r : Json.RecordReader σ α) :
    List Exchange → Result α → Prop
  | understood {text : String} {a : α} (hread : readReply r text = .ok a) :
      Heard s role prompt r [⟨request s role prompt, .ok text⟩] (.ok a)
  | refused (e : Failure) : Heard s role prompt r [⟨request s role prompt, .error e⟩] (.error e)
  | garbled {text : String} {why : Json.Located} (hread : readReply r text = .error why) :
      Heard s role prompt r [⟨request s role prompt, .ok text⟩] (.error (unreadable role why))

theorem askFor_converses (s : Settings) (role : Role) (prompt : String)
    (r : Json.RecordReader σ α) :
    Task.Converses wall (askFor s .never role prompt r : Task B.Page α)
      (Heard s role prompt r) := by
  refine (Task.Converses.sample (request s role prompt)).bind ?_ ?_
  · rintro text xs rfl
    cases hread : readReply r text with
    | ok a => exact .pure a (.understood hread)
    | error why => exact .throw _ (.garbled hread)
  · rintro e xs rfl
    exact .refused e

/-! ## Rounds -/

/-- A round in which the model found something and its reflection could be read. -/
structure Round where
  searchPrompt : String
  found : String
  reflectPrompt : String
  reply : String
  verdict : Reflection
  read : readReply Reflection.reader reply = .ok verdict

def Round.exchanges (s : Settings) (r : Round) : List Exchange :=
  [⟨request s .searcher r.searchPrompt, .ok r.found⟩,
    ⟨request s .reflector r.reflectPrompt, .ok r.reply⟩]

def Round.isSufficient (r : Round) : Bool := r.verdict.isSufficient

/-- The rounds ask what they must when the query and the results before them are these. -/
def Follows (question reason : String) : (query : String) → (results : List String) →
    List Round → Prop
  | _, _, [] => True
  | query, results, r :: rs =>
    r.searchPrompt = Research.searchPrompt query reason ∧
      r.reflectPrompt = Research.reflectPrompt question (results ++ [r.found]) ∧
      Follows question reason (nextQuery query r.verdict) (results ++ [r.found]) rs

/-- The number of rounds that a search takes: up to the first verdict that the results suffice,
or `max` if none of that many says so. -/
def roundsUntil (max : Nat) (verdicts : List Bool) : Nat :=
  match (verdicts.take max).findIdx? id with
  | some i => i + 1
  | none => max

section roundsUntil

variable {n : Nat} {vs ws : List Bool}

@[simp] theorem roundsUntil_zero : roundsUntil 0 vs = 0 := rfl

@[simp] theorem roundsUntil_nil : roundsUntil n [] = n := by
  simp [roundsUntil]

theorem roundsUntil_cons {v : Bool} :
    roundsUntil (n + 1) (v :: vs) = if v then 1 else roundsUntil n vs + 1 := by
  cases v
  · cases h : (vs.take n).findIdx? id <;> simp [roundsUntil, List.findIdx?_cons, h]
  · simp [roundsUntil, List.findIdx?_cons]

theorem roundsUntil_le (n : Nat) (vs : List Bool) : roundsUntil n vs ≤ n := by
  induction vs generalizing n with
  | nil => simp
  | cons v vs ih =>
      cases n with
      | zero => simp
      | succ n =>
          have := ih n
          rw [roundsUntil_cons]
          split <;> omega

/-- The verdicts of later searches do not matter to a search that is complete. -/
theorem roundsUntil_append (h : vs.length = roundsUntil n vs) :
    roundsUntil n (vs ++ ws) = vs.length := by
  induction vs generalizing n with
  | nil =>
      obtain rfl : n = 0 := by simpa using h.symm
      rfl
  | cons v vs ih =>
      cases n with
      | zero => simp at h
      | succ n =>
          rw [List.cons_append, roundsUntil_cons]
          rw [roundsUntil_cons] at h
          cases v with
          | false => simpa using ih (by simpa using h)
          | true => simpa using h.symm

end roundsUntil

/-! ## Searches -/

/-- A round that fails at its search or at its reflection. -/
inductive Broken (s : Settings) (reason : String) : List Exchange → Failure → Prop
  | search (query : String) (e : Failure) :
      Broken s reason [⟨request s .searcher (searchPrompt query reason), .error e⟩] e
  | reflection {query prompt found : String} {xs : List Exchange} {e : Failure}
      (h : Heard s .reflector prompt Reflection.reader xs (.error e)) :
      Broken s reason (⟨request s .searcher (searchPrompt query reason), .ok found⟩ :: xs) e

/-- What comes of at most `n` rounds of a search. -/
inductive Searched (s : Settings) (question reason : String) (n : Nat) (query : String)
    (results : List String) : List Exchange → Result (List String) → Prop
  | whole (rs : List Round) (hfollows : Follows question reason query results rs)
      (hlength : rs.length = roundsUntil n (rs.map Round.isSufficient)) :
      Searched s question reason n query results (rs.flatMap (Round.exchanges s))
        (.ok (results ++ rs.map Round.found))
  | broken (rs : List Round) {tail : List Exchange} {e : Failure}
      (hfollows : Follows question reason query results rs)
      (hlength : rs.length < roundsUntil n (rs.map Round.isSufficient))
      (htail : Broken s reason tail e) :
      Searched s question reason n query results (rs.flatMap (Round.exchanges s) ++ tail) (.error e)

section

variable {s : Settings} {question reason query : String} {n : Nat} {results : List String}
  {r : Round}

theorem Searched.last (hsearch : r.searchPrompt = searchPrompt query reason)
    (hreflect : r.reflectPrompt = reflectPrompt question (results ++ [r.found]))
    (hcontent : r.isSufficient = true) :
    Searched s question reason (n + 1) query results (r.exchanges s)
      (.ok (results ++ [r.found])) := by
  simpa using Searched.whole (s := s) (n := n + 1) [r] ⟨hsearch, hreflect, trivial⟩
    (by simp [roundsUntil_cons, hcontent])

/-- A round after which the search goes on. -/
theorem Searched.cons {xs : List Exchange} {result : Result (List String)}
    (hsearch : r.searchPrompt = searchPrompt query reason)
    (hreflect : r.reflectPrompt = reflectPrompt question (results ++ [r.found]))
    (hgap : r.isSufficient = false)
    (h : Searched s question reason n (nextQuery query r.verdict) (results ++ [r.found]) xs
      result) :
    Searched s question reason (n + 1) query results (r.exchanges s ++ xs) result := by
  cases h with
  | whole rs hfollows hlength =>
      simpa using Searched.whole (s := s) (n := n + 1) (r :: rs) ⟨hsearch, hreflect, hfollows⟩
        (by simp [roundsUntil_cons, hgap, hlength])
  | broken rs hfollows hlength htail =>
      simpa using Searched.broken (s := s) (n := n + 1) (r :: rs) ⟨hsearch, hreflect, hfollows⟩
        (by simpa [roundsUntil_cons, hgap] using hlength) htail

theorem search_converses (s : Settings) (question reason : String) (n round : Nat) (query : String)
    (results : List String) :
    Task.Converses wall (search s .never question reason n round query results : Task B.Page _)
      (Searched s question reason n query results) := by
  induction n generalizing round query results with
  | zero =>
      refine Task.Converses.pure results ?_
      simpa using Searched.whole [] trivial rfl
  | succ n ih =>
      refine (Task.Converses.sample _).bind ?_ ?_
      · rintro found xs rfl
        refine (askFor_converses _ _ _ _).bind ?_ ?_
        · rintro verdict ys hheard
          cases hheard with
          | @understood reply verdict hread =>
              -- The round is complete, and its verdict decides whether another one follows.
              let r : Round := ⟨searchPrompt query reason, found,
                reflectPrompt question (results ++ [found]), reply, verdict, hread⟩
              cases hverdict : verdict.isSufficient with
              | true =>
                  rw [if_pos rfl]
                  refine Task.Converses.log_bind (Task.Converses.pure _ ?_)
                  exact Searched.last (r := r) rfl rfl hverdict
              | false =>
                  refine Task.Converses.log_bind ((ih _ _ _).mono fun xs result h ↦ ?_)
                  exact Searched.cons (r := r) rfl rfl hverdict h
        · rintro e ys hheard
          exact Searched.broken [] trivial (by simp) (.reflection hheard)
      · rintro e xs rfl
        exact Searched.broken [] trivial (by simp) (.search _ e)

end

/-- What comes of a row of planned searches. -/
inductive SearchedAll (s : Settings) (question : String) :
    List PlannedSearch → List Exchange → Result (List String) → Prop
  | nil : SearchedAll s question [] [] (.ok [])
  | broken {p : PlannedSearch} {ps : List PlannedSearch} {xs : List Exchange} {e : Failure}
      (hsearch : Searched s question p.reason s.maxRounds.toNat p.query [] xs (.error e)) :
      SearchedAll s question (p :: ps) xs (.error e)
  | cons {p : PlannedSearch} {ps : List PlannedSearch} {xs ys : List Exchange}
      {first : List String} {others : Result (List String)}
      (hsearch : Searched s question p.reason s.maxRounds.toNat p.query [] xs (.ok first))
      (hothers : SearchedAll s question ps ys others) :
      SearchedAll s question (p :: ps) (xs ++ ys) (others.map (first ++ ·))

theorem searchAll_converses (s : Settings) (question : String) (ps : List PlannedSearch) :
    Task.Converses wall (searchAll s .never question ps : Task B.Page _)
      (SearchedAll s question ps) := by
  induction ps with
  | nil => exact .pure [] .nil
  | cons p ps ih =>
      refine (search_converses _ _ _ _ _ _ _).bind ?_ fun e xs ↦ .broken
      intro first xs hsearch
      refine ih.bind ?_ fun e ys ↦ .cons hsearch
      intro others ys hothers
      refine .pure _ ?_
      rw [List.append_nil]
      exact .cons hsearch hothers

/-- What comes of a research. -/
inductive Researched (s : Settings) (question : String) (now : CivilTime) :
    List Exchange → Result String → Prop
  | unplanned {xs : List Exchange} {e : Failure}
      (hplan : Heard s .planner (planPrompt question) Plan.reader xs (.error e)) :
      Researched s question now xs (.error e)
  | broken {xs ys : List Exchange} {plan : Plan} {e : Failure}
      (hplan : Heard s .planner (planPrompt question) Plan.reader xs (.ok plan))
      (hsearches : SearchedAll s question plan.searches ys (.error e)) :
      Researched s question now (xs ++ ys) (.error e)
  | written {xs ys : List Exchange} {plan : Plan} {found : List String} {report : Result String}
      (hplan : Heard s .planner (planPrompt question) Plan.reader xs (.ok plan))
      (hsearches : SearchedAll s question plan.searches ys (.ok found)) :
      Researched s question now
        (xs ++ (ys ++ [⟨request s .writer (writePrompt now question found), report⟩])) report

theorem run_converses (s : Settings) (question : String) :
    Task.Converses wall (run s .never question : Task B.Page _)
      (Researched s question (wall .utc)) := by
  refine (askFor_converses _ _ _ _).bind ?_ fun e xs ↦ .unplanned
  intro plan xs hplan
  refine Task.Converses.log_bind ?_
  refine (searchAll_converses _ _ _).bind ?_ fun e ys ↦ .broken hplan
  intro found ys hsearches
  refine Task.Converses.wallClock_bind ?_
  refine (Task.Converses.sample _).mono ?_
  rintro zs report rfl
  exact .written hplan hsearches

end BrowserPilot.Research
