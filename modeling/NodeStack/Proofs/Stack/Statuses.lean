import NodeStack.Api.Handler
import NodeStack.Proofs.Stack.Round
import NodeStack.Scenario.World.Inquiries

/-!
# `NodeStack.Proofs.Stack.Statuses`: the statuses of all services, as they are collected and listed

* `Plays`: the status of an understudy goes as its act says. `behaves_plays`: a world with
  understudies is what rounds ask for.
* `run_handle_statuses`: what a client is told who asks for all statuses.
* `statuses_complete`: every service has one entry, which nothing but its own computation and the
  time until the deadline decide; the round is over by the deadline.
-/

set_option autoImplicit false

namespace NodeStack.Scenario

open Plan (Progress)
open Service (Act Inquiry)
open Stack (Behaves Conduct Happens)

/-! ### Understudies -/

/-- How the status of an understudy goes that begins to act at a time. -/
def conductOf (now : Nat) : Act → Conduct
  | .answer delay text => .answers (now + delay) text
  | .never => .endless
  | .crash text => .crashes now text

/-- The status of an understudy that has come to its act. -/
def StatusTask.acting (t : StatusTask) (act : Act) (flight : Option InquiryFlight) : StatusTask :=
  { t with progress := .waiting (Inquiry.act act) flight }

/-- The status of an understudy whose container runs: nobody has looked at it, or it acts. -/
inductive Plays : Bool → Conduct → StatusTask → World → Prop where
  | fresh {t : StatusTask} {w : World} (act : Act)
    (plan : t.progress = .ofPlan (Service.understudyStatus act))
    (running : (w.baseOf t.service).isRunning) : Plays false (conductOf w.now act) t w
  | answering (t : StatusTask) (w : World) (delay due : Nat) (text : String) :
    Plays true (.answers due text) (t.acting (.answer delay text) (some (.act (some due)))) w
  | hanging (t : StatusTask) (w : World) :
    Plays true .endless (t.acting .never (some (.act none))) w

namespace World

section
variable (service : Nat) (w : World)

@[simp] theorem now_noteAsked : (w.noteAsked service).now = w.now := by
  unfold noteAsked count
  split <;> rfl

@[simp] theorem baseOf_noteAsked (other : Nat) :
    (w.noteAsked service).baseOf other = w.baseOf other := by
  unfold noteAsked count
  split <;> rfl

end

/-- The first look at the status of an understudy whose container runs comes to its act. -/
theorem pollStatus_fresh {t : StatusTask} {w : World} {act : Act}
    (plan : t.progress = .ofPlan (Service.understudyStatus act))
    (running : (w.baseOf t.service).isRunning) :
    pollStatus t w = pollStatus (t.acting act none) w := by
  have hadvance : (Service.understudyStatus act).advance (lookInquiry t.deadline t.service) none w =
      (Inquiry.act act).advance (lookInquiry t.deadline t.service) none w := by
    show Plan.advance _ (if (w.baseOf t.service).isRunning then Inquiry.act act else _) none w = _
    rw [if_pos running]
  simp only [pollStatus, plan, StatusTask.acting, Progress.ofPlan, Progress.resume, hadvance]

/-- A look at an understudy that acts is a look at its act. -/
theorem pollStatus_acting (t : StatusTask) (act : Act) (flight : Option InquiryFlight) (w : World) :
    pollStatus (t.acting act flight) w =
      match w.lookAct t.service flight act with
      | (.answered text, w) => (.inr (.text text), w)
      | (.waiting flight, w) => (.inl (t.acting act (some flight)), w)
      | (.crashed text, w) => (.inr (.crashed text), w) := by
  have hadvance : (Inquiry.act act).advance (lookInquiry t.deadline t.service) flight w =
      match w.lookAct t.service flight act with
      | (.answered text, w) => (.ended text, w)
      | (.waiting flight, w) => (.waiting (Inquiry.act act) (some flight), w)
      | (.crashed text, w) => (.crashed text, w) := by
    refine (Plan.advance.eq_2 _ _ _ _ _).trans ?_
    rcases hlook : w.lookAct t.service flight act with ⟨look, w'⟩
    rw [show lookInquiry t.deadline t.service (.act act) flight w = (look, w') from hlook]
    cases look <;> rfl
  simp only [pollStatus, StatusTask.acting, Progress.resume, hadvance]
  rcases w.lookAct t.service flight act with ⟨look, w'⟩
  cases look <;> rfl

/-- What a look at an understudy shows. It changes nothing but how often that was asked. -/
theorem pollStatus_plays {begun : Bool} {b : Conduct} {t : StatusTask} {w : World}
    (h : Plays begun b t w) :
    ((pollStatus t w).2 = w ∨ (pollStatus t w).2 = w.noteAsked t.service) ∧
    (match b.endingBy w.now with
      | some ending => (pollStatus t w).1 = .inr ending
      | none => ∃ u, (pollStatus t w).1 = .inl u ∧ ∀ w', Plays true b u w') := by
  cases h with
  | fresh act plan running =>
    rw [pollStatus_fresh plan running, pollStatus_acting]
    cases act with
    | answer delay text =>
      simp only [lookAct, judgeAct, conductOf, Conduct.endingBy]
      by_cases hdue : w.now + delay ≤ w.now
      · rw [if_pos hdue, if_pos hdue]
        exact ⟨Or.inr rfl, rfl⟩
      · rw [if_neg hdue, if_neg hdue]
        exact ⟨Or.inr rfl, _, rfl, fun w' => .answering t w' delay _ text⟩
    | never => exact ⟨Or.inr rfl, _, rfl, fun w' => .hanging t w'⟩
    | crash text =>
      simp only [conductOf, Conduct.endingBy, Nat.le_refl, if_true]
      exact ⟨Or.inr rfl, rfl⟩
  | answering t w delay due text =>
    rw [pollStatus_acting]
    simp only [lookAct, judgeAct, Conduct.endingBy]
    by_cases hdue : due ≤ w.now
    · rw [if_pos hdue, if_pos hdue]
      exact ⟨Or.inl rfl, rfl⟩
    · rw [if_neg hdue, if_neg hdue]
      exact ⟨Or.inl rfl, _, rfl, fun w' => .answering t w' delay due text⟩
  | hanging t w =>
    rw [pollStatus_acting]
    exact ⟨Or.inl rfl, _, rfl, fun w' => .hanging t w'⟩

/-- A look at an understudy leaves the others alone. -/
theorem plays_noteAsked {begun : Bool} {b : Conduct} {t : StatusTask} {w : World} (service : Nat)
    (h : Plays begun b t w) : Plays begun b t (w.noteAsked service) := by
  cases h with
  | fresh act plan running =>
    rw [← now_noteAsked service w]
    exact .fresh act plan (by rwa [baseOf_noteAsked])
  | answering t w delay due text => exact .answering t _ delay due text
  | hanging t w => exact .hanging t _

theorem behaves_plays : Behaves pollStatus World.now Plays where
  instant h := by
    rcases (pollStatus_plays h).1 with he | he <;> rw [he]
    exact now_noteAsked _ _
  apart h hu := by
    rcases (pollStatus_plays h).1 with he | he <;> rw [he]
    · exact hu
    · exact plays_noteAsked _ hu
  ended h he := by
    have hshown := (pollStatus_plays h).2
    rwa [he] at hshown
  going h he := by
    have hshown := (pollStatus_plays h).2
    rw [he] at hshown
    obtain ⟨u, hu, hplays⟩ := hshown
    exact ⟨u, hu, hplays _⟩

/-- Nothing but the clock matters to understudies. -/
theorem happens_plays {deadline : Nat} {f : World → World}
    (stops : ∀ w, w.now < deadline → (f w).now ≤ deadline) :
    Happens World.now Plays deadline f where
  stops := stops
  undisturbed h := by
    cases h with
    | answering t w delay due text => exact .answering t _ delay due text
    | hanging t w => exact .hanging t _

theorem names_statusTasks (deadline : Nat) (w : World) :
    (w.statusTasks deadline).map (·.1) = w.registry.services.map (·.name) := by
  refine List.ext_getElem (by simp [statusTasks, Stack.Registry.size]) fun i hi hi' => ?_
  have hlt : i < w.registry.services.length := by simpa using hi'
  simp [statusTasks, nameOf, Stack.Registry.get?, List.getElem?_eq_getElem hlt]

/-- In a world of understudies whose containers run, all statuses go as the acts say. -/
theorem plays_statusTasks {w : World} {act : String → Act}
    (hkinds : ∀ service s, w.registry.get? service = some s →
      (∃ failsToClose, s.kind = .understudy (act s.name) failsToClose) ∧
        (w.baseOf service).isRunning)
    (deadline : Nat) (name : String) (task : StatusTask)
    (h : (name, task) ∈ w.statusTasks deadline) :
    Plays false (conductOf w.now (act name)) task w := by
  obtain ⟨i, hi, he⟩ := List.mem_map.mp h
  cases he
  have hlt : i < w.registry.services.length := List.mem_range.mp hi
  have hs : w.registry.get? i = some w.registry.services[i] := List.getElem?_eq_getElem hlt
  obtain ⟨⟨failsToClose, hkind⟩, hrunning⟩ := hkinds i _ hs
  rw [show w.nameOf i = w.registry.services[i].name by simp [nameOf, hs]]
  refine .fresh _ ?_ hrunning
  simp only [statusTask, hs, Service.status, hkind]

end World

end NodeStack.Scenario

namespace NodeStack.Stack

open Api (View)

/-! ### All statuses -/

/-- What a client is told who asks for all statuses. -/
theorem run_handle_statuses {view : View} {request : Api.Request}
    (hmethod : request.method = "GET") (hroute : Api.Route.find? request.segments = some .statuses)
    (answer : (q : Api.Question) → q.Answer) :
    (Api.handle view request).run answer =
      (.ofJson 200 (Api.statusList view.registry (answer .statuses)), [.statuses]) := by
  have htakes : Api.Route.statuses.takes "GET" = true := by decide
  unfold Api.handle
  rw [hroute, hmethod]
  simp only [htakes, if_true]
  rfl

example : Api.Route.find? (Api.Request.segments ⟨"GET", "/api/v1/status", none, ""⟩) =
    some .statuses := by
  cbv

theorem statusList_eq {registry : Registry} {d : Dict String} {report : String → String}
    (h : ∀ service ∈ registry.services, Dict.get? service.name d = some (report service.name)) :
    Api.statusList registry d = .arr (registry.services.map fun service =>
      Api.statusJson service.name (report service.name)) := by
  refine congrArg Json.arr (List.map_congr_left fun service hm => ?_)
  rw [h service hm, Option.getD_some]

/-- The statuses of the services of a registry, collected on a clock, whatever their computations do
and whatever else goes on. `b` says how the computation for each name goes: it is over or breaks
down at some time, or is never over. The first look comes before the clock moves.

* The round is over by the deadline, or at once if that has passed. It can be under way only before
  the deadline.
* Its names are just those of the services, each once.
* The entry of a service is its status, or the text with which the computation broke down, if that
  came by the deadline, and else `Error: timeout`. No other service has a say in it, nor has the
  order of the services. A deadline that has passed leaves time for what is over at the first look;
  if the grace has passed as well, there is no look.
* The response to a client lists those entries, one for each service, in the order of the
  registry. -/
theorem statuses_complete (registry : Registry) (b : String → Conduct) {α σ : Type}
    {poll : α → σ → Reading α × σ} {time : σ → Nat} {plays : Bool → Conduct → α → σ → Prop}
    (hp : Behaves poll time plays) {tasks : List (String × α)}
    (hnames : tasks.map (·.1) = registry.services.map (·.name)) (deadline : Nat) {s : σ}
    (htasks : ∀ name task, (name, task) ∈ tasks → plays false (b name) task s)
    {meanwhile : List (σ → σ)} (hm : ∀ f ∈ meanwhile, Happens time plays deadline f) :
    let report (name : String) : String :=
      if deadline + grace ≤ time s then "Error: timeout"
      else (b name).reportBy (max (time s) deadline)
    match (Round.start deadline (time s) tasks).follow poll time (id :: meanwhile) s with
    | .inl (now, d) =>
      now ≤ max (time s) deadline ∧
      (d.map (·.1)).Perm (registry.services.map (·.name)) ∧
      (∀ service ∈ registry.services, Dict.get? service.name d = some (report service.name)) ∧
      ∀ (view : Api.View) (request : Api.Request) (answer : (q : Api.Question) → q.Answer),
        view.registry = registry → request.method = "GET" →
        Api.Route.find? request.segments = some .statuses → answer .statuses = d →
        (Api.handle view request).run answer =
          (.ofJson 200 (.arr (registry.services.map fun service =>
            Api.statusJson service.name (report service.name))), [.statuses])
    | .inr (_, s') => time s' < deadline := by
  intro report
  have hnodup : (tasks.map (·.1)).Nodup := hnames ▸ registry.nodup
  have hround : Round.Concludes (tasks.map (·.1)) report time deadline (max (time s) deadline)
      ((Round.start deadline (time s) tasks).follow poll time (id :: meanwhile) s) := by
    by_cases hover : deadline + grace ≤ time s
    · obtain ⟨d, hd, hresult⟩ := Round.result?_start_of_grace hnodup hover
      rw [Round.follow_of_result hd]
      simp only [report, if_pos hover]
      exact ⟨Nat.le_max_left _ _, hresult⟩
    · simp only [report, if_neg hover]
      exact Round.follow_start hp hnodup htasks hm (Nat.lt_of_not_le hover)
  generalize (Round.start deadline (time s) tasks).follow poll time (id :: meanwhile) s = outcome
    at hround ⊢
  match outcome with
  | .inr (_, s') => exact hround
  | .inl (now, d) =>
    obtain ⟨hnow, hperm, hreports⟩ := hround
    rw [hnames] at hperm hreports
    have hentries : ∀ service ∈ registry.services,
        Dict.get? service.name d = some (report service.name) := fun service hservice =>
      hreports _ (List.mem_map_of_mem hservice)
    refine ⟨hnow, hperm, hentries, fun view request answer hview hmethod hroute hanswer => ?_⟩
    rw [run_handle_statuses hmethod hroute, hview, hanswer, statusList_eq hentries]

open Scenario (Plays World)

/-- Three understudies: one answers after a while, one hangs, one breaks down. -/
def trio : Registry :=
  ⟨[⟨"good", .understudy (.answer 10 "Ready") false, ⟨"good", false, ""⟩⟩,
    ⟨"hung", .understudy .never false, ⟨"hung", false, ""⟩⟩,
    ⟨"broken", .understudy (.crash (some "boom")) false, ⟨"broken", false, ""⟩⟩], by decide⟩

/-- A world in which the containers of the three run. -/
def trioWorld : World :=
  { World.ofRegistry 1000 trio [] false none with
    watches := fun _ => some { Engine.Watch.ofName "" with
      current := some ⟨"1", "", "running", none, []⟩ } }

/-- How the three act. -/
def trioAct (name : String) : Service.Act :=
  if name = "good" then .answer 10 "Ready"
  else if name = "hung" then .never
  else .crash (some "boom")

/-- Time passes until a deadline. -/
def passTo (deadline : Nat) (w : World) : World := { w with now := max w.now deadline }

theorem kinds_trio (service : Nat) (s : Service) (h : trio.get? service = some s) :
    (∃ failsToClose, s.kind = .understudy (trioAct s.name) failsToClose) ∧
      (trioWorld.baseOf service).isRunning := by
  match service with
  | 0 | 1 | 2 =>
    cases h
    exact ⟨⟨false, rfl⟩, rfl⟩
  | _ + 3 => cases h

theorem happens_passTo (deadline : Nat) :
    ∀ f ∈ [passTo deadline], Happens World.now Plays deadline f := by
  intro f hf
  rw [List.mem_singleton.mp hf]
  exact World.happens_plays fun w hw => Nat.max_le.mpr ⟨Nat.le_of_lt hw, Nat.le_refl _⟩

/-- The one that hangs is given up at the deadline, and takes nothing from the others. -/
theorem statuses_complete_hung :
    ∃ now d, (trioWorld.round 500).follow World.pollStatus World.now [id, passTo 500] trioWorld =
        .inl (now, d) ∧
      now ≤ 500 ∧ (d.map (·.1)).Perm ["good", "hung", "broken"] ∧
      Dict.get? "good" d = some "Ready" ∧ Dict.get? "hung" d = some "Error: timeout" ∧
      Dict.get? "broken" d = some "Error: boom" := by
  have hover : ((trioWorld.round 500).follow World.pollStatus World.now [id, passTo 500]
      trioWorld).isLeft := rfl
  have hstatuses := statuses_complete trio (fun name => Scenario.conductOf 0 (trioAct name))
    World.behaves_plays (World.names_statusTasks 500 trioWorld) 500
    (World.plays_statusTasks kinds_trio 500) (happens_passTo 500)
  rw [← World.round] at hstatuses
  generalize (trioWorld.round 500).follow World.pollStatus World.now [id, passTo 500] trioWorld =
    outcome at hover hstatuses ⊢
  match outcome with
  | .inr _ => cases hover
  | .inl (now, d) =>
    obtain ⟨hnow, hperm, hentries, -⟩ := hstatuses
    exact ⟨now, d, rfl, hnow, hperm, hentries _ List.mem_cons_self,
      hentries _ (List.mem_cons_of_mem _ List.mem_cons_self),
      hentries _ (List.mem_cons_of_mem _ (List.mem_cons_of_mem _ List.mem_cons_self))⟩

end NodeStack.Stack
